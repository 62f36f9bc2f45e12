/-!
# The command line

The program takes the path of a document with `-i` or `--input`, reads standard input without one,
and takes `--parallel`, which changes nothing about its output. **Arguments are taken from the left,
and the first that decides what happens does**: a request for the version or for help comes through
if nothing before it was wrong.
-/

namespace BusNetwork.CommandLine

/-- What was asked for so far. -/
structure Options where
  /-- The path of the document, if not standard input. -/
  input : Option String := none
  /-- Whether questions may be answered all at once. -/
  parallel : Bool := false
  deriving Repr, DecidableEq

/-- What the program is to do. -/
inductive Command where
  /-- Answer a document. -/
  | answer (options : Options)
  /-- Tell the version. -/
  | version
  /-- Tell the options. -/
  | help
  deriving Repr, DecidableEq

/-- Why arguments make no sense. -/
inductive UsageError where
  /-- There is no such option, or it stands where none may. -/
  | unexpectedArgument (argument : String)
  /-- An option that takes no value has one. -/
  | unexpectedValue (argument : String)
  /-- An option that takes a value has none, or an empty one. -/
  | missingValue (option : String)
  /-- An option comes twice. -/
  | repeated (option : String)
  deriving Repr, DecidableEq

/-- The error in words. -/
def UsageError.message : UsageError → String
  | unexpectedArgument argument => "unexpected argument '" ++ argument ++ "' found"
  | unexpectedValue argument => "unexpected value in '" ++ argument ++ "'"
  | missingValue option => "a value is required for '" ++ option ++ "' but none was supplied"
  | repeated option => "the argument '" ++ option ++ "' cannot be used multiple times"

/-- The program's name and version. -/
def versionText : String := "transit-catalogue 0.1.0\n"

/-- The program's options. -/
def helpText : String :=
  "Answer bus, stop and route queries for a transit network document\n\n" ++
  "Usage: transit-catalogue [OPTIONS]\n\n" ++
  "Options:\n" ++
  "  -i, --input <INPUT>  Request document to read. Reads stdin when omitted\n" ++
  "      --parallel       Answer statistics requests on all cores\n" ++
  "  -h, --help           Print help\n" ++
  "  -V, --version        Print version\n"

/-- The kinds of argument. -/
inductive Argument where
  /-- The end of options. -/
  | separator
  /-- An option by its long name, and the value attached to it after an equals sign. -/
  | long (name : String) (value : Option String)
  /-- An option by its letter, and what follows the letter. -/
  | short (letter : Char) (rest : List Char)
  /-- No option. -/
  | plain
  deriving Repr, DecidableEq

/-- The kind of an argument. A hyphen alone is no option. -/
def Argument.ofString (argument : String) : Argument :=
  match argument.toList with
  | ['-', '-'] => separator
  | '-' :: '-' :: chars =>
    let name := String.ofList (chars.takeWhile (· != '='))
    match chars.dropWhile (· != '=') with
    | [] => long name none
    | _ :: value => long name (some (String.ofList value))
  | '-' :: letter :: rest => short letter rest
  | _ => plain

/-- The value attached to an option by its letter: what follows the letter, less an equals sign. -/
def attachedValue : List Char → String
  | '=' :: value => String.ofList value
  | value => String.ofList value

/-- The options with a path for the document. -/
def Options.setInput (options : Options) (path : String) : Except UsageError Options :=
  if options.input.isSome then .error (.repeated "--input <INPUT>")
  else if path.isEmpty then .error (.missingValue "--input <INPUT>")
  else .ok { options with input := some path }

/-- The options with questions answered all at once. -/
def Options.setParallel (options : Options) : Except UsageError Options :=
  if options.parallel then .error (.repeated "--parallel")
  else .ok { options with parallel := true }

/-- What the program is to do, given what was asked for so far and the arguments left. -/
def parseFrom (options : Options) : List String → Except UsageError Command
  | [] => .ok (.answer options)
  | argument :: rest =>
    match Argument.ofString argument with
    | .separator =>
      match rest with
      | [] => .ok (.answer options)
      | other :: _ => .error (.unexpectedArgument other)
    | .plain => .error (.unexpectedArgument argument)
    | .long name value =>
      if name == "input" then
        match value, rest with
        | some path, rest => do parseFrom (← options.setInput path) rest
        | none, [] => .error (.missingValue "--input <INPUT>")
        | none, path :: rest =>
          if Argument.ofString path == .plain then do
            parseFrom (← options.setInput path) rest
          else .error (.missingValue "--input <INPUT>")
      else if value.isSome then .error (.unexpectedValue argument)
      else if name == "parallel" then do parseFrom (← options.setParallel) rest
      else if name == "version" then .ok .version
      else if name == "help" then .ok .help
      else .error (.unexpectedArgument argument)
    | .short letter attached =>
      if letter == 'i' then
        match attached, rest with
        | [], [] => .error (.missingValue "--input <INPUT>")
        | [], path :: rest =>
          if Argument.ofString path == .plain then do
            parseFrom (← options.setInput path) rest
          else .error (.missingValue "--input <INPUT>")
        | attached, rest => do parseFrom (← options.setInput (attachedValue attached)) rest
      else if letter == 'V' then .ok .version
      else if letter == 'h' then .ok .help
      else .error (.unexpectedArgument argument)

/-- What the program is to do with the given arguments. -/
def parse (arguments : List String) : Except UsageError Command := parseFrom {} arguments

/-! ## The command line by example -/

example : (parse ["-i=doc", "--parallel", "--"]).toOption = some (.answer ⟨some "doc", true⟩) := by
  decide +kernel

example : (parse ["-V", "extra"]).toOption = some .version := by decide +kernel

example : (parse ["--input", "-V"]).toOption = none := by decide +kernel

end BusNetwork.CommandLine
