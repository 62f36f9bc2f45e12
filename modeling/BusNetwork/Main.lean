import BusNetwork.CommandLine
import BusNetwork.Program

/-!
# The executable

Reads the document, writes the responses, and ends with 0 when they were written, 1 when the
document was not answered and 2 when the arguments make no sense. Nothing is logged on the way.
-/

namespace BusNetwork.Executable

/-- All bytes that a stream still holds. -/
partial def readAll (stream : IO.FS.Stream) (read : ByteArray) : IO ByteArray := do
  let chunk ← stream.read 65536
  if chunk.isEmpty then return read else readAll stream (read ++ chunk)

/-- The bytes of the document, if it can be read. -/
def documentBytes (input : Option String) : IO (Option (List UInt8)) := do
  try
    let bytes ← match input with
      | some path => IO.FS.readBinFile path
      | none => readAll (← IO.getStdin) ByteArray.empty
    return some bytes.toList
  catch _ => return none

/-- Do what the arguments ask for. -/
def run (arguments : List String) : IO UInt32 := do
  match CommandLine.parse arguments with
  | .error error =>
    IO.eprintln s!"error: {error.message}"
    return 2
  | .ok .version =>
    IO.print CommandLine.versionText
    return 0
  | .ok .help =>
    IO.print CommandLine.helpText
    return 0
  | .ok (.answer options) =>
    match answerText (← documentBytes options.input) options.parallel none with
    | .ok text =>
      IO.print text
      return 0
    | .error error =>
      IO.eprintln error.message
      return 1

end BusNetwork.Executable

/-- The program. -/
def main (arguments : List String) : IO UInt32 := BusNetwork.Executable.run arguments
