import BusNetwork.Json.Token

/-!
# Trees: a JSON text by its structure, as far as it goes

Every sequence of bytes has a tree. **Where the text stops being JSON the tree has a broken place,
and nothing after it**, so a reader that goes through the tree from the left meets what is wrong
with the text where it is, after everything that stands before it. A document whose third member
has the wrong type and whose fourth is cut off is refused for its third.

* `Tree.broken` stands where no value could be recognised.
* An array or an object that is not closed says so behind its last element.
* `Tree.cutNumber` is a number that the end of the text cuts off: truncated for a reader who wants
  its value, malformed for one who passes it over.
-/

namespace BusNetwork.Json

/-- A JSON text by its structure. -/
inductive Tree where
  /-- The literal for nothing. -/
  | null
  /-- A truth value. -/
  | boolean (b : Bool)
  /-- A number. -/
  | number (token : Numeral)
  /-- A number that the end of the text cuts off. -/
  | cutNumber
  /-- A string. -/
  | string (token : Quotation)
  /-- An array, and why it is not closed, if it is not. -/
  | array (items : List Tree) (broken : Option Break)
  /-- An object, and why it is not closed, if it is not. -/
  | object (members : List (Quotation × Tree)) (broken : Option Break)
  /-- A place where no value could be recognised. -/
  | broken (cause : Break)
  deriving Repr

namespace Tree

/-- What follows white space. -/
def skipBlank (bytes : List UInt8) : List UInt8 := bytes.dropWhile isBlank

/-- A literal of which the first letter was recognised: the rest of its letters have to follow. -/
def literal (tree : Tree) : List Char → List UInt8 → Tree × Option (List UInt8)
  | [], bytes => (tree, some bytes)
  | _ :: _, [] => (broken .truncated, none)
  | c :: letters, b :: bytes =>
    if b == byteOf c then literal tree letters bytes else (broken .malformed, none)

/-- The number at the front of a text, and what follows it. -/
def ofNumeral (bytes : List UInt8) : Tree × Option (List UInt8) :=
  match Numeral.scan bytes with
  | .ok (token, rest) => (number token, some rest)
  | .error .truncated => (cutNumber, none)
  | .error .malformed => (broken .malformed, none)

/-- What follows a token, if the token is whole. -/
def afterQuotation (token : Quotation) (rest : List UInt8) :
    Option (List UInt8) :=
  if token.broken.isNone then some rest else none

/-- What follows an element of an array or object: another one, the end of the collection, or
something that may not stand there. -/
inductive Following where
  /-- A comma, and then the given bytes. -/
  | another (rest : List UInt8)
  /-- The closing bracket, and then the given bytes. -/
  | close (rest : List UInt8)
  /-- Neither. -/
  | neither (cause : Break)

/-- What follows an element of a collection with the given closing bracket. -/
def following (bracket : UInt8) (bytes : List UInt8) : Following :=
  match skipBlank bytes with
  | [] => .neither .truncated
  | b :: rest =>
    if b == byteOf ',' then .another rest
    else if b == bracket then .close rest
    else .neither .malformed

mutual

/-- The value at the front of a text, and what follows it if it is whole. `fuel` bounds the number
of nested steps; twice the length of the text is enough. -/
def value : Nat → List UInt8 → Tree × Option (List UInt8)
  | 0, _ => (broken .malformed, none)
  | fuel + 1, bytes =>
    match skipBlank bytes with
    | [] => (broken .truncated, none)
    | b :: rest =>
      if b == byteOf 'n' then literal null ['u', 'l', 'l'] rest
      else if b == byteOf 't' then literal (boolean true) ['r', 'u', 'e'] rest
      else if b == byteOf 'f' then literal (boolean false) ['a', 'l', 's', 'e'] rest
      else if b == byteOf '"' then
        let (token, rest) := Quotation.scan rest
        (string token, afterQuotation token rest)
      else if b == byteOf '[' then
        match skipBlank rest with
        | [] => (array [] (some .truncated), none)
        | c :: after =>
          if c == byteOf ']' then (array [] none, some after)
          else
            let (items, ending, rest) := nextItems fuel rest
            (array items ending, rest)
      else if b == byteOf '\x7b' then
        match skipBlank rest with
        | [] => (object [] (some .truncated), none)
        | c :: after =>
          if c == byteOf '\x7d' then (object [] none, some after)
          else
            let (members, ending, rest) := nextMembers fuel rest
            (object members ending, rest)
      else if b == byteOf '-' || isDigit b then ofNumeral (b :: rest)
      else (broken .malformed, none)

/-- The items of an array from one on, why it is not closed, and what follows its bracket. -/
def nextItems : Nat → List UInt8 → List Tree × Option Break × Option (List UInt8)
  | 0, _ => ([], some .malformed, none)
  | fuel + 1, bytes =>
    match value fuel bytes with
    | (item, none) => ([item], some .malformed, none)
    | (item, some rest) =>
      match following (byteOf ']') rest with
      | .neither cause => ([item], some cause, none)
      | .close rest => ([item], none, some rest)
      | .another rest =>
        let (items, ending, rest) := nextItems fuel rest
        (item :: items, ending, rest)

/-- The members of an object from one on, why it is not closed, and what follows its bracket. -/
def nextMembers :
    Nat → List UInt8 → List (Quotation × Tree) × Option Break × Option (List UInt8)
  | 0, _ => ([], some .malformed, none)
  | fuel + 1, bytes =>
    match skipBlank bytes with
    | [] => ([], some .truncated, none)
    | b :: rest =>
      if b != byteOf '"' then ([], some .malformed, none)
      else
        let (key, rest) := Quotation.scan rest
        match skipBlank rest with
        | [] => ([(key, broken .truncated)], some .truncated, none)
        | colon :: rest =>
          if colon != byteOf ':' then ([(key, broken .malformed)], some .malformed, none)
          else
            match value fuel rest with
            | (member, none) => ([(key, member)], some .malformed, none)
            | (member, some rest) =>
              match following (byteOf '\x7d') rest with
              | .neither cause => ([(key, member)], some cause, none)
              | .close rest => ([(key, member)], none, some rest)
              | .another rest =>
                let (members, ending, rest) := nextMembers fuel rest
                ((key, member) :: members, ending, rest)

end

/-- The tree of a text, and whether anything but white space follows its value. -/
def ofBytes (bytes : List UInt8) : Tree × Bool :=
  let (tree, rest) := value (2 * bytes.length + 2) bytes
  (tree, rest.any fun rest => !(skipBlank rest).isEmpty)

end Tree

end BusNetwork.Json
