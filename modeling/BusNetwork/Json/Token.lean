/-!
# Tokens: strings and numbers as they stand in a JSON text

A JSON text is a sequence of bytes. The two tokens with an inner form, strings and numbers, are kept
as they were written, because **what a token means depends on whether its value is wanted**: a
string that is only passed over may hold escapes that make no character and bytes that are no text,
and a number that is only passed over may be too large. `BusNetwork.Json.Value` gives tokens their
values.

A text can break off inside a token. A token says so itself, so that a reader who goes through a
text from the left learns of it exactly when it comes to the token.
-/

namespace BusNetwork.Json

/-- How a text fails to be JSON. -/
inductive Break where
  /-- Something stands where it may not. -/
  | malformed
  /-- The text ends too early. -/
  | truncated
  deriving Repr, DecidableEq

/-! ## Bytes -/

/-- The byte of an ASCII character. -/
def byteOf (c : Char) : UInt8 := UInt8.ofNat c.toNat

/-- Whether a byte is white space between tokens. -/
def isBlank (b : UInt8) : Bool :=
  b == byteOf ' ' || b == byteOf '\n' || b == byteOf '\t' || b == byteOf '\r'

/-- Whether a byte is a decimal digit. -/
def isDigit (b : UInt8) : Bool := byteOf '0' ≤ b && b ≤ byteOf '9'

/-- The value of a byte as a digit in base sixteen. -/
def hexValue (b : UInt8) : Option Nat :=
  if isDigit b then some (b.toNat - 48)
  else if byteOf 'a' ≤ b && b ≤ byteOf 'f' then some (b.toNat - 87)
  else if byteOf 'A' ≤ b && b ≤ byteOf 'F' then some (b.toNat - 55)
  else none

/-! ## Strings -/

/-- A piece of a string token. -/
inductive Piece where
  /-- A byte of the string's text, written as itself or by a one-letter escape. -/
  | byte (b : UInt8)
  /-- A code unit of sixteen bits, written by its number. -/
  | unit (code : Nat)
  deriving Repr, DecidableEq

/-- A string token, from its opening quote on. -/
structure Quotation where
  /-- What stands between the quotes. -/
  pieces : List Piece
  /-- Why the closing quote is not reached, if it is not. -/
  broken : Option Break
  deriving Repr, DecidableEq

namespace Quotation

/-- A token that ends at once. -/
def nothing (broken : Option Break) : Quotation := ⟨[], broken⟩

/-- A token with one more piece in front. -/
def cons (piece : Piece) (token : Quotation) : Quotation :=
  { token with pieces := piece :: token.pieces }

/-- The byte that a one-letter escape stands for. -/
def escaped (letter : UInt8) : Option UInt8 :=
  if letter == byteOf '"' || letter == byteOf '\\' || letter == byteOf '/' then some letter
  else if letter == byteOf 'b' then some 8
  else if letter == byteOf 'f' then some 12
  else if letter == byteOf 'n' then some 10
  else if letter == byteOf 'r' then some 13
  else if letter == byteOf 't' then some 9
  else none

/-- The number that four digits in base sixteen stand for. -/
def codeUnit (a b c d : UInt8) : Option Nat := do
  let a ← hexValue a
  let b ← hexValue b
  let c ← hexValue c
  let d ← hexValue d
  some (((a * 16 + b) * 16 + c) * 16 + d)

/-- The string token whose opening quote was just passed, and the bytes after its closing quote. In
the patterns `0x22` is the quote, `0x5C` the backslash and `0x75` the letter `u`. -/
def scan : List UInt8 → Quotation × List UInt8
  | [] => (nothing (some .truncated), [])
  | 0x22 :: rest => (nothing none, rest)
  | 0x5C :: 0x75 :: a :: b :: c :: d :: rest =>
    match codeUnit a b c d with
    | some code =>
      let (token, after) := scan rest
      (token.cons (.unit code), after)
    | none => (nothing (some .malformed), [])
  | 0x5C :: 0x75 :: _ => (nothing (some .truncated), [])
  | [0x5C] => (nothing (some .truncated), [])
  | 0x5C :: letter :: rest =>
    match escaped letter with
    | some b =>
      let (token, after) := scan rest
      (token.cons (.byte b), after)
    | none => (nothing (some .malformed), [])
  | b :: rest =>
    if b < 0x20 then (nothing (some .malformed), [])
    else
      let (token, after) := scan rest
      (token.cons (.byte b), after)

end Quotation

/-! ## Numbers -/

/-- A number token: digits before the point, digits after it, and an exponent. -/
structure Numeral where
  /-- Whether a minus sign stands in front. -/
  negative : Bool
  /-- The digits before the point. -/
  whole : List UInt8
  /-- The digits after the point, if there is one. -/
  fraction : Option (List UInt8)
  /-- Whether the exponent is negative, and its digits, if there is one. -/
  exponent : Option (Bool × List UInt8)
  deriving Repr, DecidableEq

namespace Numeral

/-- The digits at the front of a text, at least one, and what follows them. -/
def someDigits (bytes : List UInt8) : Except Break (List UInt8 × List UInt8) :=
  match bytes with
  | [] => .error .truncated
  | b :: _ =>
    if isDigit b then .ok (bytes.takeWhile isDigit, bytes.dropWhile isDigit)
    else .error .malformed

/-- The digits before the point, among which a leading zero stands alone. -/
def scanWhole (bytes : List UInt8) : Except Break (List UInt8 × List UInt8) := do
  let (digits, rest) ← someDigits bytes
  if digits.head? == some (byteOf '0') && 1 < digits.length then throw .malformed
  return (digits, rest)

/-- The point, which is `0x2E`, and the digits after it, if there is a point. -/
def scanFraction : List UInt8 → Except Break (Option (List UInt8) × List UInt8)
  | 0x2E :: rest => do
    let (digits, rest) ← someDigits rest
    return (some digits, rest)
  | bytes => return (none, bytes)

/-- The sign of an exponent: whether it is a minus, which is `0x2D`, and what follows it. A plus,
which is `0x2B`, changes nothing. -/
def scanSign : List UInt8 → Bool × List UInt8
  | 0x2D :: rest => (true, rest)
  | 0x2B :: rest => (false, rest)
  | bytes => (false, bytes)

/-- The exponent, if there is one. -/
def scanExponent (bytes : List UInt8) :
    Except Break (Option (Bool × List UInt8) × List UInt8) :=
  match bytes with
  | b :: rest =>
    if b == byteOf 'e' || b == byteOf 'E' then do
      let (negative, rest) := scanSign rest
      let (digits, rest) ← someDigits rest
      return (some (negative, digits), rest)
    else return (none, bytes)
  | [] => return (none, [])

/-- A minus sign: whether there is one, and what follows it. -/
def scanMinus : List UInt8 → Bool × List UInt8
  | 0x2D :: rest => (true, rest)
  | bytes => (false, bytes)

/-- The number token at the front of a text, and what follows it. -/
def scan (bytes : List UInt8) : Except Break (Numeral × List UInt8) := do
  let (negative, rest) := scanMinus bytes
  let (whole, rest) ← scanWhole rest
  let (fraction, rest) ← scanFraction rest
  let (exponent, rest) ← scanExponent rest
  return (⟨negative, whole, fraction, exponent⟩, rest)

end Numeral

end BusNetwork.Json
