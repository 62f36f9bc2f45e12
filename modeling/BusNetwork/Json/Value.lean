import BusNetwork.Json.Tree

/-!
# Values: what a JSON text says

A tree is read in one of two ways. **Reading a value takes every token at its word**: escapes have
to make characters, bytes have to be text, numbers have to be in range, and no more than 127
brackets may be open at once. **Passing over a value asks only for its form.** Both go from the left
and stop at the first broken place.

An integer within 64 bits is an integer; every other number is in floating point, and so is minus
zero. The latter is computed in floating point from the leading digits and a power of ten, so it can
lie beside the number nearest to what is written.
-/

namespace BusNetwork.Json

/-! ## Strings -/

/-- The sixteen-bit code units that come in pairs: the first of a pair. -/
def isLeading (code : Nat) : Bool := 0xD800 ≤ code && code ≤ 0xDBFF

/-- The second of a pair of code units. -/
def isTrailing (code : Nat) : Bool := 0xDC00 ≤ code && code ≤ 0xDFFF

/-- The code point of a pair of code units. -/
def pairedPoint (leading trailing : Nat) : Nat :=
  (leading - 0xD800) * 0x400 + (trailing - 0xDC00) + 0x10000

/-- The bytes of a code point as text. -/
def pointBytes (point : Nat) : List UInt8 := String.utf8EncodeChar (Char.ofNat point)

/-- The bytes of a string token. `broken` is why the token does not end, if it does not: a first
unit at its very end waits for a second one in vain. -/
def pieceBytes (broken : Option Break) : List Piece → Except Break (List UInt8)
  | [] => .ok []
  | .byte b :: rest => do return b :: (← pieceBytes broken rest)
  | [.unit code] =>
    if isLeading code then .error (broken.getD .malformed)
    else if isTrailing code then .error .malformed
    else .ok (pointBytes code)
  | .unit code :: .unit next :: rest =>
    if isLeading code then
      if isTrailing next then do
        return pointBytes (pairedPoint code next) ++ (← pieceBytes broken rest)
      else .error .malformed
    else if isTrailing code then .error .malformed
    else do return pointBytes code ++ (← pieceBytes broken (.unit next :: rest))
  | .unit code :: .byte b :: rest =>
    if isLeading code || isTrailing code then .error .malformed
    else do return pointBytes code ++ (← pieceBytes broken (.byte b :: rest))

/-- The text of a string token. -/
def Quotation.text (token : Quotation) : Except Break String := do
  let bytes ← pieceBytes token.broken token.pieces
  match token.broken with
  | some cause => throw cause
  | none =>
    match String.fromUTF8? ⟨bytes.toArray⟩ with
    | some text => return text
    | none => throw .malformed

/-! ## Numbers -/

/-- A number's value. -/
inductive Number where
  /-- An integer of at most 64 bits. -/
  | integer (n : Int)
  /-- A number in floating point. -/
  | float (x : Float)
  deriving Repr

namespace Numeral

/-- The value of a digit. -/
def digitValue (digit : UInt8) : Nat := digit.toNat - 48

/-- A number with digits appended to it, as many as leave it below `2 ^ 64`, and the digits that are
left over. -/
def absorb (n : Nat) : List UInt8 → Nat × List UInt8
  | [] => (n, [])
  | digit :: rest =>
    let longer := 10 * n + digitValue digit
    if longer < 2 ^ 64 then absorb longer rest else (n, digit :: rest)

/-- The exponent that is written, or zero. -/
def writtenExponent (token : Numeral) : Int :=
  match token.exponent with
  | none => 0
  | some (negative, digits) =>
    let n : Int := digits.foldl (fun n digit => 10 * n + digitValue digit) 0
    if negative then -n else n

/-- The leading digits of a token as one whole number below `2 ^ 64`, and the power of ten that it
is scaled by. Digits before the point that do not fit raise that power; digits after the point that
do not fit have no effect. -/
def scaled (token : Numeral) : Nat × Int :=
  let (whole, dropped) := absorb 0 token.whole
  let fraction := token.fraction.getD []
  let (coefficient, ignored) := absorb whole fraction
  (coefficient,
    (dropped.length : Int) + ignored.length - fraction.length + token.writtenExponent)

/-- The largest exponent for which floating point has a power of ten. -/
def powerLimit : Nat := 308

/-- A power of ten in floating point. -/
def powerOfTen (places : Nat) : Float := Float.ofScientific 1 false places

/-- A number below `2 ^ 64` times a power of ten, **rounded at every step**: the number is rounded
to floating point, and so is its product with the power, or its quotient by the power of the
opposite exponent. A quotient is taken in two steps where one power does not reach, and after two
whole powers nothing is left of the number; a product with a power out of reach is infinite. -/
def magnitude (coefficient : Nat) (exponent : Int) : Float :=
  let x := Float.ofNat coefficient
  let places := exponent.natAbs
  if coefficient == 0 then 0.0
  else if 0 ≤ exponent then
    if places ≤ powerLimit then x * powerOfTen places else 1.0 / 0.0
  else if places ≤ powerLimit then x / powerOfTen places
  else if places ≤ 2 * powerLimit then
    x / powerOfTen powerLimit / powerOfTen (places - powerLimit)
  else 0.0

/-- The value of a number token in floating point. -/
def toFloat (token : Numeral) : Float :=
  let (coefficient, exponent) := token.scaled
  let x := magnitude coefficient exponent
  if token.negative then -x else x

/-- The value of a number token; one that is too large has none. -/
def value (token : Numeral) : Except Break Number :=
  let (n, dropped) := absorb 0 token.whole
  let isWhole := dropped.isEmpty && token.fraction.isNone && token.exponent.isNone
  if isWhole && !token.negative then .ok (.integer n)
  else if isWhole && 0 < n && Int64.minValue.toInt ≤ -n then .ok (.integer (-n))
  else
    let x := token.toFloat
    if x.isFinite then .ok (.float x) else .error .malformed

end Numeral

/-! ## Whole values -/

/-- A JSON value. -/
inductive Value where
  /-- Nothing. -/
  | null
  /-- A truth value. -/
  | boolean (b : Bool)
  /-- A number. -/
  | number (n : Number)
  /-- A text. -/
  | string (text : String)
  /-- Values in order. -/
  | array (items : List Value)
  /-- Values by key in order; a key may come twice. -/
  | object (members : List (String × Value))
  deriving Repr

/-- The number of brackets that may be open at once where values are read. -/
def nestingLimit : Nat := 127

/-- A result, unless something was not closed. -/
def closed {β : Type} (broken : Option Break) (result : β) : Except Break β :=
  match broken with
  | some cause => .error cause
  | none => .ok result

namespace Tree

mutual

/-- The value of a tree below a number of open brackets. -/
def read (depth : Nat) : Tree → Except Break Value
  | null => .ok .null
  | boolean b => .ok (.boolean b)
  | number token => do return .number (← token.value)
  | cutNumber => .error .truncated
  | string token => do return .string (← token.text)
  | array items ending =>
    if depth < nestingLimit then do closed ending (.array (← readItems (depth + 1) items))
    else .error .malformed
  | object members ending =>
    if depth < nestingLimit then do closed ending (.object (← readMembers (depth + 1) members))
    else .error .malformed
  | broken cause => .error cause

/-- The values of an array's items. -/
def readItems (depth : Nat) : List Tree → Except Break (List Value)
  | [] => .ok []
  | item :: rest => do
    let first ← read depth item
    return first :: (← readItems depth rest)

/-- The keys and values of an object's members. -/
def readMembers (depth : Nat) : List (Quotation × Tree) → Except Break (List (String × Value))
  | [] => .ok []
  | (key, member) :: rest => do
    let name ← key.text
    let first ← read depth member
    return (name, first) :: (← readMembers depth rest)

end

mutual

/-- Pass over a tree: nothing but its form is asked for. -/
def skip : Tree → Except Break Unit
  | null => .ok ()
  | boolean _ => .ok ()
  | number _ => .ok ()
  | cutNumber => .error .malformed
  | string token => closed token.broken ()
  | array items ending => do
    skipItems items
    closed ending ()
  | object members ending => do
    skipMembers members
    closed ending ()
  | broken cause => .error cause

/-- Pass over an array's items. -/
def skipItems : List Tree → Except Break Unit
  | [] => .ok ()
  | item :: rest => do
    skip item
    skipItems rest

/-- Pass over an object's members. -/
def skipMembers : List (Quotation × Tree) → Except Break Unit
  | [] => .ok ()
  | (key, member) :: rest => do
    closed key.broken ()
    skip member
    skipMembers rest

end

end Tree

end BusNetwork.Json
