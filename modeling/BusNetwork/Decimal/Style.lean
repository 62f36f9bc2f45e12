import BusNetwork.Decimal.Shortest

/-!
# Number styles: how shortest digits are laid out

A number is written with its shortest digits, positionally or with an exponent. **What differs from
one kind of output to another is a handful of decisions, collected in `Style`.** Two styles are in
use:

* `Style.plain`, for messages and coordinates, never uses an exponent and writes whole numbers
  without a point;
* `Style.interchange`, for documents, writes a point in every positional number, uses an exponent
  outside `10 ^ -5` to `10 ^ 16`, and has no text for what is not a number but `null`.
-/

namespace BusNetwork.Decimal

/-- The decisions of one way of writing floating point numbers. -/
structure Style where
  /-- Whether a number whose leading digit counts `10 ^ e` is written positionally. -/
  positional : Int → Bool
  /-- What follows the last digit of a whole number written positionally. -/
  wholeSuffix : String
  /-- Which of two equally near decimals is written. -/
  tie : Tie
  /-- The text of an undefined number. -/
  undefined : String
  /-- The text of positive infinity. -/
  infinite : String
  /-- The text of negative infinity. -/
  negativeInfinite : String

/-- Numbers in messages and coordinates: always positional, and no point in a whole number. -/
def Style.plain : Style where
  positional _ := true
  wholeSuffix := ""
  tie := .upward
  undefined := "NaN"
  infinite := "inf"
  negativeInfinite := "-inf"

/-- Numbers in documents: a point or an exponent in each, and `null` for what is not finite. -/
def Style.interchange : Style where
  positional e := -5 ≤ e && e ≤ 15
  wholeSuffix := ".0"
  tie := .toEven
  undefined := "null"
  infinite := "null"
  negativeInfinite := "null"

namespace Style

/-- Digits laid out positionally: the point stands before, inside or after them. -/
def layPositional (style : Style) (d : Digits) : String :=
  if d.leading < 0 then
    "0." ++ String.ofList (List.replicate (-d.leading - 1).toNat '0' ++ d.digits)
  else
    let wholePlaces := d.leading.toNat + 1
    let whole := d.digits.take wholePlaces
    let fraction := d.digits.drop wholePlaces
    let padded := String.ofList (whole ++ List.replicate (wholePlaces - whole.length) '0')
    if fraction.isEmpty then padded ++ style.wholeSuffix
    else padded ++ "." ++ String.ofList fraction

/-- Digits laid out with one digit before the point and a signed exponent. -/
def layScientific (d : Digits) : String :=
  let mantissa := match d.digits with
    | first :: second :: rest => String.ofList (first :: '.' :: second :: rest)
    | digits => String.ofList digits
  let sign := if d.leading < 0 then "-" else "+"
  mantissa ++ "e" ++ sign ++ String.ofList (Nat.toDigits 10 d.leading.natAbs)

/-- Digits laid out as the style decides for their size. -/
def lay (style : Style) (d : Digits) : String :=
  if style.positional d.leading then style.layPositional d else layScientific d

/-- The text of the number with the given bits. -/
def writeBits (style : Style) (bits : UInt64) : String :=
  let negative := bits.toNat / 0x8000000000000000 == 1
  let sign := if negative then "-" else ""
  if bits.toNat / 0x10000000000000 % 0x800 == 0x7FF then
    if bits.toNat % 0x10000000000000 != 0 then style.undefined
    else if negative then style.negativeInfinite else style.infinite
  else if bits.toNat % 0x8000000000000000 == 0 then
    sign ++ "0" ++ style.wholeSuffix
  else
    sign ++ style.lay ((Magnitude.ofBits bits).shortest style.tie)

/-- The text of a floating point number. -/
def write (style : Style) (x : Float) : String := style.writeBits x.toBits

/-! ## The styles by example -/

example : [6.0, -0.5, 1e21, 1e-7, -0.0, 2.98023223876953125e-8].map plain.write =
    ["6", "-0.5", "1000000000000000000000", "0.0000001", "-0", "0.000000029802322387695313"] := by
  decide +kernel

example : [6.0, 0.1, 1e15, 1e16, 1e-5, 1.5e-7, -0.0, 5e-324].map interchange.write =
    ["6.0", "0.1", "1000000000000000.0", "1e+16", "0.00001", "1.5e-7", "-0.0", "5e-324"] := by
  decide +kernel

end Style

end BusNetwork.Decimal
