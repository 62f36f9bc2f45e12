/-!
# Shortest decimals: the fewest digits that read back

A binary floating point number stands for every real number that rounds to it. **Its shortest
decimal is the one with the fewest digits among those reals, and of these the nearest to the
number.** Everything here is exact arithmetic on natural numbers: a number is `significand` times
a power of two, and a decimal is tried by scaling both to whole numbers.

* `Magnitude.onGrid` looks for a multiple of a given power of ten that reads back;
* `Magnitude.shortest` tries the powers of ten from the leading digit downwards and takes the first
  that has one.

On any grid only the two multiples around the number have to be tried, because the reals that
round to it form an interval that contains it.
-/

namespace BusNetwork.Decimal

/-- A positive binary number `significand * 2 ^ exponent`. -/
structure Magnitude where
  /-- The whole number that is scaled. -/
  significand : Nat
  /-- The power of two that it is scaled by. -/
  exponent : Int
  /-- Whether the number below is half as far away as the number above, as it is for the powers of
  two at which the spacing changes. -/
  narrowBelow : Bool
  deriving Repr, DecidableEq

/-- The magnitude of a finite 64-bit floating point number, from its bits. -/
def Magnitude.ofBits (bits : UInt64) : Magnitude :=
  let hiddenBit := 0x10000000000000
  let fraction := bits.toNat % hiddenBit
  let biased : Nat := bits.toNat / hiddenBit % 0x800
  if biased = 0 then
    ⟨fraction, -1074, false⟩
  else
    ⟨hiddenBit + fraction, (biased : Int) - 1075, fraction == 0 && 1 < biased⟩

/-- How to choose between two decimals that are equally near. -/
inductive Tie where
  /-- The one whose last digit is even. -/
  | toEven
  /-- The larger one. -/
  | upward
  deriving Repr, DecidableEq

/-- A positive decimal `d₁.d₂d₃… * 10 ^ leading`, its digits without zeros at either end. -/
structure Digits where
  /-- The digits, the leading one first. -/
  digits : List Char
  /-- The power of ten that the leading digit counts. -/
  leading : Int
  deriving Repr, DecidableEq

/-- The digits of `coefficient * 10 ^ exponent`, with trailing zeros dropped. -/
def Digits.ofScaled (coefficient : Nat) (exponent : Int) : Digits :=
  let digits := Nat.toDigits 10 coefficient
  ⟨(digits.reverse.dropWhile (· == '0')).reverse, exponent + digits.length - 1⟩

namespace Magnitude

/-- One step of the significand, measured in the `scale`-th part of `10 ^ g`. -/
def unit (x : Magnitude) (g : Int) : Nat := Nat.pow 10 (-g).toNat <<< x.exponent.toNat

/-- The number of equal parts that `10 ^ g` is divided into, such that the number is a whole number
of them: `significand * unit` parts. -/
def scale (x : Magnitude) (g : Int) : Nat := Nat.pow 10 g.toNat <<< (-x.exponent).toNat

/-- Whether a point still rounds to the number, given twice its distance from it and the distance of
the next number on that side. The midpoint itself rounds to the even significand. -/
def covers (x : Magnitude) (doubled gap : Nat) : Bool :=
  doubled < gap || (doubled == gap && x.significand % 2 == 0)

/-- The multiple of `10 ^ g` nearest to the number, as a count of `10 ^ g`, among those that read
back as the number. -/
def onGrid (x : Magnitude) (tie : Tie) (g : Int) : Option Nat :=
  let unit := x.unit g
  let scale := x.scale g
  let below := x.significand * unit / scale
  let rest := x.significand * unit % scale
  let belowReads := x.covers ((if x.narrowBelow then 4 else 2) * rest) unit
  let aboveReads := x.covers (2 * (scale - rest)) unit
  let belowIsNearer :=
    2 * rest < scale || (2 * rest == scale && tie == .toEven && below % 2 == 0)
  if belowReads && (belowIsNearer || !aboveReads) then some below
  else if aboveReads then some (below + 1)
  else none

/-- The power of ten of the number's leading digit. -/
def leading (x : Magnitude) : Int :=
  let numerator := x.significand <<< x.exponent.toNat
  let denominator := 1 <<< (-x.exponent).toNat
  if denominator ≤ numerator then
    (Nat.toDigits 10 (numerator / denominator)).length - 1
  else
    -((Nat.toDigits 10 ((denominator - 1) / numerator)).length : Int)

/-- The shortest decimal that reads back as the number: the first hit among the grids of one, two,
up to seventeen digits, and the number's exact value should none of them hold one. -/
def shortest (x : Magnitude) (tie : Tie) : Digits :=
  let hit := (List.range 17).findSome? fun (k : Nat) =>
    let g := x.leading - k
    (x.onGrid tie g).map (Digits.ofScaled · g)
  hit.getD (Digits.ofScaled
    (x.significand <<< x.exponent.toNat * Nat.pow 5 (-x.exponent).toNat) (min x.exponent 0))

end Magnitude

end BusNetwork.Decimal
