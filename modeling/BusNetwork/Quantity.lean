/-!
# Quantities: the numbers that lengths and times are computed in

Road lengths, speeds and journey times are all computed in one kind of number, and **nothing in
the library depends on which one**: every definition is stated over the class `Quantity`, which
names the operations and assumes no law. A statement about journeys therefore says which laws it
needs, and holds of rounded and of exact arithmetic alike. The running program uses the instance
for 64-bit floating point, which stands in `BusNetwork.Quantity.Binary64`.

`Trigonometry` adds what a distance on the sphere needs.
-/

namespace BusNetwork

/-- A kind of number in which road lengths (meters) and journey times (minutes) are computed. -/
class Quantity (α : Type) extends Add α, Sub α, Mul α, Div α, Neg α, LT α, BEq α where
  /-- A whole number as a quantity. -/
  ofNat : Nat → α
  /-- The sum of no quantities, from which a sum over a list starts. -/
  emptySum : α
  /-- Whether a quantity is an actual number, neither infinite nor undefined. -/
  isFinite : α → Bool
  /-- Whether a quantity is less than the infinite one, which no amount exceeds. -/
  isBelowInfinity : α → Bool
  /-- A quantity without its fraction, moved to the nearest end of the unsigned 64-bit range when
  it lies outside; an undefined quantity counts as zero. -/
  wholePart : α → Nat
  /-- A quantity written out in full, without an exponent. -/
  text : α → String
  /-- The order can be decided. -/
  decLt : DecidableLT α

attribute [reducible, instance] Quantity.decLt

namespace Quantity

variable {α : Type} [Quantity α]

/-- The quantity zero. -/
def zero : α := ofNat 0

/-- The quantity one. -/
def one : α := ofNat 1

/-- The quantity between two bounds that is nearest to a given one. -/
def clamp (low high x : α) : α :=
  if x < low then low else if high < x then high else x

end Quantity

/-- A kind of number with the trigonometric functions that a distance on the sphere needs. -/
class Trigonometry (α : Type) extends Quantity α where
  /-- The sine of an angle in radians. -/
  sin : α → α
  /-- The cosine of an angle in radians. -/
  cos : α → α
  /-- The angle in radians that has a given cosine. -/
  acos : α → α
  /-- A quantity with its sign dropped. -/
  abs : α → α

end BusNetwork
