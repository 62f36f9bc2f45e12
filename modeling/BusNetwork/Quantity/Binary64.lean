import BusNetwork.Decimal.Style
import BusNetwork.Quantity

/-!
# Binary64: quantities in 64-bit floating point

The kind of number that the running program computes in. **Sums start from negative zero**, which
is what adding leaves unchanged, so the sum of no lengths is `-0.0` and the sum of one is that
length.
-/

namespace BusNetwork

/-- The infinite quantity. -/
def Binary64.infinity : Float := Float.ofBits 0x7FF0000000000000

/-- Doubles are quantities. -/
instance : Quantity Float where
  toAdd := inferInstance
  toSub := inferInstance
  toMul := inferInstance
  toDiv := inferInstance
  toNeg := inferInstance
  toLT := inferInstance
  toBEq := inferInstance
  ofNat := Float.ofNat
  emptySum := -0.0
  isFinite := Float.isFinite
  isBelowInfinity x := x < Binary64.infinity
  wholePart x := x.toUInt64.toNat
  text := Decimal.Style.plain.write
  decLt := inferInstance

/-- Doubles have the trigonometric functions of the machine. -/
instance : Trigonometry Float where
  sin := Float.sin
  cos := Float.cos
  acos := Float.acos
  abs := Float.abs

end BusNetwork
