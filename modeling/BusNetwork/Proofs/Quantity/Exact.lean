import BusNetwork.Proofs.Quantity.Pace
import Mathlib

/-!
# Exact arithmetic: quantities in a linearly ordered field

Every linearly ordered field is a kind of number that lengths and times can be computed in. Nothing
is rounded there, every quantity is finite, and zero is the sum of no quantities. A field has no
text and no angles of its own; these come from a `Readout`, **of which nothing is asked**.

`atMost_iff` — the order of quantities is the order of the field. So all laws of journey times hold
(`SteadyQuantity K`, `PacedQuantity K`), and besides, sums may be split and turned around.
-/

namespace BusNetwork

/-- How the elements of a field are read off as whole numbers and text, and functions on them in
place of the trigonometric ones. -/
class Readout (K : Type) where
  /-- A whole number near a quantity. -/
  wholePart : K → Nat
  /-- A quantity written out. -/
  text : K → String
  /-- The sine of an angle. -/
  sin : K → K
  /-- The cosine of an angle. -/
  cos : K → K
  /-- The angle of a cosine. -/
  acos : K → K

/-- Fractions, with the first terms of the series of the trigonometric functions. -/
instance : Readout ℚ where
  wholePart x := min x.floor.toNat (2 ^ 64 - 1)
  text := toString
  sin x := x
  cos x := 1 - x ^ 2 / 2
  acos x := 355 / 226 - x

namespace Exact

variable {K : Type} [Field K] [LinearOrder K] [Readout K]

/-- The elements of an ordered field are quantities, calculated without rounding. -/
instance (priority := low) : Quantity K where
  toAdd := inferInstance
  toSub := inferInstance
  toMul := inferInstance
  toDiv := inferInstance
  toNeg := inferInstance
  toLT := inferInstance
  toBEq := instBEqOfDecidableEq
  ofNat n := n
  emptySum := 0
  isFinite _ := true
  isBelowInfinity _ := true
  wholePart := Readout.wholePart
  text := Readout.text
  decLt := inferInstance

/-- The trigonometric functions of a field are those of its readout. -/
instance (priority := low) : Trigonometry K where
  sin := Readout.sin
  cos := Readout.cos
  acos := Readout.acos
  abs x := |x|

variable {x y : K}

/-- Zero is the zero of the field. -/
@[simp] theorem zero_eq : (Quantity.zero : K) = 0 := Nat.cast_zero

/-- A natural number is itself in the field. -/
@[simp] theorem ofNat_eq (n : Nat) : (Quantity.ofNat n : K) = n := rfl

/-- **Quantities are ordered as the field is.** -/
theorem atMost_iff : Quantity.AtMost x y ↔ x ≤ y := by
  have hequal : (x == y) = true ↔ x = y := beq_iff_eq
  rw [Quantity.AtMost, hequal, le_iff_lt_or_eq]

/-- Every element of the field is a number. -/
theorem isNumber (x : K) : Quantity.IsNumber x := beq_iff_eq.2 rfl

end Exact

open Quantity Exact

variable {K : Type} [Field K] [LinearOrder K] [IsStrictOrderedRing K] [Readout K]

/-- The order of a field has the laws that a search relies on. -/
instance : OrderedQuantity K where
  isNumber_of_atMost _ := ⟨isNumber _, isNumber _⟩
  atMost_total _ _ := by
    rw [atMost_iff, atMost_iff]
    exact le_total _ _
  atMost_trans hxy hyz := atMost_iff.2 ((atMost_iff.1 hxy).trans (atMost_iff.1 hyz))
  lt_iff := by
    intro x y
    rw [atMost_iff, atMost_iff]
    exact lt_iff_le_not_ge
  beq_iff := by
    intro x y
    rw [atMost_iff, atMost_iff, ← le_antisymm_iff]
    exact beq_iff_eq
  isFinite_zero := rfl
  isNumber_of_isFinite _ := isNumber _
  isFinite_of_atMost _ _ _ := rfl
  isBelowInfinity_of_isFinite _ := rfl
  isNumber_of_isBelowInfinity _ := isNumber _
  isFinite_of_isBelowInfinity _ _ := rfl
  isNumber_of_add _ := ⟨isNumber _, isNumber _⟩
  atMost_add _ hw := by
    rw [atMost_iff, zero_eq] at hw
    rw [atMost_iff]
    exact le_add_of_nonneg_right hw
  add_atMost_add _ _ hxy := atMost_iff.2 (add_le_add_left (atMost_iff.1 hxy) _)
  zero_add_zero := by
    rw [zero_eq]
    exact add_zero 0
  zero_add_add _ _ _ := by
    rw [zero_eq]
    exact zero_add _
  eq_of_beq _ _ h := beq_iff_eq.1 h

/-- A positive speed is positive in other units. -/
theorem Exact.speed_pos {v : K} (h : (Quantity.zero : K) < v) :
    0 < v * Quantity.ofNat 1000 / Quantity.ofNat 60 := by
  rw [zero_eq] at h
  rw [ofNat_eq, ofNat_eq]
  positivity

/-- The arithmetic of a field has the laws that travel times rely on. -/
instance : TravelQuantity K where
  zero_atMost_ofNat n := by
    rw [atMost_iff, zero_eq]
    exact Nat.cast_nonneg n
  zero_atMost_sub _ hxy _ := by
    rw [atMost_iff] at hxy
    rw [atMost_iff, zero_eq]
    exact sub_nonneg.2 hxy
  isNumber_of_div _ := isNumber _
  zero_atMost_div hx _ hv _ := by
    rw [atMost_iff, zero_eq] at hx ⊢
    exact div_nonneg hx (speed_pos hv).le

/-- Addition in a field does not depend on the order of its terms. -/
instance : SteadyQuantity K where
  add_comm x y := add_comm x y
  div_atMost_div _ hxy _ hv _ := by
    rw [atMost_iff] at hxy ⊢
    exact div_le_div_of_nonneg_right hxy (speed_pos hv).le

/-- Rides in a field take no longer on shorter roads or at a higher speed. -/
instance : PacedQuantity K where
  ofNat_atMost_ofNat h := atMost_iff.2 (Nat.cast_le.2 h)
  div_speed_atMost hx hv hvw _ := by
    rw [atMost_iff, zero_eq] at hx
    rw [atMost_iff] at hvw ⊢
    refine div_le_div_of_nonneg_left hx (speed_pos hv) ?_
    rw [ofNat_eq, ofNat_eq]
    gcongr

end BusNetwork
