import BusNetwork.Proofs.Quantity.Binary64

/-!
# Sums from zero and sums from nothing

The road along a bus is summed up in two places, once starting from zero and once from `emptySum`.
In floating point these are zero and negative zero, which are equal by value and yet not the same,
so neither need be the two sums. **They are equal by value, and so are the ride times over them**:
this is what `SummedQuantity` asks of the numbers, and the program's numbers have it.
-/

namespace BusNetwork

namespace Quantity

variable {α : Type} [Quantity α]

/-- One quantity is another or equals it by value. The undefined quantity, which equals nothing by
value, has the same value as itself only. -/
def SameValue (x y : α) : Prop := x = y ∨ (x == y) = true

/-- A quantity has the same value as itself. -/
theorem SameValue.refl (x : α) : SameValue x x := .inl rfl

end Quantity

open Quantity

/-- The laws by which a length may be summed up from zero or from nothing. -/
class SummedQuantity (α : Type) [Quantity α] : Prop where
  /-- A sum from zero has the value of the sum from nothing. -/
  sameValue_foldl (xs : List α) : SameValue (xs.foldl (· + ·) zero) (xs.foldl (· + ·) emptySum)
  /-- Taking zero away changes nothing. -/
  sub_zero (x : α) : x - zero = x
  /-- Quotients of the same value come of dividends of the same value. -/
  sameValue_div {x y : α} (v : α) : SameValue x y → SameValue (x / v) (y / v)

namespace Binary64

open Float.Model (Format UnpackedFloat)
open Float.Model.UnpackedFloat

variable {x y : Float}

/-- The sum of no lengths is the negative zero. -/
theorem unpacked_emptySum : unpacked (emptySum : Float) = .zero .negative := rfl

/-- Adding to negative zero changes nothing. -/
theorem emptySum_add (x : Float) : emptySum + x = x := by
  apply unpacked_inj
  have hsum : UnpackedFloat.add Format.binary64 (.zero .negative) (unpacked x) = unpacked x := by
    cases unpacked x with
    | zero s => cases s <;> rfl
    | _ => rfl
  rw [unpacked_add, unpacked_emptySum, hsum, repacked_of_fits (fits_unpacked x)]

/-- Sums from the two zeros are the same, or they are the two zeros. -/
theorem sameValue_foldl (xs : List Float) :
    SameValue (xs.foldl (· + ·) Quantity.zero) (xs.foldl (· + ·) emptySum) := by
  induction xs with
  | nil => exact .inr (by decide)
  | cons x rest ih =>
      rw [List.foldl_cons, List.foldl_cons, emptySum_add]
      by_cases hx : unpacked x = .zero .negative
      · -- adding negative zero leaves both zeros as they are
        obtain rfl : x = emptySum := unpacked_inj hx
        exact ih
      · rw [zero_add_eq_iff.2 hx]
        exact .refl _

/-- Taking nothing away changes no double. -/
theorem sub_zero (x : Float) : x - Quantity.zero = x := by
  apply unpacked_inj
  have hdiff : UnpackedFloat.sub Format.binary64 (unpacked x) (.zero .positive) = unpacked x := by
    cases unpacked x with
    | zero s => cases s <;> rfl
    | _ => rfl
  rw [unpacked_sub, unpacked_zero, hdiff, repacked_of_fits (fits_unpacked x)]

/-- The quotients of the two zeros are undefined, or they are zeros. -/
theorem sameValue_div_zero {s t : Sign} (hx : unpacked x = .zero s) (hy : unpacked y = .zero t)
    (v : Float) : SameValue (x / v) (y / v) := by
  have hvalue : value (unpacked (x / v)) = 0 ∧ value (unpacked (y / v)) = 0 := by
    rw [unpacked_div, unpacked_div, hx, hy]
    exact ⟨value_div_zero, value_div_zero⟩
  have hundefined : unpacked (x / v) = .notANumber ↔ unpacked (y / v) = .notANumber := by
    rw [unpacked_div, unpacked_div, hx, hy]
    cases unpacked v <;> simp [UnpackedFloat.div]
  by_cases h : unpacked (x / v) = .notANumber
  · exact .inl (unpacked_inj (h.trans (hundefined.1 h).symm))
  · exact .inr (Binary64.beq_iff.2
      ⟨h, fun h' => h (hundefined.2 h'), hvalue.1.trans hvalue.2.symm⟩)

end Binary64

/-- Sums of doubles have the same value from either zero. -/
instance : SummedQuantity Float where
  sameValue_foldl := Binary64.sameValue_foldl
  sub_zero := Binary64.sub_zero
  sameValue_div v h := by
    rcases h with rfl | h
    · exact .refl _
    · obtain ⟨-, -, rfl | ⟨rfl, rfl⟩ | ⟨rfl, rfl⟩⟩ := Float.beq_iff_ne_nan_and_eq.1 h
      · exact .refl _
      · exact Binary64.sameValue_div_zero rfl rfl v
      · exact Binary64.sameValue_div_zero rfl rfl v

end BusNetwork
