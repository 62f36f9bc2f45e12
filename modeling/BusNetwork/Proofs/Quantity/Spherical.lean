import BusNetwork.Coordinates
import BusNetwork.Proofs.Quantity.Magnitude
import BusNetwork.Proofs.Quantity.Sums
import Mathlib.Data.Set.Finite.Lattice

/-!
# Spherical quantities: numbers that distances on the sphere are computed in

`SphericalQuantity` adds to the laws of journey times what keeps a distance on the sphere a number:
angles in range are finite, sines and cosines lie between minus one and one, and there a cosine has
an angle that is not negative. **No law says that a sine is a sine**, and none that the terms of a
cosine stay in range when they are added up, for rounding can take their sum beyond one.

What a system's mathematical library answers is not fixed by the standard of 64-bit floating point.
So its functions are data (`AngleFunctions`), and all that is asked of them is that they answer in
range (`AngleFunctions.InRange`). Then the program's numbers have the laws
(`AngleFunctions.InRange.sphericalQuantity`), and among the angles of cosines there is a widest one
(`AngleFunctions.InRange.exists_isWidest`).
-/

namespace BusNetwork

open Quantity Coordinates

namespace Quantity

/-- A quantity lies between a bound and its opposite. -/
def Within {α : Type} [Quantity α] (bound x : α) : Prop := AtMost (-bound) x ∧ AtMost x bound

/-- Whether a quantity lies within a bound is decided by two comparisons. -/
instance {α : Type} [Quantity α] (bound x : α) : Decidable (Within bound x) :=
  inferInstanceAs (Decidable (AtMost (-bound) x ∧ AtMost x bound))

/-- What is moved between two bounds lies between them. -/
theorem between_clamp {α : Type} [Quantity α] [OrderedQuantity α] {low high x : α}
    (hbounds : AtMost low high) (hx : IsNumber x) :
    AtMost low (clamp low high x) ∧ AtMost (clamp low high x) high := by
  unfold clamp
  split
  · exact ⟨hbounds.left.atMost_self, hbounds⟩
  · next hlow =>
      split
      · exact ⟨hbounds, hbounds.right.atMost_self⟩
      · next hhigh =>
          exact ⟨atMost_of_not_lt hbounds.left hx hlow, atMost_of_not_lt hx hbounds.right hhigh⟩

/-- Nothing adds up to an amount. -/
theorem zero_atMost_emptySum {α : Type} [Quantity α] [OrderedQuantity α] [SummedQuantity α] :
    AtMost (zero : α) emptySum := by
  rcases SummedQuantity.sameValue_foldl ([] : List α) with h | h
  · rw [List.foldl_nil, List.foldl_nil] at h
    rw [← h]
    exact zero_atMost_zero
  · exact .inr h

end Quantity

/-- The laws of order and addition, and those that keep a distance on the sphere a number. -/
class SphericalQuantity (α : Type) [Trigonometry α] : Prop
    extends MonotoneQuantity α, SummedQuantity α where
  /-- It does not matter which of two quantities is multiplied by the other. -/
  mul_comm (x y : α) : x * y = y * x
  /-- Nor which is taken from the other, if the sign is dropped. -/
  abs_sub_comm (x y : α) : Trigonometry.abs (x - y) = Trigonometry.abs (y - x)
  /-- Minus one is not more than one. -/
  neg_one_atMost_one : AtMost (-one : α) one
  /-- A product of quantities between minus one and one is another. -/
  within_mul {x y : α} : Within one x → Within one y → Within one (x * y)
  /-- A sum of two of them is a number. -/
  isNumber_add {x y : α} : Within one x → Within one y → IsNumber (x + y)
  /-- A latitude is a finite angle. -/
  isFinite_latitude {x : α} : isFinite x = true → isWithin 90 x = true →
    isFinite (x * degree) = true
  /-- Two longitudes are a finite angle apart. -/
  isFinite_longitudes {x y : α} : isFinite x = true → isFinite y = true → isWithin 180 x = true →
    isWithin 180 y = true → isFinite (Trigonometry.abs (x - y) * degree) = true
  /-- The sine of a finite angle lies between minus one and one. -/
  within_sin {x : α} : isFinite x = true → Within one (Trigonometry.sin x)
  /-- So does the cosine. -/
  within_cos {x : α} : isFinite x = true → Within one (Trigonometry.cos x)
  /-- What lies between minus one and one is the cosine of an angle that is not negative. -/
  zero_atMost_acos {x : α} : Within one x → AtMost zero (Trigonometry.acos x)
  /-- Angles keep their order as arcs. -/
  mul_earthRadius {x y : α} : AtMost zero x → AtMost x y →
    AtMost zero (x * earthRadius) ∧ AtMost (x * earthRadius) (y * earthRadius)
  /-- A finite amount over a positive quantity is not negative. -/
  zero_atMost_quotient {x y : α} : AtMost zero x → isFinite x = true → zero < y →
    AtMost zero (x / y)

/-- The widest angle that has a cosine between minus one and one. -/
structure IsWidest {α : Type} [Trigonometry α] (angle : α) : Prop where
  /-- It is the angle of such a cosine. -/
  exists_cosine : ∃ x, Within one x ∧ Trigonometry.acos x = angle
  /-- No other is wider. -/
  acos_atMost {x : α} : Within one x → AtMost (Trigonometry.acos x) angle

/-! ## 64-bit floating point -/

/-- The functions of angles that a system answers with in 64-bit floating point. -/
structure AngleFunctions where
  /-- The sine of an angle in radians. -/
  sin : Float → Float
  /-- The cosine of an angle in radians. -/
  cos : Float → Float
  /-- The angle in radians that has a given cosine. -/
  acos : Float → Float

namespace AngleFunctions

/-- Floating point with functions of angles. -/
@[reducible]
def trigonometry (f : AngleFunctions) : Trigonometry Float where
  sin := f.sin
  cos := f.cos
  acos := f.acos
  abs := Float.abs

-- the program asks the system that it runs on
example : (⟨Float.sin, Float.cos, Float.acos⟩ : AngleFunctions).trigonometry =
    instTrigonometryFloat := rfl

/-- Functions of angles answer in range where they are asked in range. -/
structure InRange (f : AngleFunctions) : Prop where
  /-- The sine of a finite angle lies between minus one and one. -/
  sin {x : Float} : isFinite x = true → Within one (f.sin x)
  /-- So does the cosine. -/
  cos {x : Float} : isFinite x = true → Within one (f.cos x)
  /-- What lies between minus one and one is the cosine of an angle that is not negative. -/
  acos {x : Float} : Within one x → AtMost zero (f.acos x)

end AngleFunctions

namespace Binary64

variable {x y c : Float} {n : Nat}

/-- There are finitely many doubles, for their bits tell them apart. -/
instance instFiniteFloat : Finite Float :=
  Finite.of_injective Float.toBits fun _ _ => Float.toBits_inj.1

/-- Minus one is at most one. -/
theorem neg_one_atMost_one : AtMost (-one : Float) one := by decide

/-- The numbers between a bound and its opposite are those with a magnitude up to the bound. -/
theorem within_iff : Within c x ↔ IsNumber x ∧ AtMost x.abs c := by
  constructor
  · intro h
    exact ⟨h.1.right, (abs_atMost_iff h.1.right).2 h⟩
  · rintro ⟨hx, h⟩
    exact (abs_atMost_iff hx).1 h

/-- What lies between minus one and one is finite. -/
theorem isFinite_of_within_one (h : Within one x) : isFinite x = true := by
  obtain ⟨hnumber, hle⟩ := within_iff.1 h
  exact isFinite_abs_iff.1 (isFinite_of_atMost_one (zero_atMost_abs hnumber) hle)

/-- Products of doubles within one lie within one. -/
theorem within_one_mul (hx : Within one x) (hy : Within one y) : Within one (x * y) := by
  rw [within_iff] at hx hy ⊢
  have hle : AtMost (x * y).abs one := abs_mul_atMost_one hx.1 hx.2 hy.1 hy.2
  exact ⟨isNumber_abs_iff.1 hle.left, hle⟩

/-- A range check tells magnitudes. -/
theorem abs_atMost_of_isWithin (hx : IsNumber x) (h : isWithin n x = true) :
    AtMost x.abs (Quantity.ofNat n) := by
  have hbound : IsNumber (Quantity.ofNat n : Float) := (TravelQuantity.zero_atMost_ofNat n).right
  simp only [isWithin, Bool.and_eq_true, Bool.not_eq_true', decide_eq_false_iff_not] at h
  exact (abs_atMost_iff hx).2 ⟨atMost_of_not_lt (isNumber_neg_iff.2 hbound) hx h.1,
    atMost_of_not_lt hx hbound h.2⟩

/-- A degree is a positive number. -/
theorem exists_finite_degree :
    ∃ m e hm, unpacked degree = .finite .positive m e hm :=
  ⟨_, _, _, rfl⟩

/-- Degrees are finite in radians up to any number of them that is. -/
theorem isFinite_mul_degree (hx : AtMost Quantity.zero x) (h : AtMost x c)
    (hc : isFinite (c * degree) = true) : isFinite (x * degree) = true := by
  obtain ⟨m, e, hm, hdegree⟩ := exists_finite_degree
  obtain ⟨hzero, hle⟩ := mul_atMost_mul hx h hdegree
  exact OrderedQuantity.isFinite_of_atMost hzero hle hc

/-- A latitude within 90 degrees is finite as an angle. -/
theorem isFinite_latitude (hx : isFinite x = true) (h : isWithin 90 x = true) :
    isFinite (x * degree) = true := by
  have hnumber : IsNumber x := OrderedQuantity.isNumber_of_isFinite hx
  have hdegree : (degree : Float).abs = degree := by decide +kernel
  rw [← isFinite_abs_iff, Binary64.abs_mul, hdegree]
  exact isFinite_mul_degree (zero_atMost_abs hnumber) (abs_atMost_of_isWithin hnumber h)
    (by decide +kernel)

/-- The difference of two longitudes within 180 degrees is finite as an angle. -/
theorem isFinite_longitudes (hx : isFinite x = true) (hy : isFinite y = true)
    (h : isWithin 180 x = true) (h' : isWithin 180 y = true) :
    isFinite ((x - y).abs * degree) = true := by
  have hnumber : IsNumber x := OrderedQuantity.isNumber_of_isFinite hx
  have hnumber' : IsNumber y := OrderedQuantity.isNumber_of_isFinite hy
  have hapart : AtMost (x - y).abs (Quantity.ofNat 180 + Quantity.ofNat 180) :=
    (abs_sub_atMost hx hy).trans ((zero_atMost_abs hnumber).add (zero_atMost_abs hnumber')
      (abs_atMost_of_isWithin hnumber h) (abs_atMost_of_isWithin hnumber' h'))
  exact isFinite_mul_degree (zero_atMost_abs (isNumber_abs_iff.1 hapart.left)) hapart
    (by decide +kernel)

/-- A finite amount over a positive number is an amount, if perhaps too large to be finite. -/
theorem zero_atMost_quotient (hx : AtMost Quantity.zero x) (hfinite : isFinite x = true)
    (hy : Quantity.zero < y) : AtMost Quantity.zero (x / y) := by
  obtain ⟨a, ha⟩ := zero_atMost_iff.1 hx
  obtain ⟨b, hb⟩ := zero_atMost_iff.1 (OrderedQuantity.lt_iff.1 hy).1
  have hless : a < limit := (isFinite_iff_lt ha).1 hfinite
  rw [zero_atMost_iff, unpacked_div]
  rcases hb.cases with ⟨h, -⟩ | ⟨s, h, -⟩ | ⟨n, f, hn, h, -⟩
  · obtain ⟨s, hzero⟩ := ha.div_infinity (s := .positive) hless
    rw [h, hzero, repacked_zero]
    exact ⟨0, amountsTo_zero⟩
  · obtain ⟨-, -, hpos⟩ := lt_iff.1 hy
    rw [h, unpacked_zero] at hpos
    exact absurd hpos (lt_irrefl 0)
  · rw [h]
    exact ⟨_, ha.div (fits_unpacked x) hless (h ▸ fits_unpacked y)⟩

end Binary64

namespace AngleFunctions

namespace InRange

variable {f : AngleFunctions}

/-- **Floating point has the laws if its functions of angles answer in range.** -/
theorem sphericalQuantity (hf : f.InRange) : @SphericalQuantity Float f.trigonometry :=
  letI := f.trigonometry
  { mul_comm := Binary64.mul_comm
    abs_sub_comm := Binary64.abs_sub_comm
    neg_one_atMost_one := Binary64.neg_one_atMost_one
    within_mul := Binary64.within_one_mul
    isNumber_add := by
      intro x y hx hy
      exact Binary64.isNumber_add (Binary64.isFinite_of_within_one hx)
        (Binary64.isFinite_of_within_one hy)
    isFinite_latitude := Binary64.isFinite_latitude
    isFinite_longitudes := Binary64.isFinite_longitudes
    within_sin := hf.sin
    within_cos := hf.cos
    zero_atMost_acos := hf.acos
    mul_earthRadius := by
      intro x y hx hxy
      obtain ⟨m, e, hm, hradius⟩ :=
        Binary64.exists_finite_ofNat (n := 6371000) (by omega) (by omega)
      exact Binary64.mul_atMost_mul hx hxy hradius
    zero_atMost_quotient := Binary64.zero_atMost_quotient }

/-- There are only so many numbers, and so there is a widest angle among those of cosines. -/
theorem exists_isWidest (hf : f.InRange) :
    letI := f.trigonometry
    ∃ angle : Float, IsWidest angle := by
  let _ := f.trigonometry
  have hone : Within one (one : Float) := ⟨Binary64.neg_one_atMost_one, by decide⟩
  obtain ⟨x, hx, hmax⟩ := Set.exists_max_image {x : Float | Within one x}
    (fun x => Binary64.value (Binary64.unpacked (f.acos x))) (Set.toFinite _) ⟨one, hone⟩
  refine ⟨f.acos x, ⟨x, hx, rfl⟩, ?_⟩
  intro y hy
  exact Binary64.atMost_iff.2 ⟨Binary64.isNumber_iff.1 (hf.acos hy).right,
    Binary64.isNumber_iff.1 (hf.acos hx).right, hmax y hy⟩

end InRange

/-! ### Functions known at some numbers -/

/-- A function that is known at some numbers and answers the same at all others. -/
def tabulated (elsewhere : Float) (table : List (Float × Float)) (x : Float) : Float :=
  ((table.find? fun entry => entry.1 == x).map Prod.snd).getD elsewhere

/-- What holds of all entries holds of each answer. -/
theorem of_tabulated {P : Float → Prop} {elsewhere : Float} {table : List (Float × Float)}
    (helsewhere : P elsewhere) (htable : ∀ entry ∈ table, P entry.2) (x : Float) :
    P (tabulated elsewhere table x) := by
  unfold tabulated
  cases hfind : table.find? fun entry => entry.1 == x with
  | none => exact helsewhere
  | some entry => exact htable entry (List.mem_of_find?_eq_some hfind)

/-- Functions of the few angles between two stops on the equator and two on a parallel. -/
def almanac : AngleFunctions where
  sin := tabulated 0 [(46 * degree, 0.7193398003227107)]
  cos := tabulated 1 [(46 * degree, 0.6946583704755042), (90 * degree, 4.489659216976159e-11)]
  acos := tabulated 1.5707963267948966 [(1, 0), (4.489659216976159e-11, 1.57079632675)]

/-- The tables of angles hold values in range alone. -/
theorem almanac_inRange : almanac.InRange where
  sin _ := of_tabulated (by decide +kernel) (by decide +kernel) _
  cos _ := of_tabulated (by decide +kernel) (by decide +kernel) _
  acos _ := of_tabulated (by decide +kernel) (by decide +kernel) _

end AngleFunctions

end BusNetwork
