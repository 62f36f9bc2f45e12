import BusNetwork.Proofs.Quantity.Pace

/-!
# Magnitudes: numbers without their signs

An operation treats magnitudes and signs apart, and packing keeps the sign. So **the magnitude of a
product is the product of the magnitudes** (`abs_mul`), that of a difference does not depend on
which number is taken from the other (`abs_sub_comm`), and what is known of amounts tells how large
a number with a sign can get:

* `abs_atMost_iff` — a magnitude is at most a bound where the number lies between the bound and its
  opposite.
* `abs_sub_atMost` — two numbers are no further apart than their magnitudes together.
* `abs_mul_atMost_one` — a product of numbers between minus one and one is another.
-/

namespace BusNetwork.Binary64

open Quantity
open Float.Model (Format UnpackedFloat)
open Float.Model.UnpackedFloat

variable {s : Sign} {m : Nat} {e : Int} {u v : UnpackedFloat} {x y : Float}

/-! ## Unpacked magnitudes -/

/-- The magnitude of a double is its bits without the sign. -/
theorem abs_unpack_packComponents {e : BitVec 11} {m : BitVec 52} :
    (UnpackedFloat.unpack Format.binary64 (packComponents Format.binary64 s e m)).abs =
      UnpackedFloat.unpack Format.binary64 (packComponents Format.binary64 .positive e m) := by
  unfold unpack
  simp only [unpackMantissa_packComponents, unpackExponent_packComponents,
    unpackSign_packComponents, Sign.ofBitVec_toBitVec]
  split_ifs <;> rfl

/-- The sign can be dropped before or after packing. -/
theorem abs_repacked (u : UnpackedFloat) : (repacked u).abs = repacked u.abs := by
  cases u with
  | infinity s => simp [UnpackedFloat.abs]
  | notANumber => simp [UnpackedFloat.abs]
  | zero s => simp [UnpackedFloat.abs]
  | finite s m e hm =>
      simp only [repacked, UnpackedFloat.abs, pack]
      split_ifs
      · simp
      · exact abs_unpack_packComponents
      · exact abs_unpack_packComponents

/-- Rounding what was calculated and dropping its sign may change places. -/
theorem abs_roundWithAccuracy {accuracy : Accuracy} :
    (roundWithAccuracy Format.binary64 s m e accuracy).abs =
      roundWithAccuracy Format.binary64 .positive m e accuracy := by
  unfold roundWithAccuracy
  simp only
  split_ifs <;> rfl

/-- Rounding a mantissa and dropping its sign may change places. -/
theorem abs_round :
    (UnpackedFloat.round Format.binary64 s m e).abs =
      UnpackedFloat.round Format.binary64 .positive m e :=
  abs_roundWithAccuracy

/-- A whole number is rounded with its sign as it is without. -/
theorem abs_normalize (i e : Int) :
    (UnpackedFloat.normalize Format.binary64 i e .positive).abs =
      UnpackedFloat.normalize Format.binary64 (i.natAbs : Int) e .positive := by
  rcases lt_trichotomy i 0 with hneg | rfl | hpos
  · have hsize : (i.natAbs : Int) = -i := Int.ofNat_natAbs_of_nonpos hneg.le
    unfold UnpackedFloat.normalize
    rw [compare_lt_iff_lt.2 hneg, hsize, compare_gt_iff_gt.2 (Int.neg_pos_of_neg hneg)]
    exact abs_round
  · rfl
  · rw [Int.natAbs_of_nonneg hpos.le]
    unfold UnpackedFloat.normalize
    rw [compare_gt_iff_gt.2 hpos]
    exact abs_round

/-- It does not matter which of two quantities is multiplied by the other. -/
theorem product_comm (u v : UnpackedFloat) :
    UnpackedFloat.mul Format.binary64 u v = UnpackedFloat.mul Format.binary64 v u := by
  have hsign : ∀ s t : Sign, s * t = t * s := by
    intro s t
    cases s <;> cases t <;> rfl
  cases u <;> cases v <;> simp only [UnpackedFloat.mul, hsign, Nat.mul_comm, Int.add_comm]

/-- The magnitude of a product is the product of the magnitudes. -/
theorem abs_product (u v : UnpackedFloat) :
    (UnpackedFloat.mul Format.binary64 u v).abs =
      UnpackedFloat.mul Format.binary64 u.abs v.abs := by
  cases u with
  | finite s m e hm =>
      cases v with
      | finite t n f hn => exact abs_roundWithAccuracy
      | _ => rfl
  | _ => cases v <;> rfl

/-- It does not matter which of two quantities is taken from the other, but for the sign. -/
theorem abs_difference_comm (u v : UnpackedFloat) :
    (UnpackedFloat.sub Format.binary64 u v).abs = (UnpackedFloat.sub Format.binary64 v u).abs := by
  cases u with
  | notANumber => cases v <;> rfl
  | infinity s =>
      cases v with
      | infinity t => cases s <;> cases t <;> rfl
      | _ => rfl
  | zero s =>
      cases v with
      | zero t => cases s <;> cases t <;> rfl
      | _ => rfl
  | finite s m e hm =>
      cases v with
      | finite t n f hn =>
          simp only [UnpackedFloat.sub]
          rw [abs_normalize, abs_normalize, Int.min_comm, ← Int.natAbs_neg, Int.neg_sub]
      | _ => rfl

/-- The magnitude of a number that fits the format fits it. -/
theorem fits_abs (h : Fits u) : Fits u.abs := by
  cases u <;> exact h

/-- The value of a magnitude is the distance from zero. -/
theorem amountsTo_abs (h : u ≠ .notANumber) : AmountsTo u.abs (value u).natAbs := by
  cases u with
  | notANumber => exact absurd rfl h
  | infinity s => cases s <;> simpa [UnpackedFloat.abs, value, Sign.apply] using amountsTo_infinity
  | zero s => exact amountsTo_zero
  | finite s m e hm =>
      refine ⟨by simp [UnpackedFloat.abs], ?_⟩
      cases s <;> simp [UnpackedFloat.abs, value, Sign.apply]

/-- The opposite sign gives the opposite integer. -/
theorem apply_neg (s : Sign) (i : Int) : (-s).apply i = -s.apply i := by
  cases s with
  | negative => exact (Int.neg_neg i).symm
  | positive => rfl

/-- The opposite of a number has the opposite value. -/
theorem value_neg (u : UnpackedFloat) : value u.neg = -value u := by
  cases u with
  | notANumber => rfl
  | infinity s => exact apply_neg s limit
  | zero s => rfl
  | finite s m e hm => exact apply_neg s (units m e)

/-- The opposite of something is a number exactly if it is one itself. -/
theorem neg_eq_notANumber_iff : u.neg = .notANumber ↔ u = .notANumber := by
  cases u <;> simp [UnpackedFloat.neg]

/-- The opposite of a number that fits the format fits it. -/
theorem fits_neg (h : Fits u) : Fits u.neg := by
  cases u <;> exact h

/-- A sign does not change how large an integer is. -/
theorem natAbs_apply (s : Sign) (i : Int) : (s.apply i).natAbs = i.natAbs := by
  cases s with
  | negative => exact Int.natAbs_neg i
  | positive => rfl

/-- Taken from zero, a finite quantity keeps its magnitude. -/
theorem abs_difference_zero (hv : v.isFinite = true) :
    (UnpackedFloat.sub Format.binary64 (.zero s) v).abs = v.abs := by
  cases v with
  | zero t => cases s <;> cases t <;> rfl
  | finite t n f hn => rfl
  | _ => cases hv

/-- **The difference of finite quantities is rounded from no more than their magnitudes
together.** -/
theorem exists_abs_difference (hu : Fits u) (hv : Fits v) (hu' : u.isFinite = true)
    (hv' : v.isFinite = true) : ∃ d ≤ (value u).natAbs + (value v).natAbs,
      AmountsTo (repacked (UnpackedFloat.sub Format.binary64 u v)).abs (nearest d) := by
  have hnumber : ∀ {w : UnpackedFloat}, w.isFinite = true → w ≠ .notANumber := by
    rintro w hw rfl
    cases hw
  rw [abs_repacked]
  cases u with
  | notANumber => cases hu'
  | infinity s => cases hu'
  | zero s =>
      rw [abs_difference_zero hv']
      exact ⟨_, Nat.le_add_left _ _, (amountsTo_abs (hnumber hv')).repacked (fits_abs hv)⟩
  | finite s m e hm =>
      cases v with
      | notANumber => cases hv'
      | infinity t => cases hv'
      | zero t =>
          rw [abs_difference_comm, abs_difference_zero hu']
          exact ⟨_, Nat.le_add_right _ _, (amountsTo_abs (hnumber hu')).repacked (fits_abs hu)⟩
      | finite t n f hn =>
          have hle := hu.1.least
          have hle' := hv.1.least
          simp only [UnpackedFloat.sub, abs_normalize]
          refine ⟨_, ?_, amountsTo_repacked_normalize (le_min hle hle')⟩
          simp only [value, natAbs_apply, Int.natAbs_natCast]
          rw [← units_decreaseExponent (m := m) (le_min hle hle') (min_le_left e f),
            ← units_decreaseExponent (m := n) (le_min hle hle') (min_le_right e f), ← units_add]
          refine Nat.mul_le_mul_right _ ((Int.natAbs_sub_le _ _).trans ?_)
          rw [natAbs_apply, natAbs_apply, Int.natAbs_natCast, Int.natAbs_natCast]

/-- The sum of finite numbers is a number. -/
theorem sum_ne (hu : u.isFinite = true) (hv : v.isFinite = true) :
    UnpackedFloat.add Format.binary64 u v ≠ .notANumber := by
  cases u with
  | notANumber => cases hu
  | infinity s => cases hu
  | zero s =>
      cases v with
      | zero t => cases s <;> cases t <;> nofun
      | finite t n f hn => nofun
      | _ => cases hv
  | finite s m e hm =>
      cases v with
      | zero t => nofun
      | finite t n f hn => exact normalize_ne
      | _ => cases hv

/-! ## Magnitudes -/

/-- A double is finite exactly if what its bits stand for is. -/
theorem isFinite_unpacked_iff : isFinite x = true ↔ (unpacked x).isFinite = true := Iff.rfl

/-- The magnitude of a double is calculated on its bits. -/
theorem unpacked_abs (x : Float) : unpacked x.abs = (unpacked x).abs :=
  repacked_of_fits (fits_abs (fits_unpacked x))

/-- The opposite of a double is calculated on its bits. -/
theorem unpacked_neg (x : Float) : unpacked (-x) = (unpacked x).neg :=
  repacked_of_fits (fits_neg (fits_unpacked x))

/-- It does not matter which of two numbers is multiplied by the other. -/
protected theorem mul_comm (x y : Float) : x * y = y * x := by
  apply unpacked_inj
  rw [unpacked_mul, unpacked_mul, product_comm]

/-- It does not matter which of two numbers is taken from the other, but for the sign. -/
protected theorem abs_sub_comm (x y : Float) : (x - y).abs = (y - x).abs := by
  apply unpacked_inj
  rw [unpacked_abs, unpacked_abs, unpacked_sub, unpacked_sub, abs_repacked, abs_repacked,
    abs_difference_comm]

/-- The magnitude of a product is the product of the magnitudes. -/
protected theorem abs_mul (x y : Float) : (x * y).abs = x.abs * y.abs := by
  apply unpacked_inj
  rw [unpacked_abs, unpacked_mul, abs_repacked, abs_product, unpacked_mul, unpacked_abs,
    unpacked_abs]

/-- The opposite of a double is a number exactly if it is one itself. -/
theorem isNumber_neg_iff : IsNumber (-x) ↔ IsNumber x := by
  rw [isNumber_iff, isNumber_iff, unpacked_neg, Ne, neg_eq_notANumber_iff]

/-- The magnitude of a number is an amount. -/
theorem zero_atMost_abs (hx : IsNumber x) : AtMost Quantity.zero x.abs := by
  rw [zero_atMost_iff, unpacked_abs]
  exact ⟨_, amountsTo_abs (isNumber_iff.1 hx)⟩

/-- **A magnitude is at most a bound where the number lies between the bound and its opposite.** -/
theorem abs_atMost_iff (hx : IsNumber x) : AtMost x.abs y ↔ AtMost (-y) x ∧ AtMost x y := by
  rw [isNumber_iff] at hx
  rw [atMost_iff, atMost_iff, atMost_iff, unpacked_abs, unpacked_neg, value_neg, Ne, Ne, Ne,
    neg_eq_notANumber_iff, (amountsTo_abs hx).value_eq]
  have hmagnitude : (unpacked x).abs ≠ .notANumber := (amountsTo_abs hx).isNumber
  constructor
  · rintro ⟨-, hy, hle⟩
    exact ⟨⟨hy, hx, by omega⟩, hx, hy, by omega⟩
  · rintro ⟨⟨hy, -, hge⟩, -, -, hle⟩
    exact ⟨hmagnitude, hy, by omega⟩

/-- The magnitude of a double is a number exactly if it is one itself. -/
theorem isNumber_abs_iff : IsNumber x.abs ↔ IsNumber x := by
  rw [isNumber_iff, isNumber_iff, unpacked_abs]
  cases unpacked x <;> simp [UnpackedFloat.abs]

/-- A number is finite if its magnitude is. -/
theorem isFinite_abs_iff : isFinite x.abs = true ↔ isFinite x = true := by
  rw [isFinite_unpacked_iff, isFinite_unpacked_iff, unpacked_abs]
  cases unpacked x <;> exact Iff.rfl

/-- **Two finite numbers are no further apart than their magnitudes together.** -/
theorem abs_sub_atMost (hx : isFinite x = true) (hy : isFinite y = true) :
    AtMost (x - y).abs (x.abs + y.abs) := by
  have hx' := amountsTo_abs (isNumber_iff.1 (OrderedQuantity.isNumber_of_isFinite hx))
  have hy' := amountsTo_abs (isNumber_iff.1 (OrderedQuantity.isNumber_of_isFinite hy))
  obtain ⟨d, hd, hdifference⟩ := exists_abs_difference (fits_unpacked x) (fits_unpacked y)
    (isFinite_unpacked_iff.1 hx) (isFinite_unpacked_iff.1 hy)
  rw [← unpacked_abs] at hx' hy'
  rw [← unpacked_sub, ← unpacked_abs] at hdifference
  exact (atMost_iff_le hdifference (amountsTo_add hx' hy')).2 (nearest_mono hd)

/-- The sum of finite numbers is a number. -/
theorem isNumber_add (hx : isFinite x = true) (hy : isFinite y = true) : IsNumber (x + y) := by
  rw [isNumber_iff, unpacked_add]
  exact repacked_ne (sum_ne (isFinite_unpacked_iff.1 hx) (isFinite_unpacked_iff.1 hy))

/-- What lies between zero and one is finite. -/
theorem isFinite_of_atMost_one (hx : AtMost Quantity.zero x) (hx' : AtMost x one) :
    isFinite x = true :=
  OrderedQuantity.isFinite_of_atMost hx hx' (by decide)

/-- The product of a finite number and zero is zero. -/
theorem mul_zero_atMost (hx : isFinite x = true) (hy : unpacked y = .zero s) :
    AtMost (x * y) Quantity.zero := by
  rw [isFinite_unpacked_iff] at hx
  rw [atMost_iff, unpacked_mul, hy, unpacked_zero]
  generalize unpacked x = u at hx ⊢
  cases u with
  | notANumber => cases hx
  | infinity t => cases hx
  | _ => exact ⟨by simp [UnpackedFloat.mul], nofun, by simp [UnpackedFloat.mul, value]⟩

/-- The product of amounts up to one is at most one. -/
theorem mul_atMost_one (hx : AtMost Quantity.zero x) (hx' : AtMost x one)
    (hy : AtMost Quantity.zero y) (hy' : AtMost y one) : AtMost (x * y) one := by
  obtain ⟨m, e, hm, hone⟩ := exists_finite_ofNat (n := 1) (by omega) (by omega)
  obtain ⟨b, hb⟩ := zero_atMost_iff.1 hy
  rcases hb.cases with ⟨hinfinite, -⟩ | ⟨s, hzero, -⟩ | ⟨n, f, hn, hpositive, -⟩
  · have hfinite := isFinite_unpacked_iff.1 (isFinite_of_atMost_one hy hy')
    rw [hinfinite] at hfinite
    cases hfinite
  · exact (mul_zero_atMost (isFinite_of_atMost_one hx hx') hzero).trans (by decide)
  · have hless : AtMost (x * y) (one * y) := (mul_atMost_mul hx hx' hpositive).2
    have hless' : AtMost (one * y) (one * one) := by
      rw [Binary64.mul_comm one y]
      exact (mul_atMost_mul hy hy' hone).2
    exact (hless.trans hless').trans (by decide)

/-- **A product of numbers between minus one and one is another.** -/
theorem abs_mul_atMost_one (hx : IsNumber x) (hx' : AtMost x.abs one) (hy : IsNumber y)
    (hy' : AtMost y.abs one) : AtMost (x * y).abs one := by
  rw [Binary64.abs_mul]
  exact mul_atMost_one (zero_atMost_abs hx) hx' (zero_atMost_abs hy) hy'

end BusNetwork.Binary64
