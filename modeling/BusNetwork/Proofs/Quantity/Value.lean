import BusNetwork.Proofs.Quantity.Packing

/-!
# Values: unpacked quantities as whole numbers

A number is a whole number of units `2 ^ -1074`, its `value`; the infinite ones stand at `limit`,
the first value that is too large. **Comparing two numbers is comparing their values**
(`compare_eq`), since a canonical mantissa at a larger exponent has more units.

`AmountsTo u a` says that a number is not negative, with its units.
-/

namespace BusNetwork.Binary64

open Float.Model (Format UnpackedFloat)
open Float.Model.UnpackedFloat

variable {s : Sign} {m n : Nat} {e f : Int} {u v : UnpackedFloat}

/-! ## Units -/

/-- A positive mantissa has a positive number of units. -/
theorem units_pos (hm : 0 < m) : 0 < units m e := Nat.mul_pos hm (Nat.two_pow_pos _)

/-- A mantissa of 53 bits has fewer units than a canonical one at a larger exponent. -/
theorem units_lt_units (hm : m < 2 ^ 53) (hleast : -1074 ≤ e) (hn : Canonical n f) (h : e < f) :
    units m e < units n f := by
  have hfull : 2 ^ 52 ≤ n := hn.full.resolve_right (by omega)
  have hpos : 0 < 2 ^ (e + 1074).toNat := Nat.two_pow_pos _
  calc
    units m e < 2 ^ 53 * 2 ^ (e + 1074).toNat := Nat.mul_lt_mul_of_pos_right hm hpos
    _ = 2 ^ 52 * 2 ^ ((e + 1074).toNat + 1) := by ring
    _ ≤ 2 ^ 52 * 2 ^ (f + 1074).toNat :=
      Nat.mul_le_mul_left _ (Nat.pow_le_pow_right Nat.two_pos (by omega))
    _ ≤ units n f := Nat.mul_le_mul_right _ hfull

/-- Canonical mantissas compare by their exponents first. -/
theorem compare_units (hm : Canonical m e) (hn : Canonical n f) :
    (compare e f).then (compare m n) = compare (units m e) (units n f) := by
  rcases lt_trichotomy e f with h | rfl | h
  · rw [compare_lt_iff_lt.2 h, compare_lt_iff_lt.2 (units_lt_units hm.lt hm.least hn h)]
    rfl
  · have hpos : 0 < 2 ^ (e + 1074).toNat := Nat.two_pow_pos _
    unfold units
    rw [compare_eq_iff_eq.2 rfl]
    rcases lt_trichotomy m n with h | rfl | h
    · rw [compare_lt_iff_lt.2 h, compare_lt_iff_lt.2 (Nat.mul_lt_mul_of_pos_right h hpos)]
      rfl
    · rw [compare_eq_iff_eq.2 rfl, compare_eq_iff_eq.2 rfl]
      rfl
    · rw [compare_gt_iff_gt.2 h, compare_gt_iff_gt.2 (Nat.mul_lt_mul_of_pos_right h hpos)]
      rfl
  · rw [compare_gt_iff_gt.2 h, compare_gt_iff_gt.2 (units_lt_units hn.lt hn.least hm h)]
    rfl

/-! ## Values -/

/-- The units of the first number that is too large, which an infinite quantity stands at. -/
@[irreducible]
def limit : Nat := units (2 ^ 52) 972

/-- The first number that is too large has a full mantissa. -/
theorem canonical_limit : Canonical (2 ^ 52) 972 := ⟨by norm_num, by norm_num, .inl le_rfl⟩

/-- The limit is not zero. -/
theorem limit_pos : 0 < limit := by
  unfold limit
  exact units_pos (Nat.two_pow_pos 52)

/-- Mantissas of 53 bits at an exponent up to 971 stay below the limit. -/
theorem units_lt_limit (hm : m < 2 ^ 53) (hleast : -1074 ≤ e) (he : e ≤ 971) :
    units m e < limit := by
  unfold limit
  exact units_lt_units hm hleast canonical_limit (by omega)

/-- Full mantissas at an exponent above 971 reach the limit. -/
theorem limit_le_units (h : Canonical m e) (he : 971 < e) : limit ≤ units m e := by
  unfold limit
  rcases (show 972 ≤ e by omega).eq_or_lt with rfl | hlt
  · exact Nat.mul_le_mul_right _ (h.full.resolve_right (by omega))
  · exact (units_lt_units canonical_limit.lt canonical_limit.least h hlt).le

/-- A number in units of `2 ^ -1074`. -/
def value : UnpackedFloat → Int
  | .infinity s => s.apply limit
  | .notANumber => 0
  | .zero _ => 0
  | .finite s m e _ => s.apply (units m e)

/-- A number has so many units and is not negative. -/
structure AmountsTo (u : UnpackedFloat) (a : Nat) : Prop where
  /-- It is a number. -/
  isNumber : u ≠ .notANumber
  /-- It has so many units. -/
  value_eq : value u = a

variable {a : Nat}

/-- The numbers that are not negative: the infinite one, both zeros, and finite ones. -/
theorem AmountsTo.cases (h : AmountsTo u a) :
    (u = .infinity .positive ∧ a = limit) ∨ (∃ s, u = .zero s ∧ a = 0) ∨
      ∃ m e hm, u = .finite .positive m e hm ∧ a = units m e := by
  have hvalue := h.value_eq
  cases u with
  | notANumber => exact absurd rfl h.isNumber
  | zero s => exact .inr (.inl ⟨s, rfl, (Int.ofNat_inj.1 hvalue).symm⟩)
  | infinity s =>
      have hpos := limit_pos
      cases s with
      | positive => exact .inl ⟨rfl, (Int.ofNat_inj.1 hvalue).symm⟩
      | negative =>
          simp only [value, Sign.apply] at hvalue
          omega
  | finite s m e hm =>
      have hpos := units_pos (e := e) hm
      cases s with
      | positive => exact .inr (.inr ⟨m, e, hm, rfl, (Int.ofNat_inj.1 hvalue).symm⟩)
      | negative =>
          simp only [value, Sign.apply] at hvalue
          omega

/-- A number whose value is not negative is an amount. -/
theorem exists_amountsTo (hu : u ≠ .notANumber) (h : 0 ≤ value u) : ∃ a, AmountsTo u a := by
  obtain ⟨a, ha⟩ := Int.eq_ofNat_of_zero_le h
  exact ⟨a, hu, ha⟩

/-! ## Comparing -/

/-- Numbers that stand in an order stand in the opposite one with minus signs. -/
theorem compare_neg_natCast (a b : Nat) : compare (-(a : Int)) (-b) = (compare a b).swap := by
  rcases lt_trichotomy a b with h | rfl | h
  · rw [compare_lt_iff_lt.2 h, compare_gt_iff_gt.2 (by omega)]
    rfl
  · rw [compare_eq_iff_eq.2 rfl, compare_eq_iff_eq.2 rfl]
    rfl
  · rw [compare_gt_iff_gt.2 h, compare_lt_iff_lt.2 (by omega)]
    rfl

/-- Natural numbers compare as integers as they do by themselves. -/
theorem compare_natCast (a b : Nat) : compare (a : Int) b = compare a b := by
  rcases lt_trichotomy a b with h | rfl | h
  · rw [compare_lt_iff_lt.2 h, compare_lt_iff_lt.2 (by omega)]
  · rw [compare_eq_iff_eq.2 rfl, compare_eq_iff_eq.2 rfl]
  · rw [compare_gt_iff_gt.2 h, compare_gt_iff_gt.2 (by omega)]

/-- Finite quantities compare by their signs, and then by their units. -/
theorem compare_finite {t : Sign} (hm : 0 < m) (hn : 0 < n) (hu : Canonical m e)
    (hv : Canonical n f) : (UnpackedFloat.finite s m e hm).compare (.finite t n f hn) =
      some (compare (s.apply (units m e)) (t.apply (units n f))) := by
  have hm' : (0 : Int) < units m e := Int.ofNat_lt.2 (units_pos hm)
  have hn' : (0 : Int) < units n f := Int.ofNat_lt.2 (units_pos hn)
  cases s <;> cases t <;> simp only [UnpackedFloat.compare, Sign.apply, Option.some_inj]
  · rw [compare_units hu hv, compare_neg_natCast]
  · exact (compare_lt_iff_lt.2 (by omega)).symm
  · exact (compare_gt_iff_gt.2 (by omega)).symm
  · rw [compare_units hu hv, compare_natCast]

/-- A finite value lies strictly between the infinite ones. -/
theorem abs_value_lt_limit {hm : 0 < m} (h : Fits (.finite s m e hm)) :
    -(limit : Int) < s.apply (units m e) ∧ s.apply (units m e) < limit := by
  have hless : (units m e : Int) < limit := Int.ofNat_lt.2 (units_lt_limit h.1.lt h.1.least h.2)
  cases s <;> simp only [Sign.apply] <;> omega

/-- **Comparing two numbers is comparing their values.** -/
theorem compare_eq (hu : Fits u) (hv : Fits v) (hu' : u ≠ .notANumber) (hv' : v ≠ .notANumber) :
    u.compare v = some (compare (value u) (value v)) := by
  have hlimit : (0 : Int) < limit := Int.ofNat_lt.2 limit_pos
  symm
  cases u with
  | notANumber => exact absurd rfl hu'
  | infinity s =>
      cases v with
      | notANumber => exact absurd rfl hv'
      | infinity t =>
          simp only [UnpackedFloat.compare, value, Option.some_inj]
          cases s <;> cases t
          · exact compare_eq_iff_eq.2 rfl
          · exact compare_lt_iff_lt.2 (by simp only [Sign.apply]; omega)
          · exact compare_gt_iff_gt.2 (by simp only [Sign.apply]; omega)
          · exact compare_eq_iff_eq.2 rfl
      | zero t =>
          cases s with
          | negative => exact congrArg some (compare_lt_iff_lt.2 (neg_neg_of_pos hlimit))
          | positive => exact congrArg some (compare_gt_iff_gt.2 hlimit)
      | finite t n f hn =>
          obtain ⟨habove, hbelow⟩ := abs_value_lt_limit hv
          cases s with
          | negative => exact congrArg some (compare_lt_iff_lt.2 habove)
          | positive => exact congrArg some (compare_gt_iff_gt.2 hbelow)
  | zero s =>
      cases v with
      | notANumber => exact absurd rfl hv'
      | zero t => exact congrArg some (compare_eq_iff_eq.2 rfl)
      | infinity t =>
          cases t with
          | negative => exact congrArg some (compare_gt_iff_gt.2 (neg_neg_of_pos hlimit))
          | positive => exact congrArg some (compare_lt_iff_lt.2 hlimit)
      | finite t n f hn =>
          have hpos : (0 : Int) < units n f := Int.ofNat_lt.2 (units_pos hn)
          cases t with
          | negative => exact congrArg some (compare_gt_iff_gt.2 (neg_neg_of_pos hpos))
          | positive => exact congrArg some (compare_lt_iff_lt.2 hpos)
  | finite s m e hm =>
      cases v with
      | notANumber => exact absurd rfl hv'
      | infinity t =>
          obtain ⟨habove, hbelow⟩ := abs_value_lt_limit hu
          cases t with
          | negative => cases s <;> exact congrArg some (compare_gt_iff_gt.2 habove)
          | positive => cases s <;> exact congrArg some (compare_lt_iff_lt.2 hbelow)
      | zero t =>
          have hpos : (0 : Int) < units m e := Int.ofNat_lt.2 (units_pos hm)
          cases s with
          | negative => exact congrArg some (compare_lt_iff_lt.2 (neg_neg_of_pos hpos))
          | positive => exact congrArg some (compare_gt_iff_gt.2 hpos)
      | finite t n f hn => exact (compare_finite hm hn hu.1 hv.1).symm

/-- Nothing compares to the undefined quantity. -/
theorem ne_of_compare {o : Ordering} (h : u.compare v = some o) :
    u ≠ .notANumber ∧ v ≠ .notANumber := by
  refine ⟨?_, ?_⟩ <;> rintro rfl
  · cases h
  · cases u with
    | infinity s => cases s <;> cases h
    | finite s m e hm => cases s <;> cases h
    | _ => cases h

/-- Two numbers compare as their values do. -/
theorem compare_eq_some_iff {o : Ordering} (hu : Fits u) (hv : Fits v) :
    u.compare v = some o ↔
      u ≠ .notANumber ∧ v ≠ .notANumber ∧ compare (value u) (value v) = o := by
  refine ⟨fun h => ?_, fun ⟨hu', hv', h⟩ => ?_⟩
  · obtain ⟨hu', hv'⟩ := ne_of_compare h
    rw [compare_eq hu hv hu' hv'] at h
    exact ⟨hu', hv', Option.some_inj.1 h⟩
  · rw [compare_eq hu hv hu' hv', h]

/-- A quantity is finite if its value lies strictly between the infinite ones. -/
theorem isFinite_iff (hu : Fits u) :
    u.isFinite = true ↔ u ≠ .notANumber ∧ -(limit : Int) < value u ∧ value u < limit := by
  have hlimit : (0 : Int) < limit := Int.ofNat_lt.2 limit_pos
  cases u with
  | notANumber => simp [UnpackedFloat.isFinite]
  | infinity s => cases s <;> simp [UnpackedFloat.isFinite, value, Sign.apply]
  | zero s => simp [UnpackedFloat.isFinite, value, limit_pos]
  | finite s m e hm => exact iff_of_true rfl ⟨nofun, abs_value_lt_limit hu⟩

end BusNetwork.Binary64
