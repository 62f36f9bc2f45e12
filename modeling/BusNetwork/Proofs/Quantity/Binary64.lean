import BusNetwork.Proofs.Quantity.Order
import BusNetwork.Proofs.Quantity.Operation
import BusNetwork.Quantity.Binary64

/-!
# Journey times in 64-bit floating point

**The numbers that the running program computes in are journey times** (`TravelQuantity Float`).
Each law is the law of the values: numbers are ordered as their values are, and the value of a sum
is rounded, which keeps the order.
-/

namespace BusNetwork.Binary64

open Float.Model (Format UnpackedFloat)
open Float.Model.UnpackedFloat

/-! ## Floating-point numbers -/

/-- A floating-point number unpacked. -/
def unpacked (x : Float) : UnpackedFloat := x.toModel.unpack

variable {x y : Float}

/-- The number behind a double fits the format. -/
theorem fits_unpacked (x : Float) : Fits (unpacked x) := fits_unpack _

/-- A floating-point number is determined by what it unpacks to. -/
theorem unpacked_inj (h : unpacked x = unpacked y) : x = y := by
  have hbits := (unpack_inj_of_valid x.toModel.valid y.toModel.valid).1 h
  exact Float.toBits_inj.1 (UInt64.toBitVec_inj.1 hbits)

/-- A sum of doubles is the exact sum, rounded once. -/
theorem unpacked_add :
    unpacked (x + y) = repacked (UnpackedFloat.add Format.binary64 (unpacked x) (unpacked y)) :=
  rfl

/-- A difference of doubles is the exact difference, rounded once. -/
theorem unpacked_sub :
    unpacked (x - y) = repacked (UnpackedFloat.sub Format.binary64 (unpacked x) (unpacked y)) :=
  rfl

/-- A product of doubles is the exact product, rounded once. -/
theorem unpacked_mul :
    unpacked (x * y) = repacked (UnpackedFloat.mul Format.binary64 (unpacked x) (unpacked y)) :=
  rfl

/-- A quotient of doubles is the exact quotient, rounded once. -/
theorem unpacked_div :
    unpacked (x / y) = repacked (UnpackedFloat.div Format.binary64 (unpacked x) (unpacked y)) :=
  rfl

/-- The double zero is the positive zero. -/
theorem unpacked_zero : unpacked (Quantity.zero : Float) = .zero .positive := by
  rfl

/-- One double lies below another exactly if both are numbers and their values do. -/
theorem lt_iff : x < y ↔ unpacked x ≠ .notANumber ∧ unpacked y ≠ .notANumber ∧
    value (unpacked x) < value (unpacked y) := by
  have hcompare : x < y ↔ (unpacked x).compare (unpacked y) = some .lt :=
    decide_eq_true_iff.trans beq_iff_eq
  rw [hcompare, compare_eq_some_iff (fits_unpacked x) (fits_unpacked y), compare_lt_iff_lt]

/-- Two doubles compare as equal exactly if both are numbers of the same value. -/
theorem beq_iff : (x == y) = true ↔ unpacked x ≠ .notANumber ∧ unpacked y ≠ .notANumber ∧
    value (unpacked x) = value (unpacked y) := by
  have hcompare : (x == y) = true ↔ (unpacked x).compare (unpacked y) = some .eq := by
    change ((unpacked x).compare (unpacked y) == some .eq) = true ↔ _
    exact beq_iff_eq
  rw [hcompare, compare_eq_some_iff (fits_unpacked x) (fits_unpacked y), compare_eq_iff_eq]

/-- A double is a number exactly if it is not the mark for none. -/
theorem isNumber_iff : Quantity.IsNumber x ↔ unpacked x ≠ .notANumber := by
  refine beq_iff.trans ⟨fun h => h.1, fun h => ⟨h, h, rfl⟩⟩

/-- One double is at most another exactly if both are numbers and their values are so. -/
theorem atMost_iff : Quantity.AtMost x y ↔ unpacked x ≠ .notANumber ∧ unpacked y ≠ .notANumber ∧
    value (unpacked x) ≤ value (unpacked y) := by
  refine (or_congr lt_iff beq_iff).trans ?_
  rw [← and_or_left, ← and_or_left, le_iff_lt_or_eq]

/-- The quantities from zero on are the amounts. -/
theorem zero_atMost_iff : Quantity.AtMost Quantity.zero x ↔ ∃ a, AmountsTo (unpacked x) a := by
  rw [atMost_iff, unpacked_zero]
  constructor
  · rintro ⟨-, hnumber, hpos⟩
    exact exists_amountsTo hnumber hpos
  · rintro ⟨a, ha⟩
    refine ⟨nofun, ha.isNumber, ?_⟩
    rw [ha.value_eq]
    exact Int.natCast_nonneg a

/-- Amounts are ordered as their units are. -/
theorem atMost_iff_le {a b : Nat} (ha : AmountsTo (unpacked x) a) (hb : AmountsTo (unpacked y) b) :
    Quantity.AtMost x y ↔ a ≤ b := by
  rw [atMost_iff, ha.value_eq, hb.value_eq, Int.ofNat_le]
  exact ⟨fun h => h.2.2, fun h => ⟨ha.isNumber, hb.isNumber, h⟩⟩

/-- An amount is finite if it has fewer units than the infinite one. -/
theorem isFinite_iff_lt {a : Nat} (ha : AmountsTo (unpacked x) a) :
    Quantity.isFinite x = true ↔ a < limit := by
  have hcheck : Quantity.isFinite x = true ↔ unpacked x ≠ .notANumber ∧
      -(limit : Int) < value (unpacked x) ∧ value (unpacked x) < limit :=
    isFinite_iff (fits_unpacked x)
  have hlimit : 0 < limit := limit_pos
  rw [hcheck, ha.value_eq]
  exact ⟨fun h => Int.ofNat_lt.1 h.2.2, fun h => ⟨ha.isNumber, by omega, Int.ofNat_lt.2 h⟩⟩

/-- The infinite quantity is the positive one of the two. -/
theorem unpacked_infinity : unpacked infinity = .infinity .positive := by
  rfl

/-- What is below infinity is a number whose value is below the limit. -/
theorem isBelowInfinity_iff : Quantity.isBelowInfinity x = true ↔
    unpacked x ≠ .notANumber ∧ value (unpacked x) < limit := by
  have hcheck : Quantity.isBelowInfinity x = true ↔ x < infinity := decide_eq_true_iff
  have hvalue : value (.infinity .positive) = limit := rfl
  rw [hcheck, lt_iff, unpacked_infinity, hvalue]
  exact ⟨fun h => ⟨h.1, h.2.2⟩, fun h => ⟨h.1, nofun, h.2⟩⟩

/-- What is at least an amount is an amount. -/
theorem exists_amountsTo_of_atMost {a : Nat} (ha : AmountsTo (unpacked x) a)
    (h : Quantity.AtMost x y) : ∃ b, AmountsTo (unpacked y) b := by
  obtain ⟨-, hnumber, hle⟩ := atMost_iff.1 h
  rw [ha.value_eq] at hle
  exact exists_amountsTo hnumber ((Int.natCast_nonneg a).trans hle)

/-- **The sum of two amounts has the units nearest to the sum of theirs.** -/
theorem amountsTo_add {a b : Nat} (ha : AmountsTo (unpacked x) a) (hb : AmountsTo (unpacked y) b) :
    AmountsTo (unpacked (x + y)) (nearest (a + b)) := by
  rw [unpacked_add]
  exact ha.add (fits_unpacked x) (fits_unpacked y) hb

/-- Adding to zero changes negative zero only. -/
theorem zero_add_eq_iff : Quantity.zero + x = x ↔ unpacked x ≠ .zero .negative := by
  refine ⟨fun h hnegative => ?_, fun h => unpacked_inj ?_⟩
  · have hsum : unpacked (Quantity.zero + x) = .zero .positive := by
      rw [unpacked_add, unpacked_zero, hnegative]
      exact repacked_zero
    rw [h, hnegative] at hsum
    cases hsum
  · have hsum : UnpackedFloat.add Format.binary64 (.zero .positive) (unpacked x) = unpacked x := by
      cases hx : unpacked x with
      | zero s =>
          cases s with
          | positive => rfl
          | negative => exact absurd hx h
      | _ => rfl
    rw [unpacked_add, unpacked_zero, hsum, repacked_of_fits (fits_unpacked x)]

/-- A natural number below 2^53 is converted through a machine word. -/
theorem ofNat_of_lt {n : Nat} (h : n < 2 ^ 53) :
    (Quantity.ofNat n : Float) = n.toUInt64.toFloat * Float.ofBits 0x3FF0000000000000 := by
  change Float.ofScientific n false 0 = _
  unfold Float.ofScientific
  rw [dif_pos ⟨h, by omega⟩]
  rfl

/-- A natural number from 2^53 on is converted as a decimal. -/
theorem ofNat_of_not_lt {n : Nat} (h : ¬ n < 2 ^ 53) :
    (Quantity.ofNat n : Float) = Float.ofModel (Float.Model.ofScientific n 0) := by
  change Float.ofScientific n false 0 = _
  unfold Float.ofScientific
  rw [dif_neg fun h' => h h'.1]
  rfl

/-- A whole number is an unsigned number. -/
theorem unpacked_ofNat (n : Nat) :
    unpacked (Quantity.ofNat n) ≠ .notANumber ∧ Unsigned (unpacked (Quantity.ofNat n)) := by
  by_cases hsmall : n < 2 ^ 53
  · have hone : unpacked (Float.ofBits 0x3FF0000000000000) =
        .finite .positive (2 ^ 52) (-52) (by decide) := rfl
    have hn : unpacked n.toUInt64.toFloat = repacked (Float.Model.UnpackedFloat.normalize
        Float.Model.Format.binary64 (n.toUInt64.toNat : Int) 0 .positive) := rfl
    rw [ofNat_of_lt hsmall, unpacked_mul, hone, hn]
    refine ⟨repacked_ne (mul_finite_ne (repacked_ne normalize_ne)), ?_⟩
    refine ((unsigned_normalize (Int.natCast_nonneg _)).repacked.mul ?_).repacked
    exact (rfl : Float.Model.UnpackedFloat.Sign.positive = .positive)
  · rw [ofNat_of_not_lt hsmall]
    obtain ⟨hnumber, hunsigned⟩ := ofScientific_spec n 0
    exact ⟨repacked_ne hnumber, hunsigned.repacked⟩

/-- A positive speed taken in other units has no minus sign. -/
theorem unsigned_unpacked_speed {v : Float} (hv : Quantity.zero < v) :
    Unsigned (unpacked (v * Quantity.ofNat 1000 / Quantity.ofNat 60)) := by
  obtain ⟨-, hnumber, hpos⟩ := lt_iff.1 hv
  have hspeed := unsigned_of_pos hnumber hpos
  rw [unpacked_div, unpacked_mul]
  exact ((hspeed.mul (unpacked_ofNat 1000).2).repacked.div (unpacked_ofNat 60).2).repacked

end BusNetwork.Binary64

namespace BusNetwork

open Quantity Binary64

/-- The order of doubles has the laws that a search relies on. -/
instance : OrderedQuantity Float where
  isNumber_of_atMost h := by
    obtain ⟨hx, hy, -⟩ := atMost_iff.1 h
    exact ⟨isNumber_iff.2 hx, isNumber_iff.2 hy⟩
  atMost_total hx hy := by
    rw [atMost_iff, atMost_iff]
    rw [isNumber_iff] at hx hy
    exact (le_total _ _).imp (fun h => ⟨hx, hy, h⟩) fun h => ⟨hy, hx, h⟩
  atMost_trans hxy hyz := by
    obtain ⟨hx, -, hle⟩ := atMost_iff.1 hxy
    obtain ⟨-, hz, hle'⟩ := atMost_iff.1 hyz
    exact atMost_iff.2 ⟨hx, hz, hle.trans hle'⟩
  lt_iff := by
    intro x y
    rw [atMost_iff, atMost_iff]
    refine lt_iff.trans ⟨fun ⟨hx, hy, h⟩ => ⟨⟨hx, hy, h.le⟩, fun h' => h'.2.2.not_gt h⟩, ?_⟩
    rintro ⟨⟨hx, hy, -⟩, h⟩
    exact ⟨hx, hy, not_le.1 fun hle => h ⟨hy, hx, hle⟩⟩
  beq_iff := by
    intro x y
    rw [atMost_iff, atMost_iff]
    refine Binary64.beq_iff.trans
      ⟨fun ⟨hx, hy, h⟩ => ⟨⟨hx, hy, h.le⟩, hy, hx, h.ge⟩, ?_⟩
    rintro ⟨⟨hx, hy, hle⟩, -, -, hge⟩
    exact ⟨hx, hy, le_antisymm hle hge⟩
  isFinite_zero := by decide
  isNumber_of_isFinite h := isNumber_iff.2 ((isFinite_iff (fits_unpacked _)).1 h).1
  isFinite_of_atMost hx hxy hy := by
    obtain ⟨a, ha⟩ := zero_atMost_iff.1 hx
    obtain ⟨-, -, hle⟩ := atMost_iff.1 hxy
    obtain ⟨-, -, hless⟩ := (isFinite_iff (fits_unpacked _)).1 hy
    rw [ha.value_eq] at hle
    have hlimit : (0 : Int) < limit := Int.ofNat_lt.2 limit_pos
    refine (isFinite_iff (fits_unpacked _)).2 ⟨ha.isNumber, ?_, ?_⟩ <;> rw [ha.value_eq] <;> omega
  isBelowInfinity_of_isFinite h := by
    obtain ⟨hnumber, -, hless⟩ := (isFinite_iff (fits_unpacked _)).1 h
    exact isBelowInfinity_iff.2 ⟨hnumber, hless⟩
  isNumber_of_isBelowInfinity h := isNumber_iff.2 (isBelowInfinity_iff.1 h).1
  isFinite_of_isBelowInfinity hx h := by
    obtain ⟨a, ha⟩ := zero_atMost_iff.1 hx
    obtain ⟨-, hless⟩ := isBelowInfinity_iff.1 h
    rw [ha.value_eq] at hless
    exact (isFinite_iff_lt ha).2 (Int.ofNat_lt.1 hless)
  isNumber_of_add h := by
    rw [isNumber_iff, unpacked_add] at h
    rw [isNumber_iff, isNumber_iff]
    exact ne_of_add_ne (ne_of_repacked_ne h)
  atMost_add hx hw := by
    obtain ⟨a, ha⟩ := zero_atMost_iff.1 hx
    obtain ⟨b, hb⟩ := zero_atMost_iff.1 hw
    apply (atMost_iff_le ha (amountsTo_add ha hb)).2
    calc
      a = nearest a := (ha.nearest_eq (fits_unpacked _)).symm
      _ ≤ nearest (a + b) := nearest_mono (Nat.le_add_right a b)
  add_atMost_add hx hw hxy := by
    obtain ⟨a, ha⟩ := zero_atMost_iff.1 hx
    obtain ⟨b, hb⟩ := exists_amountsTo_of_atMost ha hxy
    obtain ⟨c, hc⟩ := zero_atMost_iff.1 hw
    have hle : a ≤ b := (atMost_iff_le ha hb).1 hxy
    apply (atMost_iff_le (amountsTo_add ha hc) (amountsTo_add hb hc)).2
    exact nearest_mono (Nat.add_le_add_right hle c)
  zero_add_zero := by decide
  zero_add_add hx hw h := by
    obtain ⟨a, ha⟩ := zero_atMost_iff.1 hx
    obtain ⟨b, hb⟩ := zero_atMost_iff.1 hw
    rw [zero_add_eq_iff] at h ⊢
    have hunsigned := ha.unsigned_or_zero.resolve_right h
    have hsum := (hunsigned.add hb).repacked
    rw [unpacked_add]
    intro hnegative
    rw [hnegative] at hsum
    cases hsum
  eq_of_beq hx hy h := by
    obtain ⟨-, -, heq | ⟨-, rfl⟩ | ⟨rfl, -⟩⟩ := Float.beq_iff_ne_nan_and_eq.1 h
    · exact heq
    · exact absurd hy (by decide)
    · exact absurd hx (by decide)

/-- The arithmetic of doubles has the laws that travel times rely on. -/
instance : TravelQuantity Float where
  zero_atMost_ofNat n := by
    obtain ⟨hnumber, hunsigned⟩ := unpacked_ofNat n
    exact zero_atMost_iff.2 (exists_amountsTo hnumber hunsigned.zero_le_value)
  zero_atMost_sub hx hxy hnumber := by
    obtain ⟨a, ha⟩ := zero_atMost_iff.1 hx
    obtain ⟨b, hb⟩ := exists_amountsTo_of_atMost ha hxy
    have hle : a ≤ b := (atMost_iff_le ha hb).1 hxy
    refine zero_atMost_iff.2 (exists_amountsTo (isNumber_iff.1 hnumber) ?_)
    rw [unpacked_sub]
    exact ha.zero_le_value_sub (fits_unpacked _) (fits_unpacked _) hb hle
  isNumber_of_div h := by
    rw [isNumber_iff, unpacked_div] at h
    exact isNumber_iff.2 (ne_of_div_ne (ne_of_repacked_ne h))
  zero_atMost_div hx _ hv hnumber := by
    obtain ⟨a, ha⟩ := zero_atMost_iff.1 hx
    refine zero_atMost_iff.2 (exists_amountsTo (isNumber_iff.1 hnumber) ?_)
    rw [unpacked_div]
    rcases ha.unsigned_or_zero with hunsigned | hzero
    · exact (hunsigned.div (unsigned_unpacked_speed hv)).repacked.zero_le_value
    · rw [hzero, value_div_zero]

end BusNetwork
