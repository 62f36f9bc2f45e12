import BusNetwork.Proofs.Quantity.Value

/-!
# Operations: sums, differences, products and quotients that are packed

Every operation computes on unpacked quantities, and `repacked` is what is left of its result.

* `AmountsTo.add` — the sum of two amounts has the units that are **nearest to the sum of theirs**.
* `AmountsTo.zero_le_value_sub` — the difference of an amount and a smaller one is not negative.
* `Unsigned` — there is no minus sign. Packing, products and quotients keep that.
-/

namespace BusNetwork.Binary64

open Float.Model (Format UnpackedFloat)
open Float.Model.UnpackedFloat

variable {s : Sign} {m n a b : Nat} {e f : Int} {u v : UnpackedFloat}

/-! ## Packed results -/

/-- What a result is once it has been packed. -/
def repacked (u : UnpackedFloat) : UnpackedFloat :=
  UnpackedFloat.unpack Format.binary64 (UnpackedFloat.pack Format.binary64 u)

/-- What fits the format is not changed by packing. -/
theorem repacked_of_fits (h : Fits u) : repacked u = u := unpack_pack h

/-- So many units once they are packed: rounded, and infinite from `limit` on. -/
def nearest (n : Nat) : Nat := min limit (rounded n)

/-- More units are no fewer once they are packed. -/
theorem nearest_mono (h : m ≤ n) : nearest m ≤ nearest n := min_le_min_left limit (rounded_mono h)

/-- An amount that fits is nearest to itself. -/
theorem AmountsTo.nearest_eq (hu : Fits u) (h : AmountsTo u a) : nearest a = a := by
  unfold nearest
  rcases h.cases with ⟨rfl, rfl⟩ | ⟨s, rfl, rfl⟩ | ⟨m, e, hm, rfl, rfl⟩
  · have hlimit : rounded limit = limit := by
      unfold limit
      exact rounded_of_fits canonical_limit.lt
    rw [hlimit, Nat.min_self]
  · have hzero : rounded 0 = 0 := by
      simpa using rounded_of_fits (Nat.two_pow_pos 53) (j := 0)
    rw [hzero, Nat.min_zero]
  · have hfits : rounded (units m e) = units m e := rounded_of_fits hu.1.lt
    rw [hfits, Nat.min_eq_right (units_lt_limit hu.1.lt hu.1.least hu.2).le]

/-- The positive infinity stands at the limit. -/
theorem amountsTo_infinity : AmountsTo (.infinity .positive) limit := ⟨nofun, rfl⟩

/-- Either zero amounts to no units. -/
theorem amountsTo_zero : AmountsTo (.zero s) 0 := ⟨nofun, rfl⟩

/-- Nothing brings a sum with an infinite part back. -/
theorem nearest_limit_add : nearest (limit + n) = limit := by
  have hfits : Fits (.infinity .positive) := trivial
  apply le_antisymm (Nat.min_le_left _ _)
  calc
    limit = nearest limit := (amountsTo_infinity.nearest_eq hfits).symm
    _ ≤ nearest (limit + n) := nearest_mono (Nat.le_add_right _ _)

/-- Packing changes no amount that fits. -/
theorem AmountsTo.repacked (hu : Fits u) (h : AmountsTo u a) :
    AmountsTo (repacked u) (nearest a) := by
  rw [repacked_of_fits hu, h.nearest_eq hu]
  exact h

/-- A canonical quantity has its units, unless they are too many. -/
theorem amountsTo_repacked_finite {hm : 0 < m} (h : Canonical m e) :
    AmountsTo (Binary64.repacked (.finite .positive m e hm)) (min limit (units m e)) := by
  by_cases hle : e ≤ 971
  · have hless := units_lt_limit h.lt h.least hle
    have hfits : Fits (.finite .positive m e hm) := And.intro h hle
    rw [repacked_of_fits hfits, Nat.min_eq_right hless.le]
    exact ⟨nofun, rfl⟩
  · have hlarge : 971 < e := by omega
    unfold Binary64.repacked
    rw [unpack_pack_large hlarge, Nat.min_eq_left (limit_le_units h hlarge)]
    exact amountsTo_infinity

/-- A rounded quantity has the nearest units. -/
theorem amountsTo_repacked_round (hm : 0 < m) (he : -1074 ≤ e) :
    AmountsTo (Binary64.repacked (UnpackedFloat.round Format.binary64 .positive m e))
      (nearest (units m e)) := by
  obtain ⟨m', e', hm', hround, hcanonical, hunits⟩ := exists_round_eq (s := .positive) hm he
  unfold nearest
  rw [hround, ← hunits]
  exact amountsTo_repacked_finite hcanonical

/-! ## Signs -/

/-- A quantity has no minus sign. -/
def Unsigned : UnpackedFloat → Prop
  | .infinity s => s = .positive
  | .notANumber => True
  | .zero s => s = .positive
  | .finite s _ _ _ => s = .positive

/-- A number without a minus sign has a value of at least zero. -/
theorem Unsigned.zero_le_value (h : Unsigned u) : 0 ≤ value u := by
  cases u with
  | infinity s =>
      obtain rfl : s = .positive := h
      exact Int.natCast_nonneg _
  | notANumber => exact le_rfl
  | zero s => exact le_rfl
  | finite s m e hm =>
      obtain rfl : s = .positive := h
      exact Int.natCast_nonneg _

/-- An amount is unsigned or negative zero. -/
theorem AmountsTo.unsigned_or_zero (h : AmountsTo u a) : Unsigned u ∨ u = .zero .negative := by
  rcases h.cases with ⟨rfl, -⟩ | ⟨s, rfl, -⟩ | ⟨m, e, hm, rfl, -⟩
  · exact .inl rfl
  · cases s with
    | positive => exact .inl rfl
    | negative => exact .inr rfl
  · exact .inl rfl

/-- A positive number is unsigned. -/
theorem unsigned_of_pos (hu : u ≠ .notANumber) (hpos : 0 < value u) : Unsigned u := by
  obtain ⟨a, ha⟩ := exists_amountsTo hu hpos.le
  apply ha.unsigned_or_zero.resolve_right
  rintro rfl
  exact lt_irrefl _ hpos

/-- Bits without a sign bit stand for a quantity without a minus sign. -/
theorem unsigned_unpack_packComponents {e : BitVec 11} {m : BitVec 52} :
    Unsigned (UnpackedFloat.unpack Format.binary64
      (packComponents Format.binary64 .positive e m)) := by
  unfold unpack
  simp only [unpackSign_packComponents, Sign.ofBitVec_toBitVec]
  split_ifs <;> trivial

/-- Bits whose exponent is not all ones stand for a number. -/
theorem unpack_packComponents_ne {e : BitVec 11} {m : BitVec 52} (h : e ≠ -1#11) :
    UnpackedFloat.unpack Format.binary64 (packComponents Format.binary64 s e m) ≠ .notANumber := by
  unfold unpack
  simp only [unpackExponent_packComponents]
  rw [if_neg h]
  split_ifs <;> nofun

/-- Packing keeps the sign. -/
theorem Unsigned.repacked (h : Unsigned u) : Unsigned (repacked u) := by
  unfold Binary64.repacked
  cases u with
  | infinity s =>
      obtain rfl : s = .positive := h
      exact unsigned_unpack_packComponents
  | notANumber => trivial
  | zero s =>
      obtain rfl : s = .positive := h
      exact unsigned_unpack_packComponents
  | finite s m e hm =>
      obtain rfl : s = .positive := h
      simp only [pack]
      split_ifs <;> exact unsigned_unpack_packComponents

/-- A number stays a number when it is packed. -/
theorem repacked_ne (h : u ≠ .notANumber) : repacked u ≠ .notANumber := by
  unfold repacked
  cases u with
  | infinity s => simp [pack]
  | notANumber => exact absurd rfl h
  | zero s => simp [pack]
  | finite s m e hm =>
      simp only [pack]
      split_ifs with hlarge
      · simp
      · apply unpack_packComponents_ne
        intro hones
        have hexponent := congrArg BitVec.toNat hones
        rw [BitVec.toNat_ofNat, show (-1#11).toNat = 2047 from rfl] at hexponent
        omega
      · exact unpack_packComponents_ne (by decide)

/-- What is no number stays so when it is packed. -/
@[simp]
theorem repacked_notANumber : repacked .notANumber = .notANumber := unpack_packedNaN

/-- An infinity stays the same when it is packed. -/
@[simp]
theorem repacked_infinity : repacked (.infinity s) = .infinity s := unpack_packedInfinity

/-- A zero keeps its sign when it is packed. -/
@[simp]
theorem repacked_zero : repacked (.zero s) = .zero s := unpack_packedZero

/-- Rounding puts no minus sign before a result. -/
theorem unsigned_roundWithAccuracy {accuracy : Accuracy} :
    Unsigned (roundWithAccuracy Format.binary64 .positive m e accuracy) := by
  unfold roundWithAccuracy
  simp only
  split_ifs <;> rfl

/-- Bringing an integer that is not negative into the format puts no minus sign before it. -/
theorem unsigned_normalize {i : Int} (h : 0 ≤ i) :
    Unsigned (UnpackedFloat.normalize Format.binary64 i e .positive) := by
  unfold UnpackedFloat.normalize
  rcases h.eq_or_lt with rfl | hpos
  · rfl
  · rw [compare_gt_iff_gt.2 hpos]
    exact unsigned_roundWithAccuracy

/-- Products of unsigned quantities are unsigned. -/
theorem Unsigned.mul (hu : Unsigned u) (hv : Unsigned v) :
    Unsigned (UnpackedFloat.mul Format.binary64 u v) := by
  cases u <;> cases v <;> simp only [Unsigned] at hu hv <;> subst_vars <;>
    first | exact unsigned_roundWithAccuracy | trivial

/-- Quotients of unsigned quantities are unsigned. -/
theorem Unsigned.div (hu : Unsigned u) (hv : Unsigned v) :
    Unsigned (UnpackedFloat.div Format.binary64 u v) := by
  cases u <;> cases v <;> simp only [Unsigned] at hu hv <;> subst_vars <;>
    first | exact unsigned_roundWithAccuracy | trivial

/-- A quotient of zero has the value zero, if any. -/
theorem value_div_zero : value (repacked (UnpackedFloat.div Format.binary64 (.zero s) v)) = 0 := by
  cases v <;> simp [UnpackedFloat.div, value]

/-! ## Sums and differences of amounts -/

/-- Moving a mantissa to a smaller exponent keeps its units. -/
theorem units_decreaseExponent (hf : -1074 ≤ f) (hle : f ≤ e) :
    units (decreaseExponent m e f).1 f = units m e := by
  simp only [decreaseExponent, units]
  rw [Nat.shiftLeft_eq, mul_assoc, ← pow_add]
  congr 2
  omega

/-- Units at the same exponent add up. -/
theorem units_add : units (m + n) e = units m e + units n e := Nat.add_mul _ _ _

/-- At one exponent more units have a mantissa no smaller. -/
theorem le_of_units_le (h : units m e ≤ units n e) : m ≤ n :=
  Nat.le_of_mul_le_mul_right h (Nat.two_pow_pos _)

/-- A positive integer is brought into the format by rounding it. -/
theorem normalize_natCast (hm : 0 < m) :
    UnpackedFloat.normalize Format.binary64 (m : Int) e .positive =
      UnpackedFloat.round Format.binary64 .positive m e := by
  have hpos : (0 : Int) < m := Int.ofNat_lt.2 hm
  unfold UnpackedFloat.normalize
  rw [compare_gt_iff_gt.2 hpos]
  rfl

/-- A whole number of units at an exponent has the nearest units. -/
theorem amountsTo_repacked_normalize (he : -1074 ≤ e) :
    AmountsTo (Binary64.repacked (UnpackedFloat.normalize Format.binary64 (m : Int) e .positive))
      (nearest (units m e)) := by
  rcases m.eq_zero_or_pos with rfl | hm
  · have hnone : units 0 e = 0 := Nat.zero_mul _
    rw [hnone]
    exact amountsTo_zero.repacked trivial
  · rw [normalize_natCast hm]
    exact amountsTo_repacked_round hm he

/-- Finite amounts are taken from each other exactly, and then rounded. -/
theorem exists_sub_finite (hm : 0 < m) (hn : 0 < n) (he : -1074 ≤ e) (hf : -1074 ≤ f)
    (hle : units m e ≤ units n f) :
    ∃ k g, -1074 ≤ g ∧ units k g = units n f - units m e ∧
      UnpackedFloat.sub Format.binary64 (.finite .positive n f hn) (.finite .positive m e hm) =
        UnpackedFloat.normalize Format.binary64 (k : Nat) g .positive := by
  have hm' := units_decreaseExponent (m := m) (e := e) (f := min f e) (by omega) (by omega)
  have hn' := units_decreaseExponent (m := n) (e := f) (f := min f e) (by omega) (by omega)
  rw [← hm', ← hn'] at hle
  refine ⟨(decreaseExponent n f (min f e)).1 - (decreaseExponent m e (min f e)).1, min f e,
    by omega, ?_, ?_⟩
  · rw [← hm', ← hn']
    exact Nat.sub_mul _ _ _
  · rw [Int.ofNat_sub (le_of_units_le hle)]
    rfl

/-- Finite amounts are added exactly, and then rounded. -/
theorem exists_add_finite (hm : 0 < m) (hn : 0 < n) (he : -1074 ≤ e) (hf : -1074 ≤ f) :
    ∃ k g, -1074 ≤ g ∧ units k g = units m e + units n f ∧
      UnpackedFloat.add Format.binary64 (.finite .positive m e hm) (.finite .positive n f hn) =
        UnpackedFloat.normalize Format.binary64 (k : Nat) g .positive := by
  refine ⟨(decreaseExponent m e (min e f)).1 + (decreaseExponent n f (min e f)).1, min e f,
    by omega, ?_, rfl⟩
  rw [units_add, units_decreaseExponent (by omega) (by omega),
    units_decreaseExponent (by omega) (by omega)]

/-- **The sum of two amounts has the units nearest to the sum of theirs.** -/
theorem AmountsTo.add (hu : Fits u) (hv : Fits v) (ha : AmountsTo u a) (hb : AmountsTo v b) :
    AmountsTo (Binary64.repacked (UnpackedFloat.add Format.binary64 u v)) (nearest (a + b)) := by
  rcases ha.cases with ⟨rfl, rfl⟩ | ⟨s, rfl, rfl⟩ | ⟨m, e, hm, rfl, rfl⟩
  · have hsum : UnpackedFloat.add Format.binary64 (.infinity .positive) v =
        .infinity .positive := by
      rcases hb.cases with ⟨rfl, -⟩ | ⟨t, rfl, -⟩ | ⟨n, f, hn, rfl, -⟩ <;> rfl
    rw [hsum, nearest_limit_add, ← ha.nearest_eq hu]
    exact ha.repacked hu
  · rw [zero_add]
    rcases hb.cases with ⟨rfl, -⟩ | ⟨t, rfl, rfl⟩ | ⟨n, f, hn, rfl, -⟩
    · exact hb.repacked hv
    · simp only [UnpackedFloat.add]
      split_ifs <;> exact amountsTo_zero.repacked trivial
    · exact hb.repacked hv
  · rcases hb.cases with ⟨rfl, rfl⟩ | ⟨t, rfl, rfl⟩ | ⟨n, f, hn, rfl, rfl⟩
    · rw [add_comm, nearest_limit_add, ← hb.nearest_eq hv]
      exact hb.repacked hv
    · exact ha.repacked hu
    · obtain ⟨k, g, hg, hunits, hsum⟩ := exists_add_finite hm hn hu.1.least hv.1.least
      rw [hsum, ← hunits]
      exact amountsTo_repacked_normalize hg

/-- **The difference of a finite amount and a smaller one has the units nearest to the difference of
theirs.** -/
theorem AmountsTo.sub (hu : Fits u) (hv : Fits v) (ha : AmountsTo u a) (hb : AmountsTo v b)
    (hle : a ≤ b) (hless : b < limit) :
    AmountsTo (Binary64.repacked (UnpackedFloat.sub Format.binary64 v u)) (nearest (b - a)) := by
  rcases ha.cases with ⟨-, rfl⟩ | ⟨s, rfl, rfl⟩ | ⟨m, e, hm, rfl, rfl⟩
  · omega
  · rw [Nat.sub_zero]
    rcases hb.cases with ⟨-, rfl⟩ | ⟨t, rfl, rfl⟩ | ⟨n, f, hn, rfl, -⟩
    · omega
    · simp only [UnpackedFloat.sub]
      split_ifs <;> exact amountsTo_zero.repacked trivial
    · exact hb.repacked hv
  · rcases hb.cases with ⟨-, rfl⟩ | ⟨t, rfl, rfl⟩ | ⟨n, f, hn, rfl, rfl⟩
    · omega
    · have hpos := units_pos (e := e) hm
      omega
    · obtain ⟨k, g, hg, hunits, hsub⟩ := exists_sub_finite hm hn hu.1.least hv.1.least hle
      rw [hsub, ← hunits]
      exact amountsTo_repacked_normalize hg

/-- **The difference of an amount and a smaller one is not negative.** -/
theorem AmountsTo.zero_le_value_sub (hu : Fits u) (hv : Fits v) (ha : AmountsTo u a)
    (hb : AmountsTo v b) (hle : a ≤ b) :
    0 ≤ value (Binary64.repacked (UnpackedFloat.sub Format.binary64 v u)) := by
  by_cases hless : b < limit
  · rw [(ha.sub hu hv hb hle hless).value_eq]
    exact Int.natCast_nonneg _
  · rcases hb.cases with ⟨rfl, -⟩ | ⟨t, -, rfl⟩ | ⟨n, f, hn, rfl, rfl⟩
    · apply (Unsigned.repacked _).zero_le_value
      rcases ha.cases with ⟨rfl, -⟩ | ⟨s, rfl, -⟩ | ⟨m, e, hm, rfl, -⟩ <;> trivial
    · exact absurd limit_pos hless
    · exact absurd (units_lt_limit hv.1.lt hv.1.least hv.2) hless

/-- It does not matter which of two quantities is added to the other. -/
theorem sum_comm (u v : UnpackedFloat) :
    UnpackedFloat.add Format.binary64 u v = UnpackedFloat.add Format.binary64 v u := by
  cases u with
  | notANumber => cases v <;> rfl
  | infinity s =>
      cases v with
      | infinity t => cases s <;> cases t <;> rfl
      | _ => rfl
  | zero s =>
      cases v with
      | zero t => cases s <;> cases t <;> rfl
      | _ => rfl
  | finite s m e hm =>
      cases v with
      | finite t n f hn =>
          simp only [UnpackedFloat.add]
          rw [Int.add_comm, Int.min_comm]
      | _ => rfl

/-- A sum of an unsigned amount and an amount is unsigned. -/
theorem Unsigned.add (hu : Unsigned u) (hv : AmountsTo v b) :
    Unsigned (UnpackedFloat.add Format.binary64 u v) := by
  rcases hv.unsigned_or_zero with hv | rfl
  · cases u <;> cases v <;> simp only [Unsigned] at hu hv <;> subst_vars <;>
      first | trivial | exact unsigned_normalize (Int.natCast_nonneg _)
  · cases u <;> simp only [Unsigned] at hu <;> subst_vars <;> trivial

/-- The difference of a finite unsigned amount and a smaller amount is unsigned. -/
theorem Unsigned.sub (hu : Fits u) (hv : Fits v) (hunsigned : Unsigned v) (ha : AmountsTo u a)
    (hb : AmountsTo v b) (hle : a ≤ b) (hless : b < limit) :
    Unsigned (UnpackedFloat.sub Format.binary64 v u) := by
  rcases ha.cases with ⟨-, rfl⟩ | ⟨s, rfl, rfl⟩ | ⟨m, e, hm, rfl, rfl⟩
  · omega
  · cases v with
    | infinity t => exact hunsigned
    | notANumber => trivial
    | zero t =>
        obtain rfl : t = .positive := hunsigned
        simp only [UnpackedFloat.sub]
        split_ifs <;> exact (rfl : Sign.positive = .positive)
    | finite t n f hn => exact hunsigned
  · rcases hb.cases with ⟨-, rfl⟩ | ⟨t, rfl, rfl⟩ | ⟨n, f, hn, rfl, rfl⟩
    · omega
    · have hpos := units_pos (e := e) hm
      omega
    · obtain ⟨k, g, -, -, hsub⟩ := exists_sub_finite hm hn hu.1.least hv.1.least hle
      rw [hsub]
      exact unsigned_normalize (Int.natCast_nonneg k)

/-- A sum that is a number has terms that are numbers. -/
theorem ne_of_add_ne (h : UnpackedFloat.add Format.binary64 u v ≠ .notANumber) :
    u ≠ .notANumber ∧ v ≠ .notANumber := by
  refine ⟨?_, ?_⟩ <;> rintro rfl
  · exact h rfl
  · cases u <;> exact h rfl

/-- A quotient that is a number has a dividend that is a number. -/
theorem ne_of_div_ne (h : UnpackedFloat.div Format.binary64 u v ≠ .notANumber) :
    u ≠ .notANumber := by
  rintro rfl
  exact h rfl

/-- What is a number once packed was one before. -/
theorem ne_of_repacked_ne (h : repacked u ≠ .notANumber) : u ≠ .notANumber := by
  rintro rfl
  exact h repacked_notANumber

/-! ## Whole numbers -/

/-- What is rounded is a number. -/
theorem roundWithAccuracy_ne {accuracy : Accuracy} :
    roundWithAccuracy Format.binary64 s m e accuracy ≠ .notANumber := by
  unfold roundWithAccuracy
  simp only
  split_ifs <;> nofun

/-- An integer brought into the format is a number. -/
theorem normalize_ne {i : Int} :
    UnpackedFloat.normalize Format.binary64 i e .positive ≠ .notANumber := by
  unfold UnpackedFloat.normalize
  split
  · exact roundWithAccuracy_ne
  · nofun
  · exact roundWithAccuracy_ne

/-- A number times a finite one other than zero is a number. -/
theorem mul_finite_ne {hm : 0 < m} (hu : u ≠ .notANumber) :
    UnpackedFloat.mul Format.binary64 u (.finite s m e hm) ≠ .notANumber := by
  cases u with
  | notANumber => exact absurd rfl hu
  | finite s m e hm => exact roundWithAccuracy_ne
  | _ => nofun

/-- A decimal is converted to a number without a minus sign. -/
theorem ofScientific_spec (n : Nat) (e : Int) :
    UnpackedFloat.ofScientific Format.binary64 n e ≠ .notANumber ∧
      Unsigned (UnpackedFloat.ofScientific Format.binary64 n e) := by
  unfold UnpackedFloat.ofScientific
  split_ifs
  · exact ⟨nofun, rfl⟩
  · exact ⟨nofun, rfl⟩
  · exact ⟨nofun, rfl⟩
  · exact ⟨mul_finite_ne nofun, Unsigned.mul rfl rfl⟩
  · exact ⟨roundWithAccuracy_ne, Unsigned.div rfl rfl⟩

end BusNetwork.Binary64
