import BusNetwork.Proofs.Quantity.Binary64

/-!
# Whole numbers: sums and differences that are exact

What is computed is rounded, unless 53 bits are enough for it. **So whole numbers below `2 ^ 53` are
written, added and taken from each other exactly** (`IsWhole.ofNat`, `IsWhole.add`, `IsWhole.sub`).
A result is determined by its value where it has no minus sign (`IsWhole.eq_of_unsigned`).
-/

namespace BusNetwork.Binary64

open Float.Model (Format UnpackedFloat)
open Float.Model.UnpackedFloat

variable {m n : Nat} {e : Int} {x y : Float}

/-- A floating-point number is a whole number. -/
def IsWhole (x : Float) (n : Nat) : Prop := AmountsTo (unpacked x) (units n 0)

/-- A whole number of at most 53 bits stays below the limit. -/
theorem units_lt_limit_of_lt (h : n < 2 ^ 53) : units n 0 < limit :=
  units_lt_limit h (by omega) (by omega)

/-- A whole number below `2 ^ 53` is not rounded. -/
theorem nearest_units_of_lt (h : n < 2 ^ 53) : nearest (units n 0) = units n 0 := by
  have hfits : rounded (units n 0) = units n 0 := rounded_of_fits h
  rw [nearest, hfits, Nat.min_eq_right (units_lt_limit_of_lt h).le]

/-- Multiplying by one, written with 53 bits, changes no amount of 53 bits. -/
theorem amountsTo_mul_one {hm : 0 < m} (hfits : m < 2 ^ 53) (he : -1022 ≤ e) (he' : e ≤ 971) :
    AmountsTo (repacked (UnpackedFloat.mul Format.binary64 (.finite .positive m e hm)
      (.finite .positive (2 ^ 52) (-52) (by decide)))) (units m e) := by
  have hmul : UnpackedFloat.mul Format.binary64 (.finite .positive m e hm)
      (.finite .positive (2 ^ 52) (-52) (by decide)) =
        roundWithAccuracy Format.binary64 .positive (m * 2 ^ 52) (e + -52) .exact := rfl
  have hpos : 0 < m * 2 ^ 52 := Nat.mul_pos hm (Nat.two_pow_pos 52)
  obtain ⟨m', e', hm', hround, hcanonical, hunits⟩ := exists_roundWithAccuracy_eq
    (s := .positive) hpos (e := e + -52) (by omega) (by rw [log2_mul_two_pow hm]; omega)
  have hsame : units (m * 2 ^ 52) (e + -52) = units m e := by
    unfold units
    rw [mul_assoc, ← pow_add]
    congr 2
    omega
  have hrounded : rounded (units m e) = units m e := rounded_of_fits hfits
  have hless : units m e < limit := units_lt_limit hfits (by omega) he'
  have hamount : AmountsTo (repacked (.finite .positive m' e' hm')) (min limit (units m' e')) :=
    amountsTo_repacked_finite hcanonical
  rw [hunits, hsame, hrounded, Nat.min_eq_right hless.le] at hamount
  rw [hmul, hround]
  exact hamount

namespace IsWhole

/-- The quantity zero is the whole number zero. -/
theorem zero : IsWhole Quantity.zero 0 := by
  have hnone : units 0 0 = 0 := Nat.zero_mul _
  rw [IsWhole, hnone]
  exact amountsTo_zero

/-- A whole number below `2 ^ 53` is written exactly. -/
theorem ofNat (h : n < 2 ^ 53) : IsWhole (Quantity.ofNat n) n := by
  have hone : unpacked (Float.ofBits 0x3FF0000000000000) =
      .finite .positive (2 ^ 52) (-52) (by decide) := rfl
  have hread : AmountsTo (unpacked n.toUInt64.toFloat) (units n 0) := by
    have hn : unpacked n.toUInt64.toFloat = repacked (UnpackedFloat.normalize Format.binary64
        (n.toUInt64.toNat : Int) 0 .positive) := rfl
    have hsmall : n.toUInt64.toNat = n := by
      rw [UInt64.toNat_ofNat']
      omega
    rw [hn, hsmall, ← nearest_units_of_lt h]
    exact amountsTo_repacked_normalize (by omega)
  have hfits := fits_unpacked n.toUInt64.toFloat
  rw [IsWhole, ofNat_of_lt h, unpacked_mul, hone]
  rcases hread.cases with ⟨-, hlimit⟩ | ⟨s, hzero, hnone⟩ | ⟨m, e, hm, hfinite, hunits⟩
  · exact absurd hlimit (units_lt_limit_of_lt h).ne
  · have hproduct : UnpackedFloat.mul Format.binary64 (.zero s)
        (.finite .positive (2 ^ 52) (-52) (by decide)) = .zero (s * .positive) := rfl
    rw [hzero, hnone, hproduct, repacked_zero]
    exact amountsTo_zero
  · rw [hfinite] at hfits ⊢
    have hn : 0 < n := by
      by_contra hnone
      have hpos := units_pos (e := e) hm
      rw [← hunits, Nat.eq_zero_of_not_pos hnone, units, Nat.zero_mul] at hpos
      exact Nat.lt_irrefl 0 hpos
    -- a mantissa of 53 bits makes up a whole number at no smaller exponent than one has
    have hcanonical : Canonical (2 ^ 52) (-52) := ⟨by norm_num, by norm_num, .inl le_rfl⟩
    have hleast : -52 ≤ e := by
      by_contra hlt
      have hless := units_lt_units hfits.1.lt hfits.1.least hcanonical (by omega)
      have hself : units (2 ^ 52) (-52) = units 1 0 := by
        unfold units
        rw [← pow_add, Nat.one_mul]
        congr 1
      have hle : units 1 0 ≤ units n 0 := Nat.mul_le_mul_right _ hn
      omega
    rw [hunits]
    exact amountsTo_mul_one hfits.1.lt (by omega) hfits.2

/-- Whole numbers are added exactly. -/
theorem add (hx : IsWhole x m) (hy : IsWhole y n) (h : m + n < 2 ^ 53) :
    IsWhole (x + y) (m + n) := by
  have hsum := amountsTo_add hx hy
  rw [← units_add, nearest_units_of_lt h] at hsum
  exact hsum

/-- A whole number is taken from a larger one exactly. -/
theorem sub (hx : IsWhole x m) (hy : IsWhole y n) (hle : m ≤ n) (h : n < 2 ^ 53) :
    IsWhole (y - x) (n - m) := by
  have hdifference : units n 0 - units m 0 = units (n - m) 0 := (Nat.sub_mul n m _).symm
  have hsub := AmountsTo.sub (fits_unpacked x) (fits_unpacked y) hx hy (Nat.mul_le_mul_right _ hle)
    (units_lt_limit_of_lt h)
  rw [hdifference, nearest_units_of_lt (by omega)] at hsub
  exact hsub

/-- A sum with a whole number has no minus sign if the other term has none. -/
theorem unsigned_add (hx : Unsigned (unpacked x)) (hy : IsWhole y n) :
    Unsigned (unpacked (x + y)) := by
  rw [unpacked_add]
  exact (hx.add hy).repacked

/-- A smaller whole number taken from a larger one leaves no minus sign. -/
theorem unsigned_sub (hx : IsWhole x m) (hy : IsWhole y n) (hunsigned : Unsigned (unpacked y))
    (hle : m ≤ n) (h : n < 2 ^ 53) : Unsigned (unpacked (y - x)) := by
  rw [unpacked_sub]
  exact (hunsigned.sub (fits_unpacked x) (fits_unpacked y) hx hy (Nat.mul_le_mul_right _ hle)
    (units_lt_limit_of_lt h)).repacked

/-- Whole numbers of the same value that have no minus sign are the same. -/
theorem eq_of_unsigned (hx : IsWhole x n) (hy : IsWhole y n) (hx' : Unsigned (unpacked x))
    (hy' : Unsigned (unpacked y)) : x = y := by
  have hvalue : (x == y) = true :=
    beq_iff.2 ⟨hx.isNumber, hy.isNumber, hx.value_eq.trans hy.value_eq.symm⟩
  have hnegative : ¬ Unsigned (unpacked (-0)) := by
    have hzero : unpacked (-0) = .zero .negative := by rfl
    rw [hzero]
    nofun
  obtain ⟨-, -, heq | ⟨-, rfl⟩ | ⟨rfl, -⟩⟩ := Float.beq_iff_ne_nan_and_eq.1 hvalue
  · exact heq
  · exact absurd hy' hnegative
  · exact absurd hx' hnegative

end IsWhole

end BusNetwork.Binary64
