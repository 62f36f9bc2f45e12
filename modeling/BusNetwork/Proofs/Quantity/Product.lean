import BusNetwork.Proofs.Quantity.Quotient

/-!
# Products of amounts

A product in 64-bit floating point is formed exactly and rounded once, so it is rounded **as the
quotient that it is in units** (`mul_finite_cases`): the units of a product are the product of the
units over those of one, which are `2 ^ 1074`.

No bit is missing where it is rounded. At exponents that add up to no less than the least one, one
of the two mantissas has all its 53 bits.
-/

namespace BusNetwork.Binary64

open Float.Model (Format UnpackedFloat)
open Float.Model.UnpackedFloat

variable {a m n : Nat} {e f : Int} {s : Sign} {u : UnpackedFloat}

/-- The exponent of an exact product is not so large that bits are missing. -/
theorem add_le_targetExponent (hm : 0 < m) (hn : 0 < n) (hu : Canonical m e) (hv : Canonical n f) :
    e + f ≤ max (((m * n).log2 : Int) + (e + f) - 52) (-1074) := by
  by_cases hless : e + f ≤ -1074
  · exact le_max_of_le_right hless
  · have hfull : 2 ^ 52 ≤ m * n := by
      rcases hu.full with hm' | he
      · exact hm'.trans (Nat.le_mul_of_pos_right m hn)
      · have hleast := hv.least
        have hn' : 2 ^ 52 ≤ n := hv.full.resolve_right (by omega)
        exact hn'.trans (Nat.le_mul_of_pos_left n hm)
    have hlog : 52 ≤ (m * n).log2 := (Nat.le_log2 (Nat.mul_pos hm hn).ne').2 hfull
    omega

/-- **Finite amounts are multiplied exactly, and then rounded.** -/
theorem mul_finite_cases (hm : 0 < m) (hn : 0 < n) (hu : Canonical m e) (hv : Canonical n f) :
    (roundedRatio (units m e * units n f) (2 ^ 1074) = 0 ∧
      UnpackedFloat.mul Format.binary64 (.finite .positive m e hm) (.finite .positive n f hn) =
        .zero .positive) ∨
    ∃ m' e' hm', UnpackedFloat.mul Format.binary64 (.finite .positive m e hm)
        (.finite .positive n f hn) = .finite .positive m' e' hm' ∧
      Canonical m' e' ∧ units m' e' = roundedRatio (units m e * units n f) (2 ^ 1074) := by
  have hmul : UnpackedFloat.mul Format.binary64 (.finite .positive m e hm)
      (.finite .positive n f hn) =
        roundWithAccuracy Format.binary64 .positive (m * n / 1) (e + f) .exact := by
    rw [Nat.div_one]
    rfl
  have haccuracy : ExtendedMantissa.ofMantissaAndAccuracy (m * n / 1) .exact =
      extended (m * n) 1 := by
    rw [extended_one, Nat.div_one]
    rfl
  have hle : e + f ≤ max (((m * n / 1).log2 : Int) + (e + f) - 52) (-1074) := by
    rw [Nat.div_one]
    exact add_le_targetExponent hm hn hu hv
  have hunit : 0 < 2 ^ 1074 := pow_pos Nat.two_pos 1074
  have hleast := hu.least
  have hleast' := hv.least
  rw [hmul]
  refine roundWithAccuracy_ratio_cases Nat.one_pos hunit haccuracy hle ?_
  intro j k hk
  have hexponent : (e + 1074).toNat + (f + 1074).toNat + j = 1074 + k := by omega
  unfold units
  calc
    m * 2 ^ (e + 1074).toNat * (n * 2 ^ (f + 1074).toNat) * (1 * 2 ^ j) =
        m * n * 2 ^ ((e + 1074).toNat + (f + 1074).toNat + j) := by ring
    _ = m * n * 2 ^ (1074 + k) := by rw [hexponent]
    _ = m * n * (2 ^ 1074 * 2 ^ k) := by rw [pow_add]

/-- **The product of a finite amount and a finite number has the units nearest to the exact
product.** -/
theorem AmountsTo.mul (hu : Fits u) (ha : AmountsTo u a) (hless : a < limit) {hn : 0 < n}
    (hv : Fits (.finite .positive n f hn)) :
    AmountsTo
      (Binary64.repacked (UnpackedFloat.mul Format.binary64 u (.finite .positive n f hn)))
      (min limit (roundedRatio (a * units n f) (2 ^ 1074))) := by
  rcases ha.cases with ⟨-, rfl⟩ | ⟨s, rfl, rfl⟩ | ⟨m, e, hm, rfl, rfl⟩
  · exact absurd hless (lt_irrefl _)
  · rw [Nat.zero_mul, roundedRatio_zero (Nat.two_pow_pos 1074), Nat.min_zero]
    have hzero : UnpackedFloat.mul Format.binary64 (.zero s) (.finite .positive n f hn) =
        .zero (s * .positive) := rfl
    rw [hzero, repacked_zero]
    exact amountsTo_zero
  · rcases mul_finite_cases hm hn hu.1 hv.1 with
      ⟨hzero, hmul⟩ | ⟨m', e', hm', hmul, hcanonical, hunits⟩
    · rw [hmul, hzero, Nat.min_zero, repacked_zero]
      exact amountsTo_zero
    · rw [hmul, ← hunits]
      exact amountsTo_repacked_finite hcanonical

/-- A whole number is written in the nearest units. -/
theorem amountsTo_ofScientific (n : Nat) :
    AmountsTo (Binary64.repacked (UnpackedFloat.ofScientific Format.binary64 n 0))
      (nearest (units n 0)) := by
  unfold UnpackedFloat.ofScientific
  split_ifs with hzero hlarge hsmall
  · have hnone : units n 0 = 0 := by rw [hzero, units, Nat.zero_mul]
    rw [hnone]
    exact amountsTo_zero.repacked trivial
  · exact absurd hlarge (by decide)
  · have hpow : (0 : Int) < 2 ^ Format.binary64.exponentBits := by decide
    omega
  · have hpos : 0 < n * 2 ^ 53 := Nat.mul_pos (Nat.pos_of_ne_zero hzero) (Nat.two_pow_pos 53)
    have hmul : roundWithAccuracy Format.binary64 .positive (n <<< 53 * 10 ^ 0) (-53 + 0) .exact =
        roundWithAccuracy Format.binary64 .positive (n * 2 ^ 53) (-53) .exact := by
      rw [Nat.shiftLeft_eq, pow_zero, Nat.mul_one, add_zero]
    have hsame : units (n * 2 ^ 53) (-53) = units n 0 := by
      unfold units
      rw [mul_assoc, ← pow_add]
      congr 2
    obtain ⟨m', e', hm', hround, hcanonical, hunits⟩ :=
      exists_roundWithAccuracy_eq (s := .positive) hpos (e := -53) (by omega) (by
        rw [log2_mul_two_pow (Nat.pos_of_ne_zero hzero)]
        omega)
    rw [hsame] at hunits
    have hamount : AmountsTo (Binary64.repacked (.finite .positive m' e' hm'))
        (nearest (units n 0)) := by
      unfold nearest
      rw [← hunits]
      exact amountsTo_repacked_finite hcanonical
    rw [← hround, ← hmul] at hamount
    exact hamount
  · omega

end BusNetwork.Binary64
