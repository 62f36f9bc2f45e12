import BusNetwork.Proofs.Quantity.Operation

/-!
# Quotients of amounts

A quotient in 64-bit floating point is computed to more bits than it keeps, with a round bit and a
sticky bit for the rest, and rounded once. So **what is rounded is the exact quotient**
(`exists_div_finite`), and it is rounded as sums are: the last `spareBits` bits are dropped to the
nearest.

`AmountsTo.div`, `roundedRatio_mono` — a larger amount over the same divisor has no smaller
quotient.
-/

namespace BusNetwork.Binary64

open Float.Model (Format UnpackedFloat totalExponent)
open Float.Model.UnpackedFloat

variable {a b c d m n k : Nat} {e f : Int} {s : Sign} {u : UnpackedFloat}

/-! ## Quotients of 53 bits -/

/-- A quotient without the bits beyond 53 of its whole part, which are dropped to the nearest. -/
def roundedRatio (n d : Nat) : Nat :=
  nearestRatio n (d * 2 ^ spareBits (n / d)) * 2 ^ spareBits (n / d)

/-- The spare bits are known by the number of bits that they leave. -/
theorem spareBits_eq (hlt : n < 2 ^ (k + 53)) (hle : k = 0 ∨ 2 ^ (k + 52) ≤ n) :
    spareBits n = k := by
  have hupper := lt_two_pow_spareBits (n := n)
  rcases lt_trichotomy (spareBits n) k with hless | heq | hmore
  · have hpow : 2 ^ (spareBits n + 53) ≤ 2 ^ (k + 52) :=
      Nat.pow_le_pow_right Nat.two_pos (by omega)
    have hlower := hle.resolve_left (by omega)
    omega
  · exact heq
  · have hpow : 2 ^ (k + 53) ≤ 2 ^ (spareBits n + 52) :=
      Nat.pow_le_pow_right Nat.two_pos (by omega)
    have hlower := two_pow_spareBits_le (n := n) (by omega)
    omega

/-- Bits are dropped from a quotient until it has 53 of them. -/
theorem roundedRatio_eq (hd : 0 < d) (hlt : n < 2 ^ 53 * (d * 2 ^ k))
    (hle : k = 0 ∨ 2 ^ 52 * (d * 2 ^ k) ≤ n) :
    roundedRatio n d = nearestRatio n (d * 2 ^ k) * 2 ^ k := by
  have hspare : spareBits (n / d) = k := by
    apply spareBits_eq
    · rw [Nat.div_lt_iff_lt_mul hd]
      calc
        n < 2 ^ 53 * (d * 2 ^ k) := hlt
        _ = 2 ^ (k + 53) * d := by ring
    · refine hle.imp_right fun hle => (Nat.le_div_iff_mul_le hd).2 ?_
      calc
        2 ^ (k + 52) * d = 2 ^ 52 * (d * 2 ^ k) := by ring
        _ ≤ n := hle
  unfold roundedRatio
  rw [hspare]

/-- A quotient without its spare bits has at most 53 bits. -/
theorem lt_mul_spareBits (hd : 0 < d) : n < 2 ^ 53 * (d * 2 ^ spareBits (n / d)) := by
  have hlt : n / d < 2 ^ (spareBits (n / d) + 53) := lt_two_pow_spareBits
  calc
    n < 2 ^ (spareBits (n / d) + 53) * d := (Nat.div_lt_iff_lt_mul hd).1 hlt
    _ = 2 ^ 53 * (d * 2 ^ spareBits (n / d)) := by ring

/-- A quotient with spare bits keeps no fewer than 53 bits without them. -/
theorem mul_spareBits_le (hd : 0 < d) (h : 0 < spareBits (n / d)) :
    2 ^ 52 * (d * 2 ^ spareBits (n / d)) ≤ n := by
  have hle : 2 ^ (spareBits (n / d) + 52) ≤ n / d := two_pow_spareBits_le h
  calc
    2 ^ 52 * (d * 2 ^ spareBits (n / d)) = 2 ^ (spareBits (n / d) + 52) * d := by ring
    _ ≤ n := (Nat.le_div_iff_mul_le hd).1 hle

/-- A larger number has no smaller rounded quotient. -/
theorem roundedRatio_mono (hd : 0 < d) (h : m ≤ n) : roundedRatio m d ≤ roundedRatio n d := by
  have hpos : ∀ k, 0 < d * 2 ^ k := fun k => Nat.mul_pos hd (Nat.two_pow_pos k)
  have hdiv : m / d ≤ n / d := Nat.div_le_div_right h
  unfold roundedRatio
  rcases (spareBits_mono hdiv).eq_or_lt with hspare | hspare
  · rw [hspare]
    exact Nat.mul_le_mul_right _ (nearestRatio_mono h)
  · -- A power of two lies between the two.
    calc
      nearestRatio m (d * 2 ^ spareBits (m / d)) * 2 ^ spareBits (m / d) ≤
          2 ^ 53 * 2 ^ spareBits (m / d) :=
        Nat.mul_le_mul_right _ (nearestRatio_le_of_le (hpos _) (lt_mul_spareBits hd).le)
      _ = 2 ^ 52 * 2 ^ (spareBits (m / d) + 1) := by ring
      _ ≤ 2 ^ 52 * 2 ^ spareBits (n / d) :=
        Nat.mul_le_mul_left _ (Nat.pow_le_pow_right Nat.two_pos hspare)
      _ ≤ nearestRatio n (d * 2 ^ spareBits (n / d)) * 2 ^ spareBits (n / d) :=
        Nat.mul_le_mul_right _ (le_nearestRatio (hpos _) (mul_spareBits_le hd (by omega)))

/-! ## Equal quotients -/

section

variable {n' d' : Nat}

/-- Only the quotient counts, not the unit that both numbers are taken in. -/
theorem roundedRatio_mul (hc : 0 < c) : roundedRatio (n * c) (d * c) = roundedRatio n d := by
  have hdiv : n * c / (d * c) = n / d := Nat.mul_div_mul_right _ _ hc
  have hunit : d * c * 2 ^ spareBits (n / d) = d * 2 ^ spareBits (n / d) * c := by ring
  unfold roundedRatio
  rw [hdiv, hunit, nearestRatio_mul hc]

/-- A larger quotient, by cross multiplication, is rounded to no smaller one. -/
theorem roundedRatio_le_of_cross (hd : 0 < d) (hd' : 0 < d') (h : n * d' ≤ n' * d) :
    roundedRatio n d ≤ roundedRatio n' d' := by
  calc
    roundedRatio n d = roundedRatio (n * d') (d * d') := (roundedRatio_mul hd').symm
    _ ≤ roundedRatio (n' * d) (d * d') := roundedRatio_mono (Nat.mul_pos hd hd') h
    _ = roundedRatio (n' * d) (d' * d) := by rw [mul_comm d]
    _ = roundedRatio n' d' := roundedRatio_mul hd

/-- Equal quotients have one nearest number. -/
theorem nearestRatio_congr (hd : 0 < d) (hd' : 0 < d') (h : n * d' = n' * d) :
    nearestRatio n d = nearestRatio n' d' := by
  rw [← nearestRatio_mul hd', ← nearestRatio_mul (n := n') hd, h, mul_comm d]

/-- A bound from above on a fraction is one on each equal fraction. -/
theorem lt_mul_of_cross (hd : 0 < d) (h : n * d' = n' * d) (hlt : n' < c * d') : n < c * d := by
  refine Nat.lt_of_mul_lt_mul_right (a := d') ?_
  calc
    n * d' = n' * d := h
    _ < c * d' * d := Nat.mul_lt_mul_of_pos_right hlt hd
    _ = c * d * d' := by ring

/-- A bound from below on a fraction is one on each equal fraction. -/
theorem mul_le_of_cross (hd' : 0 < d') (h : n * d' = n' * d) (hle : c * d' ≤ n') : c * d ≤ n := by
  refine Nat.le_of_mul_le_mul_right ?_ hd'
  calc
    c * d * d' = c * d' * d := by ring
    _ ≤ n' * d := Nat.mul_le_mul_right d hle
    _ = n * d' := h.symm

end

/-! ## Dividing -/

/-- The accuracy of a whole quotient tells the bits that follow it. -/
theorem ofMantissaAndAccuracy_eq (hd : 0 < d) :
    ExtendedMantissa.ofMantissaAndAccuracy (n / d) (accuracyOfFraction (n % d) d) =
      extended n d := by
  have hlt : n % d < d := Nat.mod_lt _ hd
  rw [extended_eq hd]
  unfold accuracyOfFraction
  split_ifs with hzero
  · simp [hzero, ExtendedMantissa.ofMantissaAndAccuracy, hd.ne']
  · rcases lt_trichotomy (2 * (n % d)) d with hless | hequal | hmore
    · have hround : ¬ d ≤ 2 * (n % d) := by omega
      have hrest : (2 * (n % d) % d != 0) = true := by
        rw [Nat.mod_eq_of_lt hless, bne_iff_ne]
        omega
      rw [compare_lt_iff_lt.2 hless, hrest, decide_eq_false hround]
      rfl
    · rw [compare_eq_iff_eq.2 hequal, hequal, decide_eq_true le_rfl, Nat.mod_self]
      rfl
    · have hrest : (2 * (n % d) % d != 0) = true := by
        rw [Nat.mod_eq_sub_mod hmore.le, Nat.mod_eq_of_lt (by omega), bne_iff_ne]
        omega
      rw [compare_gt_iff_gt.2 hmore, hrest, decide_eq_true hmore.le]
      rfl

/-- The exponent that a quotient is computed at is not so large that bits are missing. -/
theorem two_pow_le_div {t : Int} (hm : 0 < m) (hn : 0 < n)
    (ht : t ≤ (m.log2 : Int) + e - (n.log2 + f) - 53) :
    2 ^ 52 ≤ m * 2 ^ (e - f - t).toNat / n := by
  rw [Nat.le_div_iff_mul_le hn]
  calc
    2 ^ 52 * n ≤ 2 ^ 52 * 2 ^ (n.log2 + 1) := Nat.mul_le_mul_left _ Nat.lt_log2_self.le
    _ = 2 ^ (n.log2 + 53) := by ring
    _ ≤ 2 ^ (m.log2 + (e - f - t).toNat) := Nat.pow_le_pow_right Nat.two_pos (by omega)
    _ = 2 ^ m.log2 * 2 ^ (e - f - t).toNat := pow_add _ _ _
    _ ≤ m * 2 ^ (e - f - t).toNat := Nat.mul_le_mul_right _ (Nat.log2_self_le hm.ne')

/-- A quotient moved to its exponent has at most 53 bits, and no fewer unless the exponent is the
least. -/
theorem log2_bounds {t : Int} (hd : 0 < d) {j : Nat}
    (hj : t + j = max (((n / d).log2 : Int) + t - 52) (-1074)) :
    n < 2 ^ 53 * (d * 2 ^ j) ∧ (t + j = -1074 ∨ 2 ^ 52 * (d * 2 ^ j) ≤ n) := by
  constructor
  · have hlt : n / d < 2 ^ (j + 53) :=
      Nat.lt_log2_self.trans_le (Nat.pow_le_pow_right Nat.two_pos (by omega))
    calc
      n < 2 ^ (j + 53) * d := (Nat.div_lt_iff_lt_mul hd).1 hlt
      _ = 2 ^ 53 * (d * 2 ^ j) := by ring
  · by_cases hleast : t + j = -1074
    · exact .inl hleast
    · have hlog : j + 52 = (n / d).log2 := by omega
      have hpos : n / d ≠ 0 := by
        intro hzero
        have hnone : (0 : Nat).log2 = 0 := by decide
        rw [hzero] at hlog
        omega
      refine .inr ?_
      calc
        2 ^ 52 * (d * 2 ^ j) = 2 ^ (j + 52) * d := by ring
        _ ≤ n / d * d := Nat.mul_le_mul_right d (hlog ▸ Nat.log2_self_le hpos)
        _ ≤ n := Nat.div_mul_le_self n d

/-- Powers of two may be moved to the other side of a comparison. -/
theorem mul_two_pow_cross {i j k p q r : Nat} (h : p + q + j = i + (r + k)) :
    m * 2 ^ p * 2 ^ q * (n * 2 ^ j) = m * 2 ^ i * (n * 2 ^ r * 2 ^ k) := by
  calc
    m * 2 ^ p * 2 ^ q * (n * 2 ^ j) = m * n * 2 ^ (p + q + j) := by ring
    _ = m * n * 2 ^ (i + (r + k)) := by rw [h]
    _ = m * 2 ^ i * (n * 2 ^ r * 2 ^ k) := by ring

/-- **A quotient that is rounded at an exponent has the units nearest to it**, if no bit is missing
at that exponent. -/
theorem roundWithAccuracy_ratio_cases {accuracy : Accuracy} {t : Int} {n' d' : Nat} (hd : 0 < d)
    (hd' : 0 < d')
    (haccuracy : ExtendedMantissa.ofMantissaAndAccuracy (n / d) accuracy = extended n d)
    (hle : t ≤ max (((n / d).log2 : Int) + t - 52) (-1074))
    (hunits : ∀ j k : Nat, (k : Int) = t + j + 1074 → n' * (d * 2 ^ j) = n * (d' * 2 ^ k)) :
    (roundedRatio n' d' = 0 ∧
      roundWithAccuracy Format.binary64 s (n / d) t accuracy = .zero s) ∨
    ∃ m' e' hm', roundWithAccuracy Format.binary64 s (n / d) t accuracy = .finite s m' e' hm' ∧
      Canonical m' e' ∧ units m' e' = roundedRatio n' d' := by
  obtain ⟨j, hj⟩ : ∃ j : Nat, t + j = max (((n / d).log2 : Int) + t - 52) (-1074) :=
    ⟨_, by rw [Int.toNat_of_nonneg (sub_nonneg.2 hle)]; ring⟩
  have hmove : shiftToTargetExponent Format.binary64 (n / d) t accuracy =
      (extended n (d * 2 ^ j), t + j) := by
    have hshift : (max (((n / d).log2 : Int) + t - 52) (-1074) - t).toNat = j := by omega
    simp only [shiftToTargetExponent, shiftToExponent, targetExponent_eq, hshift, haccuracy,
      shiftRight_extended hd]
  obtain ⟨k, hk⟩ : ∃ k, k = (t + j + 1074).toNat := ⟨_, rfl⟩
  have hcross : n' * (d * 2 ^ j) = n * (d' * 2 ^ k) := hunits j k (by omega)
  have hpos : 0 < d * 2 ^ j := Nat.mul_pos hd (Nat.two_pow_pos j)
  have hpos' : 0 < d' * 2 ^ k := Nat.mul_pos hd' (Nat.two_pow_pos k)
  obtain ⟨hupper, hlower⟩ := log2_bounds hd hj
  have hrounded : roundedRatio n' d' = (extended n (d * 2 ^ j)).roundedMantissa * 2 ^ k := by
    rw [roundedMantissa_extended hpos, ← nearestRatio_congr hpos' hpos hcross]
    refine roundedRatio_eq hd' (lt_mul_of_cross hpos' hcross hupper) ?_
    exact hlower.imp (by omega) (mul_le_of_cross hpos hcross)
  have hbound : (extended n (d * 2 ^ j)).roundedMantissa ≤ 2 ^ 53 := by
    rw [roundedMantissa_extended hpos]
    exact nearestRatio_le_of_le hpos hupper.le
  have hfull : 2 ^ 52 ≤ (extended n (d * 2 ^ j)).roundedMantissa ∨ t + j = -1074 := by
    rw [roundedMantissa_extended hpos]
    exact hlower.symm.imp_left (le_nearestRatio hpos)
  rw [hrounded, hk]
  refine (roundWithAccuracy_cases hmove (by omega) hbound hfull).imp_left ?_
  rintro ⟨hzero, hround⟩
  exact ⟨by rw [hzero, Nat.zero_mul], hround⟩

/-- **Finite amounts are divided exactly, and then rounded.** -/
theorem div_finite_cases (hm : 0 < m) (hn : 0 < n) (he : -1074 ≤ e) (hf : -1074 ≤ f) :
    (roundedRatio (units m e * 2 ^ 1074) (units n f) = 0 ∧
      UnpackedFloat.div Format.binary64 (.finite .positive m e hm) (.finite .positive n f hn) =
        .zero .positive) ∨
    ∃ m' e' hm', UnpackedFloat.div Format.binary64 (.finite .positive m e hm)
        (.finite .positive n f hn) = .finite .positive m' e' hm' ∧
      Canonical m' e' ∧ units m' e' = roundedRatio (units m e * 2 ^ 1074) (units n f) := by
  -- the exponent that the quotient is computed at
  obtain ⟨t, ht⟩ : ∃ t, t = min (e - f)
      (Format.binary64.targetExponent (totalExponent m e - totalExponent n f)) := ⟨_, rfl⟩
  have htarget : Format.binary64.targetExponent (totalExponent m e - totalExponent n f) =
      max ((m.log2 : Int) + e - (n.log2 + f) - 53) (-1074) := by
    simp [Format.targetExponent, totalExponent, Format.mantissaBits, Format.minExponent]
    omega
  obtain ⟨i, hi⟩ : ∃ i, i = (e - f - t).toNat := ⟨_, rfl⟩
  have hdiv : UnpackedFloat.div Format.binary64 (.finite .positive m e hm)
      (.finite .positive n f hn) = roundWithAccuracy Format.binary64 .positive (m * 2 ^ i / n) t
        (accuracyOfFraction (m * 2 ^ i % n) n) := by
    rw [hi, ← Nat.shiftLeft_eq]
    simp only [UnpackedFloat.div, divCore, ← ht]
    rfl
  have hle : t ≤ max (((m * 2 ^ i / n).log2 : Int) + t - 52) (-1074) := by
    by_cases hless : -1074 < t
    · have hfull : 2 ^ 52 ≤ m * 2 ^ i / n := by
        rw [hi]
        exact two_pow_le_div hm hn (by omega)
      have hlog : 52 ≤ (m * 2 ^ i / n).log2 := (Nat.le_log2 (by omega)).2 hfull
      omega
    · omega
  rw [hdiv]
  exact roundWithAccuracy_ratio_cases hn (units_pos hn) (ofMantissaAndAccuracy_eq hn) hle
    fun j k hk => mul_two_pow_cross (by omega)

/-- Nothing divided is rounded to nothing. -/
theorem roundedRatio_zero (hd : 0 < d) : roundedRatio 0 d = 0 := by
  have hzero : nearestRatio 0 (d * 2 ^ spareBits (0 / d)) = 0 := by
    simpa using nearestRatio_mul_self (n := 0) (Nat.mul_pos hd (Nat.two_pow_pos _))
  unfold roundedRatio
  rw [hzero, Nat.zero_mul]

/-- **The quotient of a finite amount has the units nearest to the exact quotient.** -/
theorem AmountsTo.div (hu : Fits u) (ha : AmountsTo u a) (hless : a < limit) {hn : 0 < n}
    (hv : Fits (.finite .positive n f hn)) :
    AmountsTo
      (Binary64.repacked (UnpackedFloat.div Format.binary64 u (.finite .positive n f hn)))
      (min limit (roundedRatio (a * 2 ^ 1074) (units n f))) := by
  rcases ha.cases with ⟨-, rfl⟩ | ⟨s, rfl, rfl⟩ | ⟨m, e, hm, rfl, rfl⟩
  · exact absurd hless (lt_irrefl _)
  · rw [Nat.zero_mul, roundedRatio_zero (units_pos hn), Nat.min_zero]
    have hzero : UnpackedFloat.div Format.binary64 (.zero s) (.finite .positive n f hn) =
        .zero (s / .positive) := rfl
    rw [hzero, repacked_zero]
    exact amountsTo_zero
  · rcases div_finite_cases hm hn hu.1.least hv.1.least with
      ⟨hzero, hdiv⟩ | ⟨m', e', hm', hdiv, hcanonical, hunits⟩
    · rw [hdiv, hzero, Nat.min_zero, repacked_zero]
      exact amountsTo_zero
    · rw [hdiv, ← hunits]
      exact amountsTo_repacked_finite hcanonical

/-- A finite amount over an infinite one is zero. -/
theorem AmountsTo.div_infinity (ha : AmountsTo u a) (hless : a < limit) :
    ∃ t, UnpackedFloat.div Format.binary64 u (.infinity s) = .zero t := by
  rcases ha.cases with ⟨-, rfl⟩ | ⟨t, rfl, -⟩ | ⟨m, e, hm, rfl, -⟩
  · exact absurd hless (lt_irrefl _)
  · exact ⟨_, rfl⟩
  · exact ⟨_, rfl⟩

/-- A quotient that is finite has a finite dividend, and a divisor that is not zero. -/
theorem AmountsTo.of_isFinite_div {v : UnpackedFloat} (hu : Fits u) (ha : AmountsTo u a)
    (hv : Unsigned v)
    (h : (Binary64.repacked (UnpackedFloat.div Format.binary64 u v)).isFinite = true) :
    a < limit ∧ (v = .infinity .positive ∨ ∃ n f hn, v = .finite .positive n f hn) := by
  constructor
  · rcases ha.cases with ⟨rfl, -⟩ | ⟨t, -, rfl⟩ | ⟨m, e, hm, rfl, rfl⟩
    · cases v <;> simp [UnpackedFloat.div, UnpackedFloat.isFinite] at h
    · exact limit_pos
    · exact units_lt_limit hu.1.lt hu.1.least hu.2
  · cases v with
    | notANumber => cases u <;> simp [UnpackedFloat.div, UnpackedFloat.isFinite] at h
    | zero t => cases u <;> simp [UnpackedFloat.div, UnpackedFloat.isFinite] at h
    | infinity t =>
        obtain rfl : t = .positive := hv
        exact .inl rfl
    | finite t n f hn =>
        obtain rfl : t = .positive := hv
        exact .inr ⟨n, f, hn, rfl⟩

end BusNetwork.Binary64
