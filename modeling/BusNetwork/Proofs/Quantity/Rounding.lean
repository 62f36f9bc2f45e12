import Mathlib

/-!
# Rounding to 53 bits

A finite quantity in 64-bit floating point is a whole number of units `2 ^ -1074`, so sums are
formed and rounded in natural numbers. The number of units that a sum is rounded to is `rounded`:
the last `spareBits` bits, those that do not fit into 53, are dropped to the nearest, **ties to
even**. The arithmetic keeps two of the bits dropped, the round bit and a sticky bit for all others,
which is enough to find the nearest (`roundedMantissa_extended`).

* `nearestRatio_mono` — of two numbers over the same divisor the larger is rounded to no smaller
  one.
* `rounded_mono` — a larger sum is rounded to no smaller number.
* `rounded_of_fits` — a number of 53 bits, shifted, is rounded to itself.
* `exists_round_eq` — rounding a mantissa at an exponent is `rounded` on the units.
-/

namespace BusNetwork.Binary64

open Float.Model Float.Model.UnpackedFloat

/-! ## Quotients -/

/-- The whole number nearest to a quotient, the even one of two. -/
def nearestRatio (n d : Nat) : Nat :=
  if 2 * (n % d) < d then n / d
  else if 2 * (n % d) = d then n / d + n / d % 2
  else n / d + 1

variable {c d m n j k : Nat}

/-- The nearest whole number is not below the whole part of a quotient. -/
theorem div_le_nearestRatio : n / d ≤ nearestRatio n d := by
  unfold nearestRatio
  split_ifs <;> omega

/-- The nearest whole number is at most one above the whole part of a quotient. -/
theorem nearestRatio_le : nearestRatio n d ≤ n / d + 1 := by
  unfold nearestRatio
  split_ifs <;> omega

/-- A multiple of the divisor has its exact quotient. -/
theorem nearestRatio_mul_self (hd : 0 < d) : nearestRatio (n * d) d = n := by
  simp [nearestRatio, Nat.mul_mod_left, Nat.mul_div_cancel _ hd, hd]

/-- Only the quotient counts, not the unit that both numbers are taken in. -/
theorem nearestRatio_mul (hc : 0 < c) : nearestRatio (n * c) (d * c) = nearestRatio n d := by
  have hdiv : n * c / (d * c) = n / d := Nat.mul_div_mul_right _ _ hc
  have hmod : n * c % (d * c) = n % d * c := Nat.mul_mod_mul_right _ _ _
  have hlt : 2 * (n % d * c) < d * c ↔ 2 * (n % d) < d := by
    rw [← mul_assoc, Nat.mul_lt_mul_right hc]
  have heq : 2 * (n % d * c) = d * c ↔ 2 * (n % d) = d := by
    rw [← mul_assoc, Nat.mul_left_inj hc.ne']
  unfold nearestRatio
  rw [hdiv, hmod]
  simp only [hlt, heq]

/-- A larger number has no smaller nearest quotient. -/
theorem nearestRatio_mono (h : m ≤ n) : nearestRatio m d ≤ nearestRatio n d := by
  rcases (Nat.div_le_div_right h : m / d ≤ n / d).eq_or_lt with hdiv | hdiv
  · -- With equal whole parts the remainders decide.
    have hmod : m % d ≤ n % d := by
      have hm := Nat.div_add_mod m d
      have hn := Nat.div_add_mod n d
      rw [hdiv] at hm
      omega
    unfold nearestRatio
    rw [hdiv]
    split_ifs <;> omega
  · calc
      nearestRatio m d ≤ m / d + 1 := nearestRatio_le
      _ ≤ n / d := hdiv
      _ ≤ nearestRatio n d := div_le_nearestRatio

/-- A whole number not below a quotient is not below the nearest one. -/
theorem nearestRatio_le_of_le (hd : 0 < d) (h : n ≤ c * d) : nearestRatio n d ≤ c :=
  (nearestRatio_mono h).trans_eq (nearestRatio_mul_self hd)

/-- A whole number not above a quotient is not above the nearest one. -/
theorem le_nearestRatio (hd : 0 < d) (h : c * d ≤ n) : c ≤ nearestRatio n d :=
  (nearestRatio_mul_self hd).symm.trans_le (nearestRatio_mono h)

/-! ## The round bit and the sticky bit -/

/-- A quotient as the arithmetic keeps it. The round bit is the first bit dropped, and the sticky
bit tells whether any other is set. -/
def extended (n d : Nat) : ExtendedMantissa := ⟨n / d, 2 * n / d % 2 != 0, 2 * n % d != 0⟩

/-- A whole number divided by one drops no bits. -/
theorem extended_one : extended n 1 = ⟨n, false, false⟩ := by
  simp [extended, Nat.mod_one]

/-- The bits dropped are read off the remainder. -/
theorem extended_eq (hd : 0 < d) :
    extended n d = ⟨n / d, decide (d ≤ 2 * (n % d)), 2 * (n % d) % d != 0⟩ := by
  have hlt : n % d < d := Nat.mod_lt _ hd
  have hsplit : 2 * n = 2 * (n % d) + d * (2 * (n / d)) := by
    have hn := Nat.div_add_mod n d
    calc
      2 * n = 2 * (d * (n / d) + n % d) := by rw [hn]
      _ = 2 * (n % d) + d * (2 * (n / d)) := by ring
  have hdiv : 2 * n / d = 2 * (n % d) / d + 2 * (n / d) := by
    rw [hsplit, Nat.add_mul_div_left _ _ hd]
  have hmod : 2 * n % d = 2 * (n % d) % d := by
    rw [hsplit, Nat.add_mul_mod_self_left]
  unfold extended
  rw [hmod, hdiv, Nat.add_mul_mod_self_left]
  congr 1
  by_cases hhalf : d ≤ 2 * (n % d)
  · have hone : 2 * (n % d) / d = 1 := by
      rw [Nat.div_eq_iff hd]
      omega
    simp [hone, hhalf]
  · have hzero : 2 * (n % d) / d = 0 := Nat.div_eq_of_lt (by omega)
    simp [hzero, hhalf]

/-- Moving on by a bit is halving the quotient. -/
theorem shiftRightOne_extended (hd : 0 < d) :
    (extended n d).shiftRightOne = extended n (d * 2) := by
  have hlt : n % d < d := Nat.mod_lt _ hd
  have hround : 2 * n / (d * 2) = n / d := by
    rw [mul_comm d, Nat.mul_div_mul_left _ _ Nat.two_pos]
  have hsticky : 2 * n % (d * 2) = 2 * (n % d) := by
    rw [mul_comm d, Nat.mul_mod_mul_left]
  rw [extended_eq hd]
  unfold extended
  simp only [ExtendedMantissa.shiftRightOne, Nat.div_div_eq_div_mul, hround, hsticky,
    ExtendedMantissa.mk.injEq, true_and]
  by_cases hhalf : d ≤ 2 * (n % d)
  · have hpos : 2 * (n % d) ≠ 0 := by omega
    simp [hhalf, hpos]
  · have hmod : 2 * (n % d) % d = 2 * (n % d) := Nat.mod_eq_of_lt (by omega)
    simp [hhalf, hmod]

/-- Dropping bits of a quotient is dividing by a power of two more. -/
theorem shiftRight_extended (hd : 0 < d) : extended n d >>> k = extended n (d * 2 ^ k) := by
  induction k with
  | zero =>
      rw [pow_zero, mul_one]
      rfl
  | succ k ih =>
      have hstep : extended n d >>> (k + 1) = (extended n d >>> k).shiftRightOne := rfl
      rw [hstep, ih, shiftRightOne_extended (Nat.mul_pos hd (Nat.two_pow_pos k)), mul_assoc,
        ← pow_succ]

/-- Rounding by the round bit and the sticky bit is rounding the quotient. -/
theorem roundedMantissa_extended (hd : 0 < d) :
    (extended n d).roundedMantissa = nearestRatio n d := by
  have hlt : n % d < d := Nat.mod_lt _ hd
  rw [extended_eq hd]
  unfold nearestRatio
  rcases lt_trichotomy (2 * (n % d)) d with hless | hequal | hmore
  · -- The part dropped is less than half.
    have hround : ¬ d ≤ 2 * (n % d) := by omega
    rw [decide_eq_false hround, if_pos hless]
    cases 2 * (n % d) % d != 0 <;> rfl
  · rw [hequal, decide_eq_true le_rfl, if_neg (lt_irrefl d), if_pos rfl, Nat.mod_self]
    rfl
  · -- It is more than half, so that a bit after the first is set.
    have hrest : (2 * (n % d) % d != 0) = true := by
      rw [Nat.mod_eq_sub_mod hmore.le, Nat.mod_eq_of_lt (by omega), bne_iff_ne]
      omega
    rw [hrest, decide_eq_true hmore.le, if_neg hmore.not_gt, if_neg hmore.ne']
    rfl

/-! ## Quotients by powers of two -/

/-- The whole number nearest to a quotient by a power of two, the even one of two. -/
def nearestQuotient (n k : Nat) : Nat :=
  if 2 * (n % 2 ^ k) < 2 ^ k then n / 2 ^ k
  else if 2 * (n % 2 ^ k) = 2 ^ k then n / 2 ^ k + n / 2 ^ k % 2
  else n / 2 ^ k + 1

/-- The nearest quotient by a power of two is the nearest ratio to it. -/
theorem nearestQuotient_eq (n k : Nat) : nearestQuotient n k = nearestRatio n (2 ^ k) := rfl

/-- A multiple of the divisor has its exact quotient. -/
@[simp]
theorem nearestQuotient_mul_self : nearestQuotient (n * 2 ^ k) k = n :=
  nearestRatio_mul_self (Nat.two_pow_pos k)

/-- Only the quotient counts, not the unit that both numbers are taken in. -/
theorem nearestQuotient_mul : nearestQuotient (n * 2 ^ j) (k + j) = nearestQuotient n k := by
  rw [nearestQuotient_eq, pow_add]
  exact nearestRatio_mul (Nat.two_pow_pos j)

/-- A larger number has no smaller nearest quotient. -/
theorem nearestQuotient_mono (h : m ≤ n) : nearestQuotient m k ≤ nearestQuotient n k :=
  nearestRatio_mono h

/-- Moving a mantissa by bits and rounding it is rounding the quotient. -/
theorem roundedMantissa_shiftRight :
    ((⟨n, false, false⟩ : ExtendedMantissa) >>> k).roundedMantissa = nearestQuotient n k := by
  have hpos : 0 < 1 * 2 ^ k := Nat.mul_pos Nat.one_pos (Nat.two_pow_pos k)
  rw [← extended_one, shiftRight_extended Nat.one_pos, roundedMantissa_extended hpos, one_mul]
  rfl

/-! ## Numbers of 53 bits -/

/-- How many bits a number has beyond 53. -/
def spareBits (n : Nat) : Nat := n.log2 - 52

/-- A number without its spare bits, which are dropped to the nearest. -/
def rounded (n : Nat) : Nat := nearestQuotient n (spareBits n) * 2 ^ spareBits n

/-- A number has at most 53 bits beside the spare ones. -/
theorem lt_two_pow_spareBits : n < 2 ^ (spareBits n + 53) := by
  have hlog : n.log2 + 1 ≤ spareBits n + 53 := by
    unfold spareBits
    omega
  exact Nat.lt_log2_self.trans_le (Nat.pow_le_pow_right Nat.two_pos hlog)

/-- A number with spare bits has 53 bits beside them. -/
theorem two_pow_spareBits_le (h : 0 < spareBits n) : 2 ^ (spareBits n + 52) ≤ n := by
  have hlog : spareBits n + 52 = n.log2 := by
    unfold spareBits at h ⊢
    omega
  have hn : n ≠ 0 := by
    rintro rfl
    simp [spareBits] at h
  rw [hlog]
  exact Nat.log2_self_le hn

/-- A larger number has no fewer spare bits. -/
theorem spareBits_mono (h : m ≤ n) : spareBits m ≤ spareBits n := by
  by_contra hlt
  have hm := two_pow_spareBits_le (n := m) (by omega)
  have hn := lt_two_pow_spareBits (n := n)
  have hpow : 2 ^ (spareBits n + 53) ≤ 2 ^ (spareBits m + 52) :=
    Nat.pow_le_pow_right Nat.two_pos (by omega)
  omega

/-- The mantissa is rounded to at most the first number of 54 bits. -/
theorem nearestQuotient_spareBits_le : nearestQuotient n (spareBits n) ≤ 2 ^ 53 := by
  have hle : n ≤ 2 ^ 53 * 2 ^ spareBits n := by
    rw [← pow_add, add_comm]
    exact lt_two_pow_spareBits.le
  calc
    nearestQuotient n (spareBits n) ≤ nearestQuotient (2 ^ 53 * 2 ^ spareBits n) (spareBits n) :=
      nearestQuotient_mono hle
    _ = 2 ^ 53 := nearestQuotient_mul_self

/-- If bits are dropped, 53 are left. -/
theorem le_nearestQuotient_spareBits (h : 0 < spareBits n) :
    2 ^ 52 ≤ nearestQuotient n (spareBits n) := by
  have hle : 2 ^ 52 * 2 ^ spareBits n ≤ n := by
    rw [← pow_add, add_comm]
    exact two_pow_spareBits_le h
  calc
    2 ^ 52 = nearestQuotient (2 ^ 52 * 2 ^ spareBits n) (spareBits n) :=
      nearestQuotient_mul_self.symm
    _ ≤ nearestQuotient n (spareBits n) := nearestQuotient_mono hle

/-- A larger number is rounded to no smaller one. -/
theorem rounded_mono (h : m ≤ n) : rounded m ≤ rounded n := by
  unfold rounded
  rcases (spareBits_mono h).eq_or_lt with hspare | hspare
  · rw [hspare]
    exact Nat.mul_le_mul_right _ (nearestQuotient_mono h)
  · -- A power of two lies between the two.
    calc
      nearestQuotient m (spareBits m) * 2 ^ spareBits m ≤ 2 ^ 53 * 2 ^ spareBits m :=
        Nat.mul_le_mul_right _ nearestQuotient_spareBits_le
      _ = 2 ^ 52 * 2 ^ (spareBits m + 1) := by ring
      _ ≤ 2 ^ 52 * 2 ^ spareBits n :=
        Nat.mul_le_mul_left _ (Nat.pow_le_pow_right Nat.two_pos hspare)
      _ ≤ nearestQuotient n (spareBits n) * 2 ^ spareBits n :=
        Nat.mul_le_mul_right _ (le_nearestQuotient_spareBits (by omega))

/-- A number of 53 bits with zeros after them is not changed. -/
theorem rounded_of_fits (h : m < 2 ^ 53) : rounded (m * 2 ^ j) = m * 2 ^ j := by
  have hspare : spareBits (m * 2 ^ j) ≤ j := by
    by_contra hlt
    have hle := two_pow_spareBits_le (n := m * 2 ^ j) (by omega)
    have hless : m * 2 ^ j < 2 ^ 53 * 2 ^ j := Nat.mul_lt_mul_of_pos_right h (Nat.two_pow_pos j)
    rw [← pow_add] at hless
    have hpow : 2 ^ (53 + j) ≤ 2 ^ (spareBits (m * 2 ^ j) + 52) :=
      Nat.pow_le_pow_right Nat.two_pos (by omega)
    omega
  obtain ⟨i, hi⟩ := Nat.exists_eq_add_of_le hspare
  have hsplit : m * 2 ^ j = m * 2 ^ i * 2 ^ spareBits (m * 2 ^ j) := by
    rw [mul_assoc, ← pow_add, add_comm i, ← hi]
  unfold rounded
  generalize spareBits (m * 2 ^ j) = s at hsplit ⊢
  rw [hsplit, nearestQuotient_mul_self]

/-! ## Rounding a mantissa at an exponent -/

/-- A mantissa at the exponent that 64-bit floating point gives it: it has 53 bits, or fewer at the
least exponent. -/
structure Canonical (m : Nat) (e : Int) : Prop where
  lt : m < 2 ^ 53
  least : -1074 ≤ e
  full : 2 ^ 52 ≤ m ∨ e = -1074

/-- A mantissa at an exponent in units of `2 ^ -1074`. -/
def units (m : Nat) (e : Int) : Nat := m * 2 ^ (e + 1074).toNat

variable {e : Int} {s : Sign}

/-- The exponent that a mantissa is moved to. -/
theorem targetExponent_eq :
    Format.binary64.targetExponent (totalExponent m e) = max ((m.log2 : Int) + e - 52) (-1074) := by
  simp [Format.targetExponent, totalExponent, Format.mantissaBits, Format.minExponent]
  omega

/-- Mantissas of 53 bits stay where they are. -/
theorem shiftToTargetExponent_of_fits (hm : m < 2 ^ 53) (he : -1074 ≤ e) :
    shiftToTargetExponent Format.binary64 m e .exact = (⟨m, false, false⟩, e) := by
  have hlog : m.log2 ≤ 52 := by
    by_cases hzero : m = 0
    · simp [hzero]
    · have := (Nat.log2_lt hzero).2 hm
      omega
  have hshift : (max ((m.log2 : Int) + e - 52) (-1074) - e).toNat = 0 := by omega
  simp only [shiftToTargetExponent, shiftToExponent, targetExponent_eq, hshift,
    ExtendedMantissa.ofMantissaAndAccuracy]
  simp
  rfl

/-- The one mantissa of 54 bits that rounding leads to is halved. -/
theorem shiftToTargetExponent_two_pow (he : -1074 ≤ e) :
    shiftToTargetExponent Format.binary64 (2 ^ 53) e .exact = (⟨2 ^ 52, false, false⟩, e + 1) := by
  have hlog : (2 ^ 53 : Nat).log2 = 53 := Nat.log2_two_pow
  have hshift : (max (((2 ^ 53 : Nat).log2 : Int) + e - 52) (-1074) - e).toNat = 1 := by
    rw [hlog]
    omega
  simp only [shiftToTargetExponent, shiftToExponent, targetExponent_eq, hshift,
    ExtendedMantissa.ofMantissaAndAccuracy]
  rfl

/-- A power of two as a factor adds its exponent to the logarithm. -/
theorem log2_mul_two_pow (hm : 0 < m) : (m * 2 ^ j).log2 = m.log2 + j := by
  have hpos : m * 2 ^ j ≠ 0 := (Nat.mul_pos hm (Nat.two_pow_pos j)).ne'
  rw [Nat.log2_eq_iff hpos, pow_add, show m.log2 + j + 1 = m.log2 + 1 + j by omega, pow_add]
  exact ⟨Nat.mul_le_mul_right _ (Nat.log2_self_le hm.ne'),
    Nat.mul_lt_mul_of_pos_right Nat.lt_log2_self (Nat.two_pow_pos j)⟩

/-- Moving a mantissa to its exponent drops the spare bits of its units. -/
theorem spareBits_units (hm : 0 < m) (he : -1074 ≤ e) :
    (spareBits (units m e) : Int) = max ((m.log2 : Int) + e - 52) (-1074) + 1074 := by
  unfold spareBits units
  rw [log2_mul_two_pow hm]
  omega

/-- A mantissa that was rounded at the exponent it was moved to is left there, or halved if it has
54 bits. -/
theorem roundWithAccuracy_cases {accuracy : Accuracy} {x : ExtendedMantissa} {f : Int}
    (hshift : shiftToTargetExponent Format.binary64 m e accuracy = (x, f)) (hf : -1074 ≤ f)
    (hle : x.roundedMantissa ≤ 2 ^ 53) (hfull : 2 ^ 52 ≤ x.roundedMantissa ∨ f = -1074) :
    (x.roundedMantissa = 0 ∧ roundWithAccuracy Format.binary64 s m e accuracy = .zero s) ∨
      ∃ m' e' hm', roundWithAccuracy Format.binary64 s m e accuracy = .finite s m' e' hm' ∧
        Canonical m' e' ∧ units m' e' = x.roundedMantissa * 2 ^ (f + 1074).toNat := by
  unfold roundWithAccuracy
  rw [hshift]
  rcases hle.lt_or_eq with hlt | heq
  · have hsecond := shiftToTargetExponent_of_fits hlt hf
    by_cases hzero : x.roundedMantissa = 0
    · refine .inl ⟨hzero, ?_⟩
      simp only [hsecond]
      exact dif_pos hzero
    · refine .inr ⟨_, f, Nat.pos_of_ne_zero hzero, ?_, ⟨hlt, hf, hfull⟩, rfl⟩
      simp [hsecond, hzero]
  · have hsecond := shiftToTargetExponent_two_pow hf
    refine .inr ⟨2 ^ 52, f + 1, by positivity, ?_, ⟨by norm_num, by omega, .inl le_rfl⟩, ?_⟩
    · simp only [heq, hsecond]
      rfl
    · unfold units
      rw [heq, show (f + 1 + 1074).toNat = (f + 1074).toNat + 1 by omega]
      ring

/-- Rounding a mantissa that is too long, or not too short, gives the rounded number of units. -/
theorem exists_roundWithAccuracy_eq (hm : 0 < m) (he : -1074 ≤ e)
    (hle : e ≤ max ((m.log2 : Int) + e - 52) (-1074)) :
    ∃ m' e' hm', roundWithAccuracy Format.binary64 s m e .exact = .finite s m' e' hm' ∧
      Canonical m' e' ∧ units m' e' = rounded (units m e) := by
  obtain ⟨k, hk⟩ := Int.eq_ofNat_of_zero_le (sub_nonneg.2 hle)
  obtain ⟨j, hj⟩ := Int.eq_ofNat_of_zero_le (a := e + 1074) (by omega)
  have hspare : spareBits (units m e) = k + j := by
    have := spareBits_units hm he
    omega
  have hunits : units m e = m * 2 ^ j := by
    unfold units
    rw [hj, Int.toNat_natCast]
  have hquotient : nearestQuotient (units m e) (spareBits (units m e)) = nearestQuotient m k := by
    rw [hspare, hunits, nearestQuotient_mul]
  have hshift : shiftToTargetExponent Format.binary64 m e .exact =
      ((⟨m, false, false⟩ : ExtendedMantissa) >>> k, e + k) := by
    simp only [shiftToTargetExponent, shiftToExponent, targetExponent_eq, hk, Int.toNat_natCast]
    rfl
  have hbound : nearestQuotient m k ≤ 2 ^ 53 := hquotient ▸ nearestQuotient_spareBits_le
  have hrounded : rounded (units m e) = nearestQuotient m k * 2 ^ (e + k + 1074).toNat := by
    unfold rounded
    rw [hquotient, hspare, show (e + k + 1074).toNat = k + j by omega]
  have hfull : 2 ^ 52 ≤ nearestQuotient m k ∨ k = 0 ∧ e = -1074 := by
    rcases Nat.eq_zero_or_pos (spareBits (units m e)) with hzero | hpos
    · exact .inr (by omega)
    · exact .inl (hquotient ▸ le_nearestQuotient_spareBits hpos)
  have hpos : nearestQuotient m k ≠ 0 := by
    rcases hfull with hfull | ⟨rfl, -⟩
    · omega
    · have hself : nearestQuotient (m * 2 ^ 0) 0 = m := nearestQuotient_mul_self
      rw [pow_zero, mul_one] at hself
      omega
  rw [← roundedMantissa_shiftRight] at hbound hrounded hfull hpos
  rw [hrounded]
  exact (roundWithAccuracy_cases hshift (by omega) hbound (hfull.imp_right (by omega))).resolve_left
    fun h => hpos h.1

/-- **Rounding a mantissa at an exponent rounds its units**, and the result is canonical. -/
theorem exists_round_eq (hm : 0 < m) (he : -1074 ≤ e) :
    ∃ m' e' hm', UnpackedFloat.round Format.binary64 s m e = .finite s m' e' hm' ∧
      Canonical m' e' ∧ units m' e' = rounded (units m e) := by
  unfold UnpackedFloat.round
  simp only [targetExponent_eq, decreaseExponent, Nat.shiftLeft_eq]
  generalize hi : (e - max ((m.log2 : Int) + e - 52) (-1074)).toNat = i
  have hpos : 0 < m * 2 ^ i := Nat.mul_pos hm (Nat.two_pow_pos i)
  have hlog : (m * 2 ^ i).log2 = m.log2 + i := log2_mul_two_pow hm
  have hunits : units (m * 2 ^ i) (e - i) = units m e := by
    unfold units
    rw [mul_assoc, ← pow_add]
    congr 2
    omega
  obtain ⟨m', e', hm', hround, hcanonical, heq⟩ :=
    exists_roundWithAccuracy_eq (s := s) hpos (e := e - i) (by omega) (by rw [hlog]; omega)
  exact ⟨m', e', hm', hround, hcanonical, heq.trans (by rw [hunits])⟩

end BusNetwork.Binary64
