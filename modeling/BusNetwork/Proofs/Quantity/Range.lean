import BusNetwork.Proofs.Quantity.Pace

/-!
# The range of numbers: whole parts and quotients

A quantity in 64-bit floating point is a rational number, `toRat`, the infinite one standing at
`2 ^ 1024`. Two operations leave the range of what they answer with.

* `wholePart_eq` — the whole part of an amount is **its floor, up to `2 ^ 64 - 1`**. That last one
  is the whole part of all amounts from `2 ^ 64` on, and of no other (`wholePart_eq_last_iff`):
  there are no numbers of 53 bits just below `2 ^ 64`.
* `isFinite_div_iff` — the quotient of two amounts is finite **exactly if it is less than
  `overflow`**, which lies halfway between the largest finite number and the next after it.
-/

namespace BusNetwork

open Quantity

namespace Binary64

open Float.Model (Format UnpackedFloat)
open Float.Model.UnpackedFloat

variable {a c d k m n : Nat} {e : Int} {x y : Float}

/-! ## Rational numbers -/

/-- The rational number that a quantity is. -/
def toRat (x : Float) : ℚ := value (unpacked x) / 2 ^ 1074

/-- A quantity of so many units is that many times 2^-1074. -/
theorem toRat_eq (ha : AmountsTo (unpacked x) a) : toRat x = a / 2 ^ 1074 := by
  rw [toRat, ha.value_eq, Int.cast_natCast]

/-- A quantity is less than a whole number if its units are. -/
theorem toRat_lt_natCast_iff (ha : AmountsTo (unpacked x) a) :
    toRat x < n ↔ a < n * 2 ^ 1074 := by
  rw [toRat_eq ha, div_lt_iff₀ (by positivity)]
  exact_mod_cast Iff.rfl

/-- The first value that is too large, halfway above a number of 54 bits at `2 ^ 970`. -/
theorem limit_eq : limit = 2 ^ (970 + (1074 + 1) + 53) := by
  have hexponent : 52 + ((972 : Int) + 1074).toNat = 970 + (1074 + 1) + 53 := by decide
  unfold limit units
  rw [← pow_add, hexponent]

/-! ## Rounding up to a power of two -/

/-- A quotient that is less than halfway above a whole number is not rounded up from it. -/
theorem nearestRatio_le_of_lt (h : 2 * n < (2 * c + 1) * d) : nearestRatio n d ≤ c := by
  have hd : 0 < d := Nat.pos_of_ne_zero (by rintro rfl; simp at h)
  have hlt : n < (c + 1) * d := by
    by_contra hle
    have : (2 * c + 1) * d ≤ 2 * ((c + 1) * d) := by
      rw [← mul_assoc]
      exact Nat.mul_le_mul_right d (by omega)
    omega
  rcases (Nat.lt_succ_iff.1 ((Nat.div_lt_iff_lt_mul hd).2 hlt)).lt_or_eq with hless | hequal
  · exact nearestRatio_le.trans hless
  · have hrest : 2 * (n % d) < d := by
      have hsplit := Nat.div_add_mod n d
      have hmul : (2 * c + 1) * d = 2 * (d * c) + d := by ring
      rw [hequal] at hsplit
      omega
    unfold nearestRatio
    rw [if_pos hrest, hequal]

/-- A whole number is rounded as its quotient by one is. -/
theorem rounded_eq_roundedRatio (n : Nat) : rounded n = roundedRatio n 1 := by
  unfold rounded roundedRatio
  rw [nearestQuotient_eq, Nat.div_one, Nat.one_mul]

/-- The number halfway below a power of two is rounded up to it, as the last one of 53 bits below it
is odd. -/
theorem roundedRatio_halfway : roundedRatio ((2 ^ 54 - 1) * 2 ^ k) 2 = 2 ^ (k + 53) := by
  have hpos : 0 < 2 ^ k := Nat.two_pow_pos k
  have hhalfway : nearestRatio (2 ^ 54 - 1) 2 = 2 ^ 53 := by decide
  rw [roundedRatio_eq (k := k) Nat.two_pos (by omega) (.inr (by omega)), nearestRatio_mul hpos,
    hhalfway, ← pow_add, add_comm]

/-- **A quotient is rounded to less than a power of two if it is less than halfway below it.** -/
theorem roundedRatio_lt_two_pow_iff (hd : 0 < d) :
    roundedRatio n d < 2 ^ (k + 53) ↔ 2 * n < (2 ^ 54 - 1) * (d * 2 ^ k) := by
  have hpos : 0 < d * 2 ^ k := Nat.mul_pos hd (Nat.two_pow_pos k)
  constructor
  · intro h
    by_contra hle
    have hcross : (2 ^ 54 - 1) * 2 ^ k * d ≤ n * 2 := by
      calc
        (2 ^ 54 - 1) * 2 ^ k * d = (2 ^ 54 - 1) * (d * 2 ^ k) := by ring
        _ ≤ n * 2 := by omega
    have hmono := roundedRatio_le_of_cross Nat.two_pos hd hcross
    rw [roundedRatio_halfway] at hmono
    omega
  · intro h
    by_cases hfull : 2 ^ 52 * (d * 2 ^ k) ≤ n
    · have hnearest : nearestRatio n (d * 2 ^ k) < 2 ^ 53 :=
        Nat.lt_succ_of_le (nearestRatio_le_of_lt (c := 2 ^ 53 - 1) (by omega))
      rw [roundedRatio_eq hd (by omega) (.inr hfull), add_comm, pow_add]
      exact Nat.mul_lt_mul_of_pos_right hnearest (Nat.two_pow_pos k)
    · have hcross : n * 1 ≤ 2 ^ 52 * 2 ^ k * d := by
        calc
          n * 1 ≤ 2 ^ 52 * (d * 2 ^ k) := by omega
          _ = 2 ^ 52 * 2 ^ k * d := by ring
      have hself : roundedRatio (2 ^ 52 * 2 ^ k) 1 = 2 ^ 52 * 2 ^ k := by
        rw [← rounded_eq_roundedRatio]
        exact rounded_of_fits (by norm_num)
      calc
        roundedRatio n d ≤ roundedRatio (2 ^ 52 * 2 ^ k) 1 :=
          roundedRatio_le_of_cross hd Nat.one_pos hcross
        _ = 2 ^ (k + 52) := by rw [hself, ← pow_add, add_comm]
        _ < 2 ^ (k + 53) := Nat.pow_lt_pow_right (by omega) (by omega)

/-! ## Whole parts -/

/-- Equal fractions have equal whole parts. -/
theorem div_eq_div_of_cross (hc : 0 < c) (hd : 0 < d) (h : m * d = n * c) : m / c = n / d := by
  rw [← Nat.mul_div_mul_right m c hd, h, mul_comm c, Nat.mul_div_mul_right n d hc]

/-- The whole part of a positive number is that of its units over those of one. -/
theorem roundToInt_positive (he : -1074 ≤ e) :
    roundToInt .positive m e = (units m e / 2 ^ 1074 : Nat) := by
  have hshift : ∀ n j : Nat,
      ((⟨n, false, false⟩ : ExtendedMantissa) >>> j).mantissa = n / 2 ^ j := by
    intro n j
    rw [← extended_one, shiftRight_extended Nat.one_pos, Nat.one_mul]
    rfl
  obtain ⟨i, hi⟩ : ∃ i, i = e.toNat := ⟨_, rfl⟩
  obtain ⟨j, hj⟩ : ∃ j, j = (-e).toNat := ⟨_, rfl⟩
  have hround : roundToInt .positive m e = (m * 2 ^ i / 2 ^ j : Nat) := by
    simp only [roundToInt, decreaseExponent, shiftToExponent,
      ExtendedMantissa.ofMantissaAndAccuracy, Nat.shiftLeft_eq, hshift, Sign.apply]
    rw [show (e - 0).toNat = i by omega, show (0 - (e - (i : Int))).toNat = j by omega]
  have hunits : units m e * 2 ^ j = m * 2 ^ i * 2 ^ 1074 := by
    unfold units
    rw [mul_assoc, mul_assoc, ← pow_add, ← pow_add]
    congr 2
    omega
  rw [hround, div_eq_div_of_cross (pow_pos Nat.two_pos j) (pow_pos Nat.two_pos 1074) hunits.symm]

/-- Clamping a natural number to 64 bits cuts it off at the largest word. -/
theorem toNat_ofNatClamp (n : Nat) : (UInt64.ofNatClamp n).toNat = min n (2 ^ 64 - 1) := by
  unfold UInt64.ofNatClamp
  split
  · next h =>
      rw [UInt64.toNat_ofNatLT]
      exact (Nat.min_eq_left (Nat.le_pred_of_lt h)).symm
  · next h =>
      rw [UInt64.toNat_ofNatLT]
      exact (Nat.min_eq_right ((Nat.sub_le _ _).trans (Nat.not_lt.1 h))).symm

/-- The whole part of an amount in units. -/
theorem wholePart_eq_div (ha : AmountsTo (unpacked x) a) :
    wholePart x = min (a / 2 ^ 1074) (2 ^ 64 - 1) := by
  have hfits := fits_unpacked x
  have hread : wholePart x =
      min ((unpacked x).toInt 0 (UInt64.size - 1)).toNat (2 ^ 64 - 1) := toNat_ofNatClamp _
  rw [hread]
  rcases ha.cases with ⟨h, rfl⟩ | ⟨s, h, rfl⟩ | ⟨m, e, hm, h, rfl⟩
  · have hlarge : 2 ^ 64 ≤ limit / 2 ^ 1074 := by
      rw [Nat.le_div_iff_mul_le (pow_pos Nat.two_pos 1074), limit_eq, ← pow_add]
      exact pow_le_pow_right₀ one_le_two (by omega)
    rw [h, Nat.min_eq_right ((Nat.sub_le _ _).trans hlarge)]
    rfl
  · rw [h, Nat.zero_div]
    rfl
  · rw [h] at hfits ⊢
    have hround : (UnpackedFloat.finite .positive m e hm).toInt 0 (UInt64.size - 1) =
        roundToInt .positive m e := rfl
    rw [hround, roundToInt_positive hfits.1.least, Int.toNat_natCast]

/-- **The whole part of an amount is its floor, or the last number of 64 bits.** -/
theorem wholePart_eq (hx : AtMost Quantity.zero x) : wholePart x = min ⌊toRat x⌋₊ (2 ^ 64 - 1) := by
  obtain ⟨a, ha⟩ := zero_atMost_iff.1 hx
  have hfloor : ⌊toRat x⌋₊ = a / 2 ^ 1074 := by
    rw [toRat_eq ha]
    exact_mod_cast Nat.floor_div_eq_div (K := ℚ) a (2 ^ 1074)
  rw [wholePart_eq_div ha, hfloor]

/-- An amount below `2 ^ 64` is far enough from it for its floor to be less than the last number of
64 bits. -/
theorem wholePart_eq_last_iff (hx : AtMost Quantity.zero x) :
    wholePart x = 2 ^ 64 - 1 ↔ 2 ^ 64 ≤ toRat x := by
  obtain ⟨a, ha⟩ := zero_atMost_iff.1 hx
  have hbelow : toRat x < 2 ^ 64 ↔ a < 2 ^ 64 * 2 ^ 1074 := by
    exact_mod_cast toRat_lt_natCast_iff (n := 2 ^ 64) ha
  rw [wholePart_eq_div ha, ← not_lt, hbelow, min_eq_right_iff,
    Nat.le_div_iff_mul_le (pow_pos Nat.two_pos 1074)]
  constructor
  · intro hle hless
    -- what lies between is rounded to `2 ^ 64`, and no amount is rounded to another
    have hrounded : 2 ^ (1085 + 53) ≤ rounded a := by
      rw [rounded_eq_roundedRatio, ← not_lt, roundedRatio_lt_two_pow_iff Nat.one_pos]
      omega
    have hlimit : 2 ^ (1085 + 53) ≤ limit := by
      rw [limit_eq]
      exact pow_le_pow_right₀ one_le_two (by omega)
    have hself : min limit (rounded a) = a := ha.nearest_eq (fits_unpacked x)
    omega
  · intro h
    omega

/-- A quantity that is at least zero is a rational number that is so. -/
theorem zero_le_toRat (hx : AtMost Quantity.zero x) : 0 ≤ toRat x := by
  obtain ⟨a, ha⟩ := zero_atMost_iff.1 hx
  rw [toRat_eq ha]
  positivity

/-- The whole part is never more. -/
theorem wholePart_le (hx : AtMost Quantity.zero x) : wholePart x ≤ toRat x := by
  rw [wholePart_eq hx]
  exact (Nat.cast_le.2 (min_le_left _ _)).trans (Nat.floor_le (zero_le_toRat hx))

/-- **Only the fraction is dropped below `2 ^ 64`**, and more than that from there on. -/
theorem lt_wholePart_add_one_iff (hx : AtMost Quantity.zero x) :
    toRat x < wholePart x + 1 ↔ toRat x < 2 ^ 64 := by
  constructor
  · intro h
    have hlast : wholePart x + 1 ≤ 2 ^ 64 := by
      rw [wholePart_eq hx]
      omega
    exact h.trans_le (by exact_mod_cast hlast)
  · intro h
    have hfloor : ⌊toRat x⌋₊ < 2 ^ 64 := (Nat.floor_lt (zero_le_toRat hx)).2 (by exact_mod_cast h)
    rw [wholePart_eq hx, min_eq_left (by omega)]
    exact Nat.lt_floor_add_one _

/-! ## Quotients -/

/-- The least number that is too large to be rounded to a finite one. -/
def overflow : ℚ := 2 ^ 1024 - 2 ^ 970

/-- The quotient of two quantities is in the range of finite ones. -/
def QuotientFits (x y : Float) : Prop := isFinite x = true ∧ toRat x < overflow * toRat y

/-- Halfway below `2 ^ 1024` there is a number of 54 bits. -/
theorem overflow_eq : overflow = ((2 ^ 54 - 1) * 2 ^ 970 : Nat) := by
  have hpow : (2 : ℚ) ^ 1024 = 2 ^ 54 * 2 ^ 970 := by rw [← pow_add]
  rw [overflow, hpow, Nat.cast_mul, Nat.cast_pow, Nat.cast_ofNat]
  generalize (2 : ℚ) ^ 970 = p
  norm_num
  ring

/-- A 64-bit number over a divisor of `2 ^ -959` or more stays in the range of finite quantities. -/
theorem two_pow_le_overflow : 2 ^ (64 + 959) ≤ overflow := by
  have hpow : (2 : ℚ) ^ 970 ≤ 2 ^ (64 + 959) := pow_le_pow_right₀ one_le_two (by omega)
  have hdouble : (2 : ℚ) ^ 1024 = 2 ^ (64 + 959) * 2 := by rw [← pow_succ]
  rw [overflow, hdouble, mul_two]
  exact le_sub_iff_add_le.2 (add_le_add_right hpow _)

/-- In which units the quotient is taken does not matter. -/
theorem two_mul_lt_iff {b i j : Nat} :
    2 * (a * 2 ^ i) < c * (b * 2 ^ (j + (i + 1))) ↔ a < c * 2 ^ j * b := by
  have hleft : 2 * (a * 2 ^ i) = a * 2 ^ (i + 1) := by ring
  have hright : c * (b * 2 ^ (j + (i + 1))) = c * 2 ^ j * b * 2 ^ (i + 1) := by ring
  rw [hleft, hright, Nat.mul_lt_mul_right (Nat.two_pow_pos _)]

/-- **A quotient of amounts is finite exactly if it is in range.** -/
theorem isFinite_div_iff (hx : AtMost Quantity.zero x) (hy : Quantity.zero < y) :
    isFinite (x / y) = true ↔ QuotientFits x y := by
  obtain ⟨a, ha⟩ := zero_atMost_iff.1 hx
  obtain ⟨b, hb⟩ := zero_atMost_iff.1 (OrderedQuantity.lt_iff.1 hy).1
  obtain ⟨-, hnumber, hvalue⟩ := lt_iff.1 hy
  have hpos : 0 < b := by
    rw [unpacked_zero, hb.value_eq] at hvalue
    exact Int.ofNat_lt.1 hvalue
  have hunits : toRat x < overflow * toRat y ↔ a < (2 ^ 54 - 1) * 2 ^ 970 * b := by
    rw [toRat_eq ha, toRat_eq hb, ← mul_div_assoc, div_lt_div_iff_of_pos_right (by positivity),
      overflow_eq, ← Nat.cast_mul, Nat.cast_lt]
  unfold QuotientFits
  rw [isFinite_iff_lt ha, hunits]
  rcases (le_limit ha).lt_or_eq with hless | rfl
  · rcases hb.cases with ⟨h, rfl⟩ | ⟨s, -, rfl⟩ | ⟨n, f, hn, h, rfl⟩
    · -- over an infinite one the quotient is zero
      obtain ⟨s, hzero⟩ := ha.div_infinity (s := .positive) hless
      have hquotient : AmountsTo (unpacked (x / y)) 0 := by
        rw [unpacked_div, h, hzero, repacked_zero]
        exact amountsTo_zero
      have hle : limit ≤ (2 ^ 54 - 1) * 2 ^ 970 * limit :=
        Nat.le_mul_of_pos_left _ (Nat.mul_pos (by norm_num) (pow_pos Nat.two_pos 970))
      rw [isFinite_iff_lt hquotient]
      exact ⟨fun _ => ⟨hless, hless.trans_le hle⟩, fun _ => limit_pos⟩
    · exact absurd hpos (lt_irrefl 0)
    · have hquotient : AmountsTo (unpacked (x / y))
          (min limit (roundedRatio (a * 2 ^ 1074) (units n f))) := by
        rw [unpacked_div, h]
        exact ha.div (fits_unpacked x) hless (h ▸ fits_unpacked y)
      have hmin : ∀ r, min limit r < limit ↔ r < limit := fun r => by simp
      rw [isFinite_iff_lt hquotient, hmin, and_iff_right hless, ← two_mul_lt_iff (i := 1074),
        ← roundedRatio_lt_two_pow_iff hpos, ← limit_eq]
  · have hinfinite : ¬ isFinite (x / y) = true := by
      intro h
      exact absurd (ha.of_isFinite_div (fits_unpacked x) (unsigned_of_pos hnumber hvalue) h).1
        (lt_irrefl limit)
    exact ⟨fun h => absurd h hinfinite, fun h => absurd h.1 (lt_irrefl limit)⟩

/-- A quotient of amounts that is finite is an amount. -/
theorem zero_atMost_div (hx : AtMost Quantity.zero x) (hy : Quantity.zero < y)
    (h : isFinite (x / y) = true) : AtMost Quantity.zero (x / y) := by
  obtain ⟨a, ha⟩ := zero_atMost_iff.1 hx
  obtain ⟨-, hnumber, hpos⟩ := lt_iff.1 hy
  have hquotient : unpacked (x / y) ≠ .notANumber :=
    isNumber_iff.1 (OrderedQuantity.isNumber_of_isFinite h)
  refine zero_atMost_iff.2 (exists_amountsTo hquotient ?_)
  rw [unpacked_div]
  rcases ha.unsigned_or_zero with hunsigned | hzero
  · exact (hunsigned.div (unsigned_of_pos hnumber hpos)).repacked.zero_le_value
  · rw [hzero, value_div_zero]

/-- A length below `2 ^ 64` is in range over any but a tiny one. -/
theorem QuotientFits.of_lt (hx : AtMost Quantity.zero x) (hless : toRat x < 2 ^ 64)
    (hy : 1 ≤ toRat y * 2 ^ 959) : QuotientFits x y := by
  obtain ⟨a, ha⟩ := zero_atMost_iff.1 hx
  constructor
  · have hunits : a < 2 ^ 64 * 2 ^ 1074 :=
      (toRat_lt_natCast_iff (n := 2 ^ 64) ha).1 (by exact_mod_cast hless)
    have hlimit : 2 ^ 64 * 2 ^ 1074 ≤ limit := by
      rw [limit_eq, ← pow_add]
      exact pow_le_pow_right₀ one_le_two (by omega)
    exact (isFinite_iff_lt ha).2 (hunits.trans_le hlimit)
  · have hpos : 0 < toRat y :=
      (pos_iff_pos_of_mul_pos (zero_lt_one.trans_le hy)).2 (pow_pos two_pos 959)
    calc
      toRat x < 2 ^ 64 * 1 := by rwa [mul_one]
      _ ≤ 2 ^ 64 * (toRat y * 2 ^ 959) := mul_le_mul_of_nonneg_left hy (by positivity)
      _ = 2 ^ (64 + 959) * toRat y := by rw [mul_comm (toRat y), ← mul_assoc, ← pow_add]
      _ ≤ overflow * toRat y := mul_le_mul_of_nonneg_right two_pow_le_overflow hpos.le

end Binary64

end BusNetwork
