import BusNetwork.Proofs.Quantity.Product
import BusNetwork.Proofs.Quantity.Steady
import BusNetwork.Proofs.Quantity.Whole

/-!
# Paced quantities: a higher speed takes no longer

`PacedQuantity` adds to the laws of monotone quantities that a larger whole number is no smaller a
quantity, and that **a road takes no more minutes at a higher speed**. The speed is taken in other
units first, and each of these steps rounds.

In 64-bit floating point multiplying and dividing by a finite number keep the order of amounts
(`Binary64.atMost_of_scaling`), and a larger divisor gives no larger quotient
(`Binary64.div_atMost_div_left`).
-/

namespace BusNetwork

open Quantity

/-- The laws of monotone quantities, and that whole numbers and speeds keep their order. -/
class PacedQuantity (α : Type) [Quantity α] : Prop extends MonotoneQuantity α where
  /-- A larger whole number is no smaller a quantity. -/
  ofNat_atMost_ofNat {m n : Nat} : m ≤ n → AtMost (ofNat m : α) (ofNat n)
  /-- An amount over a higher speed, taken in other units, is no larger. -/
  div_speed_atMost {x v w : α} : AtMost zero x → zero < v → AtMost v w →
    isFinite (x / (v * ofNat 1000 / ofNat 60)) = true →
    AtMost (x / (w * ofNat 1000 / ofNat 60)) (x / (v * ofNat 1000 / ofNat 60))

/-! ## 64-bit floating point -/

namespace Binary64

open Float.Model (Format UnpackedFloat)

variable {x y z w v : Float} {a n : Nat}

/-- No double stands at more units than the infinite one. -/
theorem le_limit (ha : AmountsTo (unpacked x) a) : a ≤ limit := by
  rw [← ha.nearest_eq (fits_unpacked x)]
  exact Nat.min_le_left _ _

/-- Only the infinite amount stands at the limit. -/
theorem unpacked_eq_infinity (ha : AmountsTo (unpacked x) limit) :
    unpacked x = .infinity .positive := by
  have hfits := fits_unpacked x
  rcases ha.cases with ⟨h, -⟩ | ⟨s, -, hzero⟩ | ⟨m, e, hm, h, hunits⟩
  · exact h
  · exact absurd hzero limit_pos.ne'
  · rw [h] at hfits
    exact absurd hunits (units_lt_limit hfits.1.lt hfits.1.least hfits.2).ne'

/-- An operation gives amounts and keeps their order if it rounds what keeps the order of their
units, and leaves the infinite amount as it is. -/
theorem atMost_of_scaling {f : Float → Float} {r : Nat → Nat} (hr : ∀ {a b}, a ≤ b → r a ≤ r b)
    (hfinite : ∀ {x a}, AmountsTo (unpacked x) a → a < limit →
      AmountsTo (unpacked (f x)) (min limit (r a)))
    (hinfinite : ∀ {x}, unpacked x = .infinity .positive →
      unpacked (f x) = .infinity .positive)
    (hx : AtMost zero x) (hxy : AtMost x y) : AtMost zero (f x) ∧ AtMost (f x) (f y) := by
  obtain ⟨a, ha⟩ := zero_atMost_iff.1 hx
  obtain ⟨b, hb⟩ := exists_amountsTo_of_atMost ha hxy
  have hle : a ≤ b := (atMost_iff_le ha hb).1 hxy
  have hscaled : ∀ {z c}, AmountsTo (unpacked z) c → ∃ d, AmountsTo (unpacked (f z)) d ∧
      (c < limit → d = min limit (r c)) ∧ (c = limit → d = limit) := by
    intro z c hc
    rcases (le_limit hc).lt_or_eq with hless | rfl
    · exact ⟨_, hfinite hc hless, fun _ => rfl, fun h => absurd h hless.ne⟩
    · refine ⟨limit, ?_, fun h => absurd h (lt_irrefl _), fun _ => rfl⟩
      rw [hinfinite (unpacked_eq_infinity hc)]
      exact amountsTo_infinity
  obtain ⟨a', ha', hsmall, -⟩ := hscaled ha
  obtain ⟨b', hb', hsmall', hlarge'⟩ := hscaled hb
  refine ⟨zero_atMost_iff.2 ⟨a', ha'⟩, ?_⟩
  rw [atMost_iff_le ha' hb']
  rcases (le_limit hb).lt_or_eq with hless | hequal
  · rw [hsmall (hle.trans_lt hless), hsmall' hless]
    exact min_le_min_left _ (hr hle)
  · rw [hlarge' hequal]
    exact le_limit ha'

/-- A positive whole number of 53 bits is finite and not zero. -/
theorem exists_finite_ofNat (hpos : 0 < n) (hlt : n < 2 ^ 53) :
    ∃ m e hm, unpacked (Quantity.ofNat n) = .finite .positive m e hm := by
  have hwhole : IsWhole (Quantity.ofNat n) n := .ofNat hlt
  rcases hwhole.cases with ⟨-, hlimit⟩ | ⟨s, -, hzero⟩ | ⟨m, e, hm, h, -⟩
  · exact absurd hlimit (units_lt_limit_of_lt hlt).ne
  · exact absurd hzero (units_pos hpos).ne'
  · exact ⟨m, e, hm, h⟩

/-- Multiplying by a finite positive number keeps the order of amounts. -/
theorem mul_atMost_mul (hx : AtMost zero x) (hxy : AtMost x y) {m : Nat} {e : Int} {hm : 0 < m}
    (hz : unpacked z = .finite .positive m e hm) :
    AtMost zero (x * z) ∧ AtMost (x * z) (y * z) := by
  have hfits : Fits (.finite .positive m e hm) := hz ▸ fits_unpacked z
  refine atMost_of_scaling (f := (· * z)) (r := fun a => roundedRatio (a * units m e) (2 ^ 1074))
    ?_ ?_ ?_ hx hxy
  · intro a b hle
    exact roundedRatio_mono (pow_pos Nat.two_pos 1074) (Nat.mul_le_mul_right _ hle)
  · intro x a ha hless
    rw [unpacked_mul, hz]
    exact ha.mul (fits_unpacked x) hless hfits
  · intro x hx
    rw [unpacked_mul, hx, hz]
    exact repacked_infinity

/-- Dividing by a finite positive number keeps the order of amounts. -/
theorem div_finite_atMost_div (hx : AtMost zero x) (hxy : AtMost x y) {m : Nat} {e : Int}
    {hm : 0 < m} (hz : unpacked z = .finite .positive m e hm) :
    AtMost zero (x / z) ∧ AtMost (x / z) (y / z) := by
  have hfits : Fits (.finite .positive m e hm) := hz ▸ fits_unpacked z
  refine atMost_of_scaling (f := (· / z)) (r := fun a => roundedRatio (a * 2 ^ 1074) (units m e))
    ?_ ?_ ?_ hx hxy
  · intro a b hle
    exact roundedRatio_mono (units_pos hm) (Nat.mul_le_mul_right _ hle)
  · intro x a ha hless
    rw [unpacked_div, hz]
    exact ha.div (fits_unpacked x) hless hfits
  · intro x hx
    rw [unpacked_div, hx, hz]
    exact repacked_infinity

/-- A higher speed is no lower in other units. -/
theorem speed_atMost_speed (hv : Quantity.zero < v) (hvw : AtMost v w) :
    AtMost (v * Quantity.ofNat 1000 / Quantity.ofNat 60)
      (w * Quantity.ofNat 1000 / Quantity.ofNat 60) := by
  obtain ⟨m, e, hm, hthousand⟩ := exists_finite_ofNat (n := 1000) (by omega) (by omega)
  obtain ⟨n, f, hn, hsixty⟩ := exists_finite_ofNat (n := 60) (by omega) (by omega)
  have hv' : AtMost zero v := (OrderedQuantity.lt_iff.1 hv).1
  obtain ⟨hzero, hmeters⟩ := mul_atMost_mul hv' hvw hthousand
  exact (div_finite_atMost_div hzero hmeters hsixty).2

/-- A larger divisor gives no larger quotient. -/
theorem div_atMost_div_left (hx : AtMost zero x) (hzw : AtMost z w) (hz : Unsigned (unpacked z))
    (hfinite : isFinite (x / z) = true) : AtMost (x / w) (x / z) := by
  obtain ⟨a, ha⟩ := zero_atMost_iff.1 hx
  obtain ⟨hless, hcases⟩ := ha.of_isFinite_div (fits_unpacked x) hz hfinite
  -- over an infinite divisor the quotient is zero
  have hinfinite : ∀ {d : Float}, unpacked d = .infinity .positive →
      AmountsTo (unpacked (x / d)) 0 := by
    intro d hd
    obtain ⟨s, hzero⟩ := ha.div_infinity (s := .positive) hless
    rw [unpacked_div, hd, hzero, repacked_zero]
    exact amountsTo_zero
  rcases hcases with hz' | ⟨m, e, hm, hz'⟩
  · have hlimit : AmountsTo (unpacked z) limit := hz' ▸ amountsTo_infinity
    obtain ⟨b, hb⟩ := exists_amountsTo_of_atMost hlimit hzw
    obtain rfl : b = limit := le_antisymm (le_limit hb) ((atMost_iff_le hlimit hb).1 hzw)
    exact (atMost_iff_le (hinfinite (unpacked_eq_infinity hb)) (hinfinite hz')).2 le_rfl
  · have hamount : AmountsTo (unpacked z) (units m e) := hz' ▸ ⟨nofun, rfl⟩
    obtain ⟨b, hb⟩ := exists_amountsTo_of_atMost hamount hzw
    have hle : units m e ≤ b := (atMost_iff_le hamount hb).1 hzw
    have hquotient : ∀ {d : Float} {n f hn}, unpacked d = .finite .positive n f hn →
        AmountsTo (unpacked (x / d)) (min limit (roundedRatio (a * 2 ^ 1074) (units n f))) := by
      intro d n f hn hd
      rw [unpacked_div, hd]
      exact ha.div (fits_unpacked x) hless (hd ▸ fits_unpacked d)
    rcases hb.cases with ⟨hw', rfl⟩ | ⟨s, -, rfl⟩ | ⟨n, f, hn, hw', rfl⟩
    · exact (atMost_iff_le (hinfinite hw') (hquotient hz')).2 (Nat.zero_le _)
    · exact absurd hle (units_pos hm).not_ge
    · rw [atMost_iff_le (hquotient hw') (hquotient hz')]
      exact min_le_min_left _ (roundedRatio_le_of_cross (units_pos hn) (units_pos hm)
        (Nat.mul_le_mul_left _ hle))

/-- A whole number has the nearest units. -/
theorem amountsTo_ofNat (n : Nat) :
    AmountsTo (unpacked (Quantity.ofNat n)) (nearest (units n 0)) := by
  by_cases hsmall : n < 2 ^ 53
  · rw [nearest_units_of_lt hsmall]
    exact IsWhole.ofNat hsmall
  · rw [ofNat_of_not_lt hsmall]
    exact amountsTo_ofScientific n

end Binary64

/-- Doubles have the laws of paces: whole numbers keep their order, and so do quotients by
speeds. -/
instance : PacedQuantity Float where
  ofNat_atMost_ofNat {m n} h := by
    rw [Binary64.atMost_iff_le (Binary64.amountsTo_ofNat m) (Binary64.amountsTo_ofNat n)]
    exact Binary64.nearest_mono (Nat.mul_le_mul_right _ h)
  div_speed_atMost hx hv hvw hfinite :=
    Binary64.div_atMost_div_left hx (Binary64.speed_atMost_speed hv hvw)
      (Binary64.unsigned_unpacked_speed hv) hfinite

end BusNetwork
