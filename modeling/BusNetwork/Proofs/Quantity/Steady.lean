import BusNetwork.Proofs.Quantity.Binary64
import BusNetwork.Proofs.Quantity.Quotient

/-!
# Steady quantities: shorter roads take no longer

`MonotoneQuantity` adds to the laws of journey times that sums keep the order of both their parts.
So **less and less adds up to no more** (`AtMost.add`).

`SteadyQuantity` has this because its sums do not depend on the order of their two parts, and its
ride times keep the order of the roads: a shorter road takes no more minutes at the same speed
(`Settings.rideMinutes_mono`). Rounding takes neither away, so 64-bit floating point has both.
-/

namespace BusNetwork

open Quantity

/-- The laws of journey times, and that sums keep the order of their second part as well. -/
class MonotoneQuantity (α : Type) [Quantity α] : Prop extends TravelQuantity α where
  /-- A sum of amounts is at least its second part. -/
  atMost_add_left {x w : α} : AtMost zero x → AtMost zero w → AtMost w (x + w)
  /-- Adding to the same amount keeps the order. -/
  add_atMost_add_left {x w v : α} :
    AtMost zero x → AtMost zero w → AtMost w v → AtMost (x + w) (x + v)

/-- The laws of journey times, and that sums and ride times keep the order of their parts. -/
class SteadyQuantity (α : Type) [Quantity α] : Prop extends TravelQuantity α where
  /-- It does not matter which of two quantities is added to the other. -/
  add_comm (x y : α) : x + y = y + x
  /-- A larger amount over a positive speed, taken in other units, is no smaller. -/
  div_atMost_div {x y v : α} : AtMost zero x → AtMost x y → isFinite v = true → zero < v →
    isFinite (y / (v * ofNat 1000 / ofNat 60)) = true →
    AtMost (x / (v * ofNat 1000 / ofNat 60)) (y / (v * ofNat 1000 / ofNat 60))

/-- A steady quantity is monotone, for its sums do not depend on the order of their terms. -/
instance {α : Type} [Quantity α] [SteadyQuantity α] : MonotoneQuantity α where
  atMost_add_left {x w} hx hw := by
    rw [SteadyQuantity.add_comm]
    exact OrderedQuantity.atMost_add hw hx
  add_atMost_add_left {x w v} hx hw hwv := by
    rw [SteadyQuantity.add_comm x, SteadyQuantity.add_comm x]
    exact OrderedQuantity.add_atMost_add hw hx hwv

namespace Quantity

variable {α : Type} [Quantity α] [MonotoneQuantity α] {x y w v : α}

/-- The sum of smaller amounts is no larger. -/
theorem AtMost.add (hx : AtMost zero x) (hw : AtMost zero w) (hxy : AtMost x y)
    (hwv : AtMost w v) : AtMost (x + w) (y + v) :=
  (OrderedQuantity.add_atMost_add hx hw hxy).trans
    (MonotoneQuantity.add_atMost_add_left (hx.trans hxy) hw hwv)

/-- Both parts of a sum of amounts that is finite are finite. -/
theorem isFinite_of_add (hx : AtMost zero x) (hw : AtMost zero w)
    (h : isFinite (x + w) = true) : isFinite x = true ∧ isFinite w = true :=
  ⟨OrderedQuantity.isFinite_of_atMost hx (OrderedQuantity.atMost_add hx hw) h,
    OrderedQuantity.isFinite_of_atMost hw (MonotoneQuantity.atMost_add_left hx hw) h⟩

end Quantity

section

variable {α : Type} [Quantity α] [SteadyQuantity α] {settings : Settings α} {x y : α}

/-- A shorter road takes no more minutes. -/
theorem Settings.rideMinutes_mono (hs : settings.check = .ok ()) (hx : AtMost zero x)
    (hxy : AtMost x y) (hfinite : isFinite (settings.rideMinutes y) = true) :
    AtMost (settings.rideMinutes x) (settings.rideMinutes y) := by
  obtain ⟨hspeed, hpos⟩ := check_eq_ok_iff.1 hs
  exact SteadyQuantity.div_atMost_div hx hxy hspeed hpos hfinite

end

/-! ## 64-bit floating point -/

namespace Binary64

open Float.Model (Format UnpackedFloat)

variable {x y z : Float}

/-- Dividing by an unsigned number keeps the order of amounts, where it gives a finite one. -/
theorem div_atMost_div (hx : AtMost zero x) (hxy : AtMost x y) (hz : Unsigned (unpacked z))
    (hfinite : isFinite (y / z) = true) : AtMost (x / z) (y / z) := by
  obtain ⟨a, ha⟩ := zero_atMost_iff.1 hx
  obtain ⟨b, hb⟩ := exists_amountsTo_of_atMost ha hxy
  have hle : a ≤ b := (atMost_iff_le ha hb).1 hxy
  obtain ⟨hless, hcases⟩ := hb.of_isFinite_div (fits_unpacked y) hz hfinite
  rcases hcases with hd | ⟨n, f, hn, hd⟩
  · -- Over an infinite divisor both are zero.
    obtain ⟨s, hzero⟩ := ha.div_infinity (hle.trans_lt hless)
    obtain ⟨t, hzero'⟩ := hb.div_infinity hless
    have hx' : unpacked (x / z) = .zero s := by rw [unpacked_div, hd, hzero, repacked_zero]
    have hy' : unpacked (y / z) = .zero t := by rw [unpacked_div, hd, hzero', repacked_zero]
    rw [atMost_iff, hx', hy']
    exact ⟨nofun, nofun, le_rfl⟩
  · have hfits : Fits (.finite .positive n f hn) := hd ▸ fits_unpacked z
    have hdiv : ∀ {w : Float} {c : Nat}, AmountsTo (unpacked w) c → c < limit →
        AmountsTo (unpacked (w / z)) (min limit (roundedRatio (c * 2 ^ 1074) (units n f))) := by
      intro w c hc hless
      rw [unpacked_div, hd]
      exact hc.div (fits_unpacked w) hless hfits
    rw [atMost_iff_le (hdiv ha (hle.trans_lt hless)) (hdiv hb hless)]
    exact min_le_min_left _ (roundedRatio_mono (units_pos hn) (Nat.mul_le_mul_right _ hle))

end Binary64

/-- Doubles have the laws of steady quantities: sums commute, and quotients keep the order. -/
instance : SteadyQuantity Float where
  add_comm x y := by
    apply Binary64.unpacked_inj
    rw [Binary64.unpacked_add, Binary64.unpacked_add, Binary64.sum_comm]
  div_atMost_div hx hxy _ hv hfinite :=
    Binary64.div_atMost_div hx hxy (Binary64.unsigned_unpacked_speed hv) hfinite

end BusNetwork
