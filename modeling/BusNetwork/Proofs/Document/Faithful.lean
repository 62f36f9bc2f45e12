import BusNetwork.Proofs.Catalogue.Lengths
import BusNetwork.Proofs.Document.Written
import BusNetwork.Proofs.Quantity.Range
import BusNetwork.Proofs.Route.Shortening

/-!
# Faithful numbers: what a response tells of a bus

A response tells the length of a bus in whole meters and its curvature as it is. No length of a
road is infinite, but their sum and its quotient by the length as the crow flies may leave the range
of what can be told. A length from `2 ^ 64` meters on is told as `2 ^ 64 - 1` (`IsSaturated`), and a
curvature that is not finite is written as nothing (`HasNull`).

**Elsewhere the numbers are faithful** (`ofAnswer_tellsFaithfully_iff`): the fraction of a meter is
dropped and nothing else, and the curvature is a finite amount. A bus that is shorter than `2 ^ 64`
meters by road has a curvature unless it covers less than `2 ^ -959` meters as the crow flies.
-/

namespace BusNetwork

open Quantity Json

/-! ## Curvatures -/

namespace Catalogue

variable {road straight : Float}

/-- The curvature is finite unless it is a quotient out of range. -/
theorem isFinite_curvature_iff (hroad : AtMost zero road) :
    isFinite (curvature road straight) = true ↔
      (zero < straight → Binary64.QuotientFits road straight) := by
  unfold curvature
  split
  · next hpos => rw [Binary64.isFinite_div_iff hroad hpos, forall_prop_of_true hpos]
  · next hnot => exact ⟨fun _ hpos => absurd hpos hnot, fun _ => OrderedQuantity.isFinite_zero⟩

/-- A curvature that is finite is an amount. -/
theorem zero_atMost_curvature (hroad : AtMost zero road)
    (h : isFinite (curvature road straight) = true) : AtMost zero (curvature road straight) := by
  unfold curvature at h ⊢
  split
  · next hpos =>
      rw [if_pos hpos] at h
      exact Binary64.zero_atMost_div hroad hpos h
  · exact zero_atMost_zero

end Catalogue

/-! ## What a response tells -/

/-- So many meters and such a curvature are faithful to what is known of a bus. -/
structure BusStatistics.Faithful (s : BusStatistics Float) (curvature : Float) (meters : Nat) :
    Prop where
  /-- There are no fewer meters. -/
  meters_le : meters ≤ Binary64.toRat s.routeLength
  /-- There is no whole meter more. -/
  lt_meters : Binary64.toRat s.routeLength < meters + 1
  /-- The curvature is the known one. -/
  curvature_eq : curvature = s.curvature
  /-- It is not negative. -/
  zero_atMost : AtMost zero curvature
  /-- It is finite. -/
  isFinite : isFinite curvature = true

namespace Response

/-- A response is about a bus, and its numbers are faithful to what is known of it. -/
def TellsFaithfully (s : BusStatistics Float) : Response Float → Prop
  | bus _ curvature meters _ _ => s.Faithful curvature meters
  | _ => False

/-- The length in a response is the last number of 64 bits. -/
def IsSaturated : Response Float → Prop
  | bus _ _ meters _ _ => meters = 2 ^ 64 - 1
  | _ => False

/-- What is written for some member of a response is read back as nothing. -/
def HasNull (response : Response Float) : Prop :=
  ∃ members, response.toValue = .object members ∧ ∃ m ∈ members, treeOf m.2 = .null

/-- Only what is not finite is written as nothing. -/
theorem treeOf_floatValue_eq_null_iff (x : Float) :
    treeOf (floatValue x) = .null ↔ ¬ isFinite x = true := by
  have htells : TellsFloat x (treeOf (floatValue x)) := tellsFloat_floatValue x
  unfold TellsFloat at htells
  split at htells
  · next h =>
      obtain ⟨token, htoken⟩ := htells
      refine iff_of_false (fun hnull => ?_) (not_not.2 h)
      rw [htoken] at hnull
      cases hnull
  · next h => exact iff_of_true htells h

/-- Whole numbers are written as numbers. -/
theorem treeOf_integer_ne_null (n : Int) : treeOf (.number (.integer n)) ≠ .null := by
  intro h
  rw [treeOf, numberTree_integer] at h
  cases h

/-- Only the curvature of a bus can be written as nothing. -/
theorem hasNull_bus_iff {id : Int} {curvature : Float} {meters served different : Nat} :
    (bus id curvature meters served different).HasNull ↔ ¬ isFinite curvature = true := by
  have hmembers : (bus id curvature meters served different).HasNull ↔
      ∃ m ∈ ("request_id", Value.number (.integer id)) ::
        (bus id curvature meters served different).members, treeOf m.2 = .null := by
    constructor
    · rintro ⟨_, ⟨rfl⟩, h⟩
      exact h
    · exact fun h => ⟨_, rfl, h⟩
  rw [hmembers]
  simp only [members, List.exists_mem_cons_iff, countValue, treeOf_integer_ne_null,
    treeOf_floatValue_eq_null_iff, List.not_mem_nil, false_and, exists_false, false_or, or_false]

/-- **The numbers of a bus are faithful exactly if its length is not the last number of 64 bits and
its curvature is not nothing.** The length is that number from `2 ^ 64` meters on. The curvature is
nothing if the length as the crow flies is positive and the quotient by it out of range; below
`2 ^ 64` meters by road that takes less than `2 ^ -959` meters as the crow flies. -/
theorem ofAnswer_tellsFaithfully_iff {c : Catalogue Float} (hc : c.Reachable) {name : String}
    {s : BusStatistics Float} (hs : c.busInfo name = .value s) (id : Int) :
    ∃ line straight, c.buses.get? name = some line ∧ c.routeLength line = .value s.routeLength ∧
      (c.geographicLength line : Outcome (CatalogueError Float) Float) = .value straight ∧
      AtMost zero s.routeLength ∧
      ((ofAnswer id (.bus s)).TellsFaithfully s ↔
        ¬ (ofAnswer id (.bus s)).IsSaturated ∧ ¬ (ofAnswer id (.bus s)).HasNull) ∧
      ((ofAnswer id (.bus s)).IsSaturated ↔ 2 ^ 64 ≤ Binary64.toRat s.routeLength) ∧
      ((ofAnswer id (.bus s)).HasNull ↔
        zero < straight ∧ ¬ Binary64.QuotientFits s.routeLength straight) ∧
      ((ofAnswer id (.bus s)).HasNull → ¬ (ofAnswer id (.bus s)).IsSaturated →
        Binary64.toRat straight * 2 ^ 959 < 1) := by
  have hwell := hc.wellFormed
  obtain ⟨line, straight, hline, hroad, hstraight, hcurvature⟩ :=
    Catalogue.exists_lengths_of_busInfo hs
  have hamount : AtMost zero s.routeLength := hwell.zero_atMost_routeLength hline hroad
  have hsaturated : (ofAnswer id (.bus s)).IsSaturated ↔ 2 ^ 64 ≤ Binary64.toRat s.routeLength :=
    Binary64.wholePart_eq_last_iff hamount
  have hnull : (ofAnswer id (.bus s)).HasNull ↔
      zero < straight ∧ ¬ Binary64.QuotientFits s.routeLength straight := by
    rw [ofAnswer, hasNull_bus_iff, hcurvature, Catalogue.isFinite_curvature_iff hamount]
    exact Classical.not_imp
  refine ⟨line, straight, hline, hroad, hstraight, hamount, ?_, hsaturated, hnull, ?_⟩
  · rw [hsaturated, not_le, ← Binary64.lt_wholePart_add_one_iff hamount, ofAnswer, hasNull_bus_iff,
      not_not]
    constructor
    · exact fun h => ⟨h.lt_meters, h.isFinite⟩
    · rintro ⟨hlt, hfinite⟩
      refine ⟨Binary64.wholePart_le hamount, hlt, rfl, ?_, hfinite⟩
      rw [hcurvature] at hfinite ⊢
      exact Catalogue.zero_atMost_curvature hamount hfinite
  · intro h hless
    rw [hsaturated, not_le] at hless
    by_contra hle
    exact (hnull.1 h).2 (.of_lt hamount hless (not_lt.1 hle))

/-- Two stops at one place, and a bus from one to the other by a road of such a length. -/
def detour (meters : Float) : List (BaseRequest Float) :=
  [.stop "Arrivals" 55.5 37.5 [("Departures", meters)], .stop "Departures" 55.5 37.5 [],
    .bus "1" ["Arrivals", "Departures"] true]

/-- Half a meter is dropped. -/
theorem ofAnswer_tellsFaithfully_detour :
    (Catalogue.loaded (detour 1000.5)).Reachable ∧
      ∃ s, (Catalogue.loaded (detour 1000.5)).busInfo "1" = .value s ∧
        ofAnswer 7 (.bus s) = .bus 7 0 1000 2 2 ∧ (ofAnswer 7 (.bus s)).TellsFaithfully s := by
  have hreachable : (Catalogue.loaded (detour 1000.5)).Reachable :=
    Catalogue.reachable_of_ofRequests
      (show Catalogue.ofRequests (detour 1000.5) = .value _ by decide +kernel)
  have hs : (Catalogue.loaded (detour 1000.5)).busInfo "1" = .value ⟨2, 2, 1000.5, 0⟩ := by
    decide +kernel
  have hresponse : ofAnswer 7 (.bus ⟨2, 2, 1000.5, 0⟩) = .bus 7 (0 : Float) 1000 2 2 := by
    decide +kernel
  obtain ⟨line, straight, -, -, -, -, hfaithful, -⟩ :=
    ofAnswer_tellsFaithfully_iff hreachable hs 7
  refine ⟨hreachable, _, hs, hresponse, hfaithful.2 ?_⟩
  rw [hresponse, hasNull_bus_iff, not_not]
  exact ⟨by unfold IsSaturated; decide, by decide⟩

/-- **A road may be too long to be told.** The description is accepted, the bus has its length, and
what is told is less than a fifth of it. -/
theorem exists_unfaithful :
    (Catalogue.loaded (detour 1e20)).Reachable ∧
      ∃ s, (Catalogue.loaded (detour 1e20)).busInfo "1" = .value s ∧
        Binary64.toRat s.routeLength = 10 ^ 20 ∧
        ofAnswer 7 (.bus s) = .bus 7 0 18446744073709551615 2 2 ∧
        ¬ (ofAnswer 7 (.bus s)).TellsFaithfully s := by
  have hresponse : ofAnswer 7 (.bus ⟨2, 2, 1e20, 0⟩) =
      .bus 7 (0 : Float) 18446744073709551615 2 2 := by
    decide +kernel
  have hlength : Binary64.toRat 1e20 = 10 ^ 20 := by
    have hvalue : Binary64.value (Binary64.unpacked 1e20) = 10 ^ 20 * 2 ^ 1074 := by
      decide +kernel
    rw [Binary64.toRat, hvalue, Int.cast_mul, Int.cast_pow, Int.cast_pow]
    exact mul_div_cancel_right₀ _ (pow_ne_zero _ two_ne_zero)
  refine ⟨Catalogue.reachable_of_ofRequests
    (show Catalogue.ofRequests (detour 1e20) = .value _ by decide +kernel), ⟨2, 2, 1e20, 0⟩,
    by decide +kernel, hlength, hresponse, ?_⟩
  rw [hresponse]
  intro h
  have hlt : Binary64.toRat 1e20 < 18446744073709551615 + 1 := h.lt_meters
  rw [hlength] at hlt
  norm_num at hlt

end Response

end BusNetwork
