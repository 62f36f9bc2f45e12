import BusNetwork.Proofs.JourneyGraph.Agreement
import BusNetwork.Proofs.Quantity.Steady
import BusNetwork.Proofs.Quantity.Whole
import BusNetwork.Proofs.Route.Shortening

/-!
# Edges whose weights are finite

Recorded lengths are finite and not negative, and settings that pass their check have a finite
positive speed. In 64-bit floating point **this does not make ride times finite**: a road can be too
long to be added up, and too long for its speed (`exists_endless_ride`). A stop behind such a ride
counts as unreachable.

No weight is negative, and **all weights are finite exactly if each bus takes a finite time for its
whole length** (`weights_finite_iff`). That length is the one in the statistics of the bus.
-/

namespace BusNetwork

open Quantity

namespace Binary64

variable {x y z : Float}

/-- The difference of a finite amount and a smaller one is an amount, and at most the larger. -/
theorem sub_atMost (hx : AtMost zero x) (hxy : AtMost x y) (hy : isFinite y = true) :
    AtMost zero (y - x) ∧ AtMost (y - x) y := by
  obtain ⟨a, ha⟩ := zero_atMost_iff.1 hx
  obtain ⟨b, hb⟩ := exists_amountsTo_of_atMost ha hxy
  have hle : a ≤ b := (atMost_iff_le ha hb).1 hxy
  have hsub : AmountsTo (unpacked (y - x)) (nearest (b - a)) := by
    rw [unpacked_sub]
    exact ha.sub (fits_unpacked x) (fits_unpacked y) hb hle ((isFinite_iff_lt hb).1 hy)
  refine ⟨zero_atMost_iff.2 ⟨_, hsub⟩, (atMost_iff_le hsub hb).2 ?_⟩
  calc
    nearest (b - a) ≤ nearest b := nearest_mono (Nat.sub_le b a)
    _ = b := hb.nearest_eq (fits_unpacked y)

/-- Only a finite amount has a finite quotient by an unsigned number. -/
theorem isFinite_of_div (hx : AtMost zero x) (hz : Unsigned (unpacked z))
    (h : isFinite (x / z) = true) : isFinite x = true := by
  obtain ⟨a, ha⟩ := zero_atMost_iff.1 hx
  exact (isFinite_iff_lt ha).2 (ha.of_isFinite_div (fits_unpacked x) hz h).1

/-- Quantities of the same value are finite together. -/
theorem isFinite_iff_of_sameValue (h : SameValue x y) :
    isFinite x = true ↔ isFinite y = true := by
  rcases h with rfl | h
  · exact Iff.rfl
  · obtain ⟨hx, hy, hvalue⟩ := beq_iff.1 h
    have hfinite : isFinite x = true ↔ unpacked x ≠ .notANumber ∧
        -(limit : Int) < value (unpacked x) ∧ value (unpacked x) < limit :=
      isFinite_iff (fits_unpacked x)
    have hfinite' : isFinite y = true ↔ unpacked y ≠ .notANumber ∧
        -(limit : Int) < value (unpacked y) ∧ value (unpacked y) < limit :=
      isFinite_iff (fits_unpacked y)
    rw [hfinite, hfinite', hvalue]
    exact and_congr_left' (iff_of_true hx hy)

end Binary64

namespace JourneyGraph

variable {settings : Settings Float} {c : Catalogue Float} {g : JourneyGraph Float}

/-- A waiting time of 32 bits is finite. -/
theorem isFinite_waitMinutes (h : settings.busWaitTime < 2 ^ 32) :
    isFinite settings.waitMinutes = true := by
  have hwhole : Binary64.IsWhole settings.waitMinutes settings.busWaitTime :=
    Binary64.IsWhole.ofNat (by omega)
  exact (Binary64.isFinite_iff_lt hwhole).2 (Binary64.units_lt_limit_of_lt (by omega))

/-- A ride over part of a road takes a finite time if the whole road does. -/
theorem isFinite_rideMinutes_sub {x y road : Float} (hs : settings.check = .ok ())
    (hx : AtMost zero x) (hxy : AtMost x y) (hroad : AtMost y road)
    (h : isFinite (settings.rideMinutes road) = true) :
    isFinite (settings.rideMinutes (y - x)) = true := by
  obtain ⟨-, hpos⟩ := Settings.check_eq_ok_iff.1 hs
  have hy : AtMost zero y := hx.trans hxy
  have hfinite : isFinite road = true :=
    Binary64.isFinite_of_div (hy.trans hroad) (Binary64.unsigned_unpacked_speed hpos) h
  obtain ⟨hzero, hle⟩ :=
    Binary64.sub_atMost hx hxy (OrderedQuantity.isFinite_of_atMost hy hroad hfinite)
  have hless : AtMost (settings.rideMinutes (y - x)) (settings.rideMinutes road) :=
    Settings.rideMinutes_mono hs hzero (hle.trans hroad) h
  have hamount : AtMost zero (settings.rideMinutes (y - x)) :=
    TravelQuantity.zero_atMost_div hzero (Settings.check_eq_ok_iff.1 hs).1 hpos hless.left
  exact OrderedQuantity.isFinite_of_atMost hamount hless h

/-- The road along a whole traversal takes as long as the length of the bus in its statistics. -/
theorem exists_whole_road (hc : c.WellFormed) (hg : build settings c = .value g) {bus : BusId}
    {name : String} {line : Bus} (hbus : c.buses.at? bus = some (name, line))
    (htwo : 2 ≤ line.traversal.length) : ∃ s road, c.busInfo name = .value s ∧
      c.roadTo? line (line.traversal.length - 1) = some road ∧
      SameValue (settings.rideMinutes road) (settings.rideMinutes s.routeLength) := by
  obtain ⟨milestones, hbuilt⟩ := exists_built_served hc hg
  obtain ⟨lengths, hlengths⟩ := exists_forall₂ ((of_build hg).2 bus name line hbus)
  have hroad := roadTo?_last hlengths
  obtain ⟨s, hinfo, -, ⟨id, edge, hedge, hlabel⟩, hsame⟩ :=
    exists_statistics_of_build hc hg hbus htwo
  refine ⟨s, _, hinfo, hroad, ?_⟩
  have hminutes := hsame id edge hedge hlabel
  rwa [hbuilt.weight_of_whole_ride hbus htwo hedge hlabel hroad, SummedQuantity.sub_zero]
    at hminutes

/-- **All weights are finite exactly if each bus takes a finite time for its whole length.** None of
them is negative. -/
theorem weights_finite_iff (hc : c.Reachable) (hwait : settings.busWaitTime < 2 ^ 32)
    (hg : build settings c = .value g) :
    (∀ edge ∈ g.graph.edges, IsNumber edge.weight → AtMost zero edge.weight) ∧
    ((∀ edge ∈ g.graph.edges, isFinite edge.weight = true ∧ AtMost zero edge.weight) ↔
      ∀ bus name line, c.buses.at? bus = some (name, line) → 2 ≤ line.traversal.length →
        ∀ s, c.busInfo name = .value s → isFinite (settings.rideMinutes s.routeLength) = true) := by
  have hwell := hc.wellFormed
  obtain ⟨milestones, hbuilt⟩ := exists_built_served hwell hg
  have hweight : ∀ edge ∈ g.graph.edges, IsNumber edge.weight → AtMost zero edge.weight := by
    intro edge hmem
    obtain ⟨id, hid⟩ := Array.mem_iff_getElem?.1 hmem
    exact hbuilt.noNegativeWeight hwell hid
  refine ⟨hweight, ?_, ?_⟩
  · intro hfinite bus name line hbus htwo s hinfo
    obtain ⟨s', hinfo', -, ⟨id, edge, hedge, hlabel⟩, hsame⟩ :=
      exists_statistics_of_build hwell hg hbus htwo
    obtain rfl : s' = s := Outcome.value.inj (hinfo'.symm.trans hinfo)
    exact (Binary64.isFinite_iff_of_sameValue (hsame id edge hedge hlabel)).1
      (hfinite edge (Array.mem_of_getElem? hedge)).1
  · intro hwhole edge hmem
    obtain ⟨id, hid⟩ := Array.mem_iff_getElem?.1 hmem
    suffices hfinite : isFinite edge.weight = true from
      ⟨hfinite, hweight edge hmem (OrderedQuantity.isNumber_of_isFinite hfinite)⟩
    obtain ⟨leg, hleg, rfl, -⟩ := hbuilt.exists_leg hid
    rcases hbuilt.mem_legs_iff.1 hleg with ⟨stop, -, rfl⟩ |
      ⟨bus, name, line, hbus, i, j, boarding, leaving, hij, hi, hj, hx, hy, rfl⟩
    · exact isFinite_waitMinutes hwait
    · -- the ride over the whole traversal is an edge too, and it covers this one
      have hlt : j < line.traversal.length := (List.getElem?_eq_some_iff.1 hj).1
      have htwo : 2 ≤ line.traversal.length := by omega
      obtain ⟨s, road, hinfo, hroad, hminutes⟩ := exists_whole_road hwell hg hbus htwo
      obtain ⟨hzero, hle⟩ := hwell.roadTo?_mono (Nat.le_of_lt hij) hx hy
      exact isFinite_rideMinutes_sub hbuilt.check_settings hzero hle
        (hwell.roadTo?_mono (by omega) hy hroad).2
        ((Binary64.isFinite_iff_of_sameValue hminutes).2 (hwhole bus name line hbus htwo s hinfo))

/-- The bus on the avenue covers three kilometers, and nothing there takes forever. -/
theorem weights_finite_avenue :
    avenueCatalogue.routeLength ⟨[0, 1, 2], .thereAndBack⟩ = .value 3000 ∧
      ∀ edge ∈ avenueJourneys.graph.edges,
        isFinite edge.weight = true ∧ AtMost zero edge.weight := by
  have hsum : avenueCatalogue.routeLength ⟨[0, 1, 2], .thereAndBack⟩ = .value 3000 := by
    decide +kernel
  obtain ⟨-, hfinite⟩ :=
    weights_finite_iff reachable_avenueCatalogue (by decide) build_avenueCatalogue
  refine ⟨hsum, hfinite.2 fun bus name line hbus htwo s hs => ?_⟩
  have hlength : s.routeLength = 3000 := by
    have hbuses : avenueCatalogue.buses.entries = [("1", ⟨[0, 1, 2], .thereAndBack⟩)] := by
      decide +kernel
    have hmem := List.mem_of_getElem? hbus
    rw [hbuses, List.mem_singleton] at hmem
    obtain ⟨rfl, rfl⟩ := Prod.mk.inj hmem
    obtain ⟨s', hs', hroad, -⟩ :=
      exists_statistics_of_build reachable_avenueCatalogue.wellFormed build_avenueCatalogue hbus
        htwo
    obtain rfl : s' = s := Outcome.value.inj (hs'.symm.trans hs)
    exact Outcome.value.inj (hroad.symm.trans hsum)
  rw [hlength]
  decide +kernel

/-- Three stops with a bus along two roads whose lengths together are too large a number. -/
def planets : List (BaseRequest Float) :=
  [.stop "Moon" 55.5 37.5 [("Mars", 1e308)], .stop "Mars" 55.5 37.5 [("Jupiter", 1e308)],
    .stop "Jupiter" 55.5 37.5 [], .bus "1" ["Moon", "Mars", "Jupiter"] true]

/-- **A ride can take forever though the road under it and the time for that are finite.** What the
bus has covered before is too much to be added up, and then the one stop counts as unreachable from
the other. -/
theorem exists_endless_ride :
    (Catalogue.loaded planets).Reachable ∧ Catalogue.express.check = .ok () ∧
      ∃ g edge, build Catalogue.express (Catalogue.loaded planets) = .value g ∧
        g.graph.edges[5]? = some edge ∧ g.labels[5]? = some (.ride 0 1) ∧
        isFinite edge.weight = false ∧
        (Catalogue.loaded planets).distance? 1 2 = some 1e308 ∧
        isFinite (Catalogue.express.rideMinutes 1e308) = true ∧
        g.shortestRoute (Catalogue.loaded planets) 1 2 = .failed .unreachable := by
  refine ⟨Catalogue.reachable_of_ofRequests
    (show Catalogue.ofRequests planets = .value _ by decide +kernel), by decide +kernel,
    Catalogue.journeys Catalogue.express (Catalogue.loaded planets), ⟨3, 4, 1 / 0⟩, ?_⟩
  decide +kernel

end JourneyGraph

end BusNetwork
