import BusNetwork.Proofs.Quantity.Pace
import BusNetwork.Proofs.Route.Shortening

/-!
# Faster service

Buses that are waited for less long and drive no slower take nobody longer: **under such settings
every connection is at least as fast** (`Reachable.exists_route_of_faster`). The stops, the buses
and the roads are the same, so each journey is compared with itself.

Of the numbers this asks that they are paced (`PacedQuantity`). Sums need not be exact, nor need
they be the same however they are bracketed.
-/

namespace BusNetwork

open Quantity

variable {α : Type} [Quantity α] [PacedQuantity α] {slow fast : Settings α} {c : Catalogue α}

namespace Settings

variable {x : α}

/-- A shorter waiting time is no longer in minutes. -/
theorem waitMinutes_atMost (h : fast.busWaitTime ≤ slow.busWaitTime) :
    AtMost fast.waitMinutes slow.waitMinutes :=
  PacedQuantity.ofNat_atMost_ofNat h

/-- A road takes no more minutes at a higher speed. -/
theorem rideMinutes_atMost (hs : slow.check = .ok ())
    (hspeed : AtMost slow.busVelocity fast.busVelocity) (hx : AtMost zero x)
    (hfinite : isFinite (slow.rideMinutes x) = true) :
    AtMost (fast.rideMinutes x) (slow.rideMinutes x) := by
  obtain ⟨-, hpos⟩ := check_eq_ok_iff.1 hs
  exact PacedQuantity.div_speed_atMost hx hpos hspeed hfinite

end Settings

/-- **No wait and no ride takes longer under faster settings.** -/
theorem Catalogue.WellFormed.noSlower_of_faster (hc : c.WellFormed) (hs : slow.check = .ok ())
    (hwait : fast.busWaitTime ≤ slow.busWaitTime)
    (hspeed : AtMost slow.busVelocity fast.busVelocity) : NoSlower slow fast c c := by
  refine ⟨Settings.waitMinutes_atMost hwait, id, ?_⟩
  intro bus name line i j x y hbus hij _ hx hy hfinite
  refine ⟨hbus, x, y, hx, hy, ?_⟩
  obtain ⟨hzero, hle⟩ := hc.roadTo?_mono (Nat.le_of_lt hij) hx hy
  have hnumber : IsNumber (slow.rideMinutes (y - x)) := OrderedQuantity.isNumber_of_isFinite hfinite
  have hroad : AtMost zero (y - x) :=
    TravelQuantity.zero_atMost_sub hzero hle (TravelQuantity.isNumber_of_div hnumber)
  exact Settings.rideMinutes_atMost hs hspeed hroad hfinite

/-- **Faster service slows no connection.** If buses are waited for no longer and drive no slower,
wherever there was a route there is one that takes no longer. -/
theorem Catalogue.Reachable.exists_route_of_faster (hc : c.Reachable)
    (hwait : fast.busWaitTime ≤ slow.busWaitTime)
    (hspeed : AtMost slow.busVelocity fast.busVelocity) {g g' : JourneyGraph α}
    (hg : JourneyGraph.build slow c = .value g) (hg' : JourneyGraph.build fast c = .value g')
    (a b : StopId) (route : Route α) (hroute : g.shortestRoute c a b = .value route) :
    ∃ route', g'.shortestRoute c a b = .value route' ∧
      AtMost route'.totalTime route.totalTime := by
  have hwell : c.WellFormed := hc.wellFormed
  have hslower : NoSlower slow fast c c :=
    hwell.noSlower_of_faster (JourneyGraph.of_build hg).1 hwait hspeed
  exact hslower.exists_route hwell hwell hg hg' hroute

/-- Along the avenue the express takes no more time than the bus at standard settings. -/
theorem exists_route_of_faster_avenue : ∃ route,
    (Catalogue.journeys Catalogue.express JourneyGraph.avenueCatalogue).shortestRoute
      JourneyGraph.avenueCatalogue 0 2 = .value route ∧ AtMost route.totalTime 8.25 := by
  have hwait :
      Catalogue.express.busWaitTime ≤ (Settings.standard : Settings Float).busWaitTime := by
    decide
  have hspeed : AtMost Settings.standard.busVelocity Catalogue.express.busVelocity := by
    decide +kernel
  have hbuild : JourneyGraph.build Catalogue.express JourneyGraph.avenueCatalogue =
      .value (Catalogue.journeys Catalogue.express JourneyGraph.avenueCatalogue) := by
    decide +kernel
  have hfaster := JourneyGraph.reachable_avenueCatalogue.exists_route_of_faster hwait hspeed
    JourneyGraph.build_avenueCatalogue hbuild 0 2 _ JourneyGraph.shortestRoute_avenue
  exact hfaster

end BusNetwork
