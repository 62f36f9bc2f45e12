import BusNetwork.Proofs.Bus
import BusNetwork.Proofs.Route.Comparison

/-!
# One network within another

`Catalogue.Embedding c c'` sends the stops and buses of one catalogue to those of another that have
the same names, run alike, and are joined by roads of the same length. **Every journey of the one is
a journey of the other**, in the same time and told in the same words (`Embedding.journey`), so the
routes of the other are no slower (`Embedding.exists_route`).

The positions of stops and buses need not be the same; so an embedding into a catalogue with more
buses and one into a catalogue that was filled in another order are alike.
-/

set_option linter.unusedSectionVars false

namespace BusNetwork

open Quantity

variable {α : Type} [Quantity α] {settings : Settings α} {c c' : Catalogue α}

namespace Catalogue

/-- Where the stops and buses of a catalogue are found in another. -/
structure Embedding (c c' : Catalogue α) where
  /-- The place of a stop. -/
  stop : StopId → StopId
  /-- The place of a bus. -/
  bus : BusId → BusId
  /-- A stop has the same name in its place. -/
  stopName? {s : StopId} {name : String} :
    c.stopName? s = some name → c'.stopName? (stop s) = some name
  /-- A stop stands where it stood. -/
  coordinates? {s : StopId} {p : Coordinates α} :
    c.coordinates? s = some p → c'.coordinates? (stop s) = some p
  /-- A bus has the same name in its place and runs alike. -/
  at?_bus {b : BusId} {name : String} {line : Bus} :
    c.buses.at? b = some (name, line) → c'.buses.at? (bus b) = some (name, line.map stop)
  /-- Stops that are joined by a road are joined by one of the same length in their places. -/
  distance? {a b : StopId} {meters : α} : a < c.stops.size → b < c.stops.size →
    c.distance? a b = some meters → c'.distance? (stop a) (stop b) = some meters

namespace Embedding

variable (e : Embedding c c')

/-- Roads along a bus are as long in its place. -/
theorem roadTo?_map (hc : c.WellFormed) {b : BusId} {name : String} {line : Bus}
    (hb : c.buses.at? b = some (name, line)) {p : Nat} {x : α} (h : c.roadTo? line p = some x) :
    c'.roadTo? (line.map e.stop) p = some x := by
  unfold roadTo? at h ⊢
  rw [Bus.hops_map, ← List.map_take]
  refine foldlM_addHop?_map (fun hop hmem meters hmeters => ?_) h
  obtain ⟨hfirst, hsecond⟩ := hc.lt_of_mem_hops hb (List.mem_of_mem_take hmem)
  exact e.distance? hfirst hsecond hmeters

/-- **Every journey is a journey in its place.** -/
theorem journey (hc : c.WellFormed) {origin stop : StopId} {time : α} {items : List (RouteItem α)}
    (h : Journey settings c origin stop time items) :
    Journey settings c' (e.stop origin) (e.stop stop) time items := by
  induction h with
  | stay => exact .stay
  | ride _ hname hbus hij hi hj hx hy ih =>
      refine .ride ih (e.stopName? hname) (e.at?_bus hbus) hij ?_ ?_ (e.roadTo?_map hc hbus hx)
        (e.roadTo?_map hc hbus hy)
      · rw [Bus.traversal_map, List.getElem?_map, hi]
        rfl
      · rw [Bus.traversal_map, List.getElem?_map, hj]
        rfl

end Embedding

end Catalogue

namespace JourneyGraph

variable {g : JourneyGraph α} {a b : StopId}

variable [TravelQuantity α]

/-- The total of a route is an amount, and not negative zero. -/
theorem zero_add_totalTime (hc : c.WellFormed) (hg : build settings c = .value g)
    {route : Route α} (hroute : g.shortestRoute c a b = .value route) :
    zero + route.totalTime = route.totalTime := by
  by_cases hab : a = b
  · subst hab
    rw [shortestRoute_self, Outcome.value.injEq] at hroute
    subst hroute
    exact OrderedQuantity.zero_add_zero
  · rcases shortestRoute_cases hc hg hab with ⟨found, hfound, hjourney, hamount, -⟩ | ⟨hnone, -⟩
    · obtain rfl : found = route := Outcome.value.inj (hfound.symm.trans hroute)
      exact (hjourney.amount hc (of_build hg).1 hamount.right).2
    · rw [hnone] at hroute
      cases hroute

end JourneyGraph

namespace Catalogue

namespace Embedding

variable (e : Embedding c c')

/-- **Where there is a route there is one in its place, and it takes no longer.** -/
theorem exists_route [TravelQuantity α] (hc : c.WellFormed) (hc' : c'.WellFormed)
    {g g' : JourneyGraph α} (hg : JourneyGraph.build settings c = .value g)
    (hg' : JourneyGraph.build settings c' = .value g') {a b : StopId} {route : Route α}
    (hroute : g.shortestRoute c a b = .value route) :
    ∃ route', g'.shortestRoute c' (e.stop a) (e.stop b) = .value route' ∧
      AtMost route'.totalTime route.totalTime := by
  refine JourneyGraph.exists_route_of_journeys hc hc' hg hg' (congrArg e.stop) ?_ hroute
  intro time items hjourney hfinite
  have hnumber : IsNumber time := OrderedQuantity.isNumber_of_isFinite hfinite
  exact ⟨time, items, e.journey hc hjourney, hnumber.atMost_self⟩

/-- A catalogue is found within itself with a bus more. -/
def ofAddBus (hc : c.WellFormed) {name : String} (hnew : c.findBus name = none)
    {stopNames : List String} {kind : RouteKind} {bus : BusId}
    (h : c.addBus name stopNames kind = .value (bus, c')) : Embedding c c' where
  stop := id
  bus := id
  stopName? {s n} hs := by
    rw [id, (stopName?_addBus hc h s).1]
    exact hs
  coordinates? {s p} hs := by
    rw [id, (stopName?_addBus hc h s).2]
    exact hs
  at?_bus {b n line} hb := by
    obtain ⟨listed, -, hbuses, -⟩ := of_addBus hc h
    have hne : n ≠ name := by
      rintro rfl
      rw [findBus_eq] at hnew
      exact Register.position?_eq_none_iff.1 hnew b line hb
    rw [hbuses, Bus.map_id]
    exact Register.at?_put_of_ne hb hne _
  distance? {a b meters} _ _ hmeters := by
    obtain ⟨listed, -, -, hdistances, -⟩ := of_addBus hc h
    unfold Catalogue.distance?
    rw [hdistances]
    exact hmeters

end Embedding

/-- **A bus more slows no connection.** A bus of a new name over registered stops can be registered,
and if the journeys of the network can be built before and after, every route from before has a
route after that takes no longer. -/
theorem Reachable.exists_route_addBus [TravelQuantity α] (hc : c.Reachable) {name : String}
    (hnew : c.findBus name = none) {stopNames : List String}
    (hstops : ∀ n ∈ stopNames, ∃ stop, c.findStop n = some stop) (kind : RouteKind)
    (settings : Settings α) :
    ∃ bus c', c.addBus name stopNames kind = .value (bus, c') ∧
      ∀ g g', JourneyGraph.build settings c = .value g →
        JourneyGraph.build settings c' = .value g' →
        ∀ a b route, g.shortestRoute c a b = .value route →
          ∃ route', g'.shortestRoute c' a b = .value route' ∧
            AtMost route'.totalTime route.totalTime := by
  have hwell : c.WellFormed := hc.wellFormed
  obtain ⟨bus, c', hadd⟩ := exists_addBus hwell name kind hstops
  refine ⟨bus, c', hadd, ?_⟩
  intro g g' hg hg' a b route hroute
  exact (Embedding.ofAddBus hwell hnew hadd).exists_route hwell (hwell.addBus hadd) hg hg' hroute

/-- The avenue with a shuttle over its second half. -/
def avenueWithShuttle : Catalogue Float :=
  match JourneyGraph.avenueCatalogue.addBus "2" ["Bridge", "Castle"] .thereAndBack with
  | .value (_, c) => c
  | _ => .empty

/-- The journeys of the avenue with the shuttle. -/
def shuttleJourneys : JourneyGraph Float :=
  match JourneyGraph.build .standard avenueWithShuttle with
  | .value g => g
  | _ => ⟨.ofVertexCount 0, #[], #[]⟩

/-- With the shuttle, the avenue is passed in no more time than before. -/
theorem exists_route_addBus_avenue : ∃ route,
    shuttleJourneys.shortestRoute avenueWithShuttle 0 2 = .value route ∧
      AtMost route.totalTime 8.25 := by
  have hstops : ∀ n ∈ ["Bridge", "Castle"],
      ∃ stop, JourneyGraph.avenueCatalogue.findStop n = some stop := by
    rw [List.forall_mem_cons, List.forall_mem_singleton]
    exact ⟨⟨1, by decide +kernel⟩, 2, by decide +kernel⟩
  obtain ⟨bus, c', hadd, hroutes⟩ := JourneyGraph.reachable_avenueCatalogue.exists_route_addBus
    (show JourneyGraph.avenueCatalogue.findBus "2" = none by decide +kernel) hstops .thereAndBack
    .standard
  have hshuttle : JourneyGraph.avenueCatalogue.addBus "2" ["Bridge", "Castle"] .thereAndBack =
      .value (1, avenueWithShuttle) := by
    decide +kernel
  have hpair : (bus, c') = (1, avenueWithShuttle) := Outcome.value.inj (hadd.symm.trans hshuttle)
  obtain rfl : c' = avenueWithShuttle := congrArg Prod.snd hpair
  have hbuild : JourneyGraph.build .standard avenueWithShuttle = .value shuttleJourneys := by
    decide +kernel
  have hroute := hroutes _ _ JourneyGraph.build_avenueCatalogue hbuild 0 2 _
    JourneyGraph.shortestRoute_avenue
  exact hroute

end Catalogue

end BusNetwork
