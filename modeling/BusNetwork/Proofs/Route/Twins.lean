import BusNetwork.Proofs.Route.Stopovers
import BusNetwork.Proofs.Search.FirstChoice

/-!
# Of buses that offer the same ride the first one is taken

Rides come into the journey graph bus by bus, in the order in which the buses were registered. So
**no route follows an edge for which there was an equal or a better one before**, and a bus that
runs like one that was registered before is never taken (`shortestRoute_firstChoice`). Whoever
registers the same service again under another name changes no route by it.

The search asks for a total order and for sums that keep the order of their second part
(`RankedQuantity`). The laws of journey times are there only to make no weight negative.
-/

set_option linter.unusedSectionVars false

namespace BusNetwork.JourneyGraph

open Quantity

variable {α : Type} [Quantity α] {settings : Settings α} {c : Catalogue α} {g : JourneyGraph α}
  {a b : StopId} {served : List StopId} {milestones : List (List (Milestone α))}

/-- The edges that a route follows: those that the search finds, told as the steps of the route.
From a stop to itself it follows none. -/
structure Follows (g : JourneyGraph α) (c : Catalogue α) (a b : StopId) (route : Route α)
    (way : List EdgeId) : Prop where
  /-- The steps are what the edges are called. -/
  items_eq : way.mapM (g.item c) = some route.items
  /-- From a stop to itself no edge is followed. -/
  eq_nil : a = b → way = []
  /-- Between different stops the search tells which. -/
  exists_shortest : a ≠ b → ∃ origin target, g.vertices? a = some origin ∧
    g.vertices? b = some target ∧
    Search.shortest g.graph origin.wait target.wait = .value (route.totalTime, way)

/-- Every route follows edges, and they are first choices. -/
theorem exists_follows [RankedQuantity α] (hc : c.WellFormed)
    (hg : Built settings c served milestones g) (hw : g.graph.NoNegativeWeight) {route : Route α}
    (hroute : g.shortestRoute c a b = .value route) :
    ∃ way, Follows g c a b route way ∧ ∀ id ∈ way, g.graph.FirstChoice id := by
  by_cases hab : a = b
  · subst hab
    rw [shortestRoute_self] at hroute
    obtain rfl := Outcome.value.inj hroute
    exact ⟨[], ⟨rfl, fun _ => rfl, fun hne => absurd rfl hne⟩, by simp⟩
  · obtain ⟨ha, hb, way, waited, hshortest, htells⟩ :=
      hg.exists_tells_of_shortestRoute hc hab hroute
    refine ⟨way, ⟨htells.items_eq, fun heq => absurd heq hab, fun _ => ⟨_, _,
      hg.vertices?_eq.trans (if_pos ha), hg.vertices?_eq.trans (if_pos hb), hshortest⟩⟩, ?_⟩
    exact Search.firstChoice_of_shortest hg.wellFormed hw (hg.wait_lt ha) (hg.wait_lt hb) hshortest

/-! ## Where the rides of a bus stand -/

/-- The legs of the first buses stand before those of the others. -/
theorem legs_append (settings : Settings α) (served : List StopId)
    (before after : List (List (Milestone α))) : legs settings served (before ++ after) =
      legs settings served before ++ (after.zipIdx before.length).flatMap fun entry =>
        Leg.rides settings (verticesOf served) entry.2 entry.1 := by
  rw [legs, legs, List.zipIdx_append, List.flatMap_append, List.append_assoc, Nat.zero_add]

/-- A ride is one of a bus that has milestones. -/
theorem lt_of_ride_mem_legs {leg : Leg α} {bus : BusId} {span : Nat}
    (hleg : leg ∈ legs settings served milestones) (hlabel : leg.label = .ride bus span) :
    bus < milestones.length := by
  rw [legs, List.mem_append, List.mem_map, List.mem_flatMap] at hleg
  rcases hleg with ⟨stop, -, rfl⟩ | ⟨⟨ms, k⟩, hentry, hride⟩
  · cases hlabel
  · obtain ⟨i, j, boarding, leaving, -, -, -, rfl⟩ := Leg.mem_rides.1 hride
    obtain ⟨rfl, -⟩ := EdgeLabel.ride.inj hlabel
    exact (List.getElem?_eq_some_iff.1 (List.mk_mem_zipIdx_iff_getElem?.1 hentry)).1

namespace Built

/-- An edge and its label are those of the leg at their place. -/
theorem getElem?_legs (hg : Built settings c served milestones g) {id : EdgeId} {edge : Edge α}
    {label : EdgeLabel} (hedge : g.graph.edges[id]? = some edge)
    (hlabel : g.labels[id]? = some label) :
    (legs settings served milestones)[id]? = some ⟨edge, label⟩ := by
  rw [← Array.getElem?_toList, hg.edges_eq, List.getElem?_map, Option.map_eq_some_iff] at hedge
  rw [← Array.getElem?_toList, hg.labels_eq, List.getElem?_map, Option.map_eq_some_iff] at hlabel
  obtain ⟨leg, hleg, rfl⟩ := hedge
  obtain ⟨leg', hleg', rfl⟩ := hlabel
  obtain rfl := Option.some.inj (hleg.symm.trans hleg')
  exact hleg

/-- The rides of a bus stand where no ride of a bus before it does. -/
theorem length_legs_le (hg : Built settings c served milestones g) {bus : BusId} {id : EdgeId}
    {edge : Edge α} {span : Nat} (hedge : g.graph.edges[id]? = some edge)
    (hlabel : g.labels[id]? = some (.ride bus span)) :
    (legs settings served (milestones.take bus)).length ≤ id := by
  have hleg := hg.getElem?_legs hedge hlabel
  rw [← List.take_append_drop bus milestones, legs_append] at hleg
  by_contra hlt
  rw [List.getElem?_append_left (Nat.lt_of_not_le hlt)] at hleg
  have hbefore : bus < (milestones.take bus).length :=
    lt_of_ride_mem_legs (List.mem_of_getElem? hleg) rfl
  exact absurd (List.length_take_le bus milestones) (Nat.not_le.2 hbefore)

/-- **What a bus offers was offered before by a bus of the same course** that was registered
before. -/
theorem exists_earlier_ride (hg : Built settings c served milestones g) {bus bus' : BusId}
    {name name' : String} {line : Bus} (hlt : bus < bus')
    (hbus : c.buses.at? bus = some (name, line)) (hbus' : c.buses.at? bus' = some (name', line))
    {id : EdgeId} {edge : Edge α} {span : Nat} (hedge : g.graph.edges[id]? = some edge)
    (hlabel : g.labels[id]? = some (.ride bus' span)) :
    ∃ other < id, g.graph.edges[other]? = some edge := by
  have hlast : (legs settings served (milestones.take bus')).length ≤ id :=
    hg.length_legs_le hedge hlabel
  have hleg := hg.getElem?_legs hedge hlabel
  rcases hg.mem_legs_iff.1 (List.mem_of_getElem? hleg) with ⟨stop, -, heq⟩ |
    ⟨bus'', name'', line'', hbus'', i, j, boarding, leaving, hij, hi, hj, hx, hy, heq⟩
  · cases congrArg Leg.label heq
  obtain ⟨rfl, rfl⟩ := EdgeLabel.ride.inj (congrArg Leg.label heq)
  obtain ⟨-, rfl⟩ := Prod.mk.inj (Option.some.inj (hbus'.symm.trans hbus''))
  -- the same ride of the bus that was registered before
  obtain ⟨ms, hms, hcourse⟩ := exists_getElem?_of_forall₂ hg.milestones_eq.flip hbus
  have hearlier : Leg.ride settings (verticesOf served) bus boarding leaving (j - i) ∈
      legs settings served (milestones.take bus') := by
    rw [legs, List.mem_append, List.mem_flatMap]
    refine .inr ⟨(ms, bus), ?_, Leg.mem_rides.2 ⟨i, j, boarding, leaving, hij, ?_, ?_, rfl⟩⟩
    · rw [List.mk_mem_zipIdx_iff_getElem?, List.getElem?_take_of_lt hlt]
      exact hms
    · exact (Milestone.getElem?_ofTraversal hcourse).2 ⟨hi, hx⟩
    · exact (Milestone.getElem?_ofTraversal hcourse).2 ⟨hj, hy⟩
  obtain ⟨other, hother⟩ := List.mem_iff_getElem?.1 hearlier
  have hbefore : other < (legs settings served (milestones.take bus')).length :=
    (List.getElem?_eq_some_iff.1 hother).1
  refine ⟨other, Nat.lt_of_lt_of_le hbefore hlast, ?_⟩
  rw [← Array.getElem?_toList, hg.edges_eq, ← List.take_append_drop bus' milestones, legs_append,
    List.getElem?_map, List.getElem?_append_left hbefore, hother]
  exact congrArg (fun leg => some leg.edge) heq.symm

end Built

/-- A step that rides a bus is called so for an edge of that bus. -/
theorem exists_ride_of_item (hc : c.WellFormed) {bus : BusId} {name : String} {line : Bus}
    (hbus : c.buses.at? bus = some (name, line)) {id : EdgeId} {span : Nat} {time : α}
    (h : g.item c id = some (.ride name span time)) :
    ∃ edge, g.graph.edges[id]? = some edge ∧ g.labels[id]? = some (.ride bus span) := by
  simp only [item, Option.bind_eq_bind, Option.bind_eq_some_iff] at h
  obtain ⟨edge, hedge, label, hlabel, hname⟩ := h
  refine ⟨edge, hedge, ?_⟩
  cases label with
  | wait stop =>
      obtain ⟨_, -, heq⟩ := Option.bind_eq_some_iff.1 hname
      cases heq
  | ride other span' =>
      obtain ⟨name', hother, heq⟩ := Option.bind_eq_some_iff.1 hname
      obtain ⟨rfl, rfl, -⟩ := RouteItem.ride.inj (Option.some.inj heq)
      obtain ⟨⟨_, line'⟩, hat, rfl⟩ := Option.map_eq_some_iff.1 hother
      obtain rfl : other = bus := hc.buses_distinct.position_eq hat hbus
      exact hlabel

/-- **No route follows an edge for which an equal or a better one was added before.** So no route
takes a bus that has the same stops and the same kind as one that was registered before. Zero,
equal, infinite and even undefined weights are no exception. -/
theorem shortestRoute_firstChoice [TravelQuantity α] [RankedQuantity α] (hc : c.Reachable)
    (hbuild : build settings c = .value g) {route : Route α}
    (hroute : g.shortestRoute c a b = .value route) :
    (∃ way, Follows g c a b route way ∧ ∀ id ∈ way, g.graph.FirstChoice id) ∧
      ∀ bus bus' name name' line, bus < bus' → c.buses.at? bus = some (name, line) →
        c.buses.at? bus' = some (name', line) →
        ∀ span time, .ride name' span time ∉ route.items := by
  have hwell : c.WellFormed := hc.wellFormed
  obtain ⟨served, milestones, hg⟩ := exists_built hwell hbuild
  obtain ⟨way, hfollows, hfirst⟩ := exists_follows hwell hg (hg.noNegativeWeight hwell) hroute
  refine ⟨⟨way, hfollows, hfirst⟩, ?_⟩
  intro bus bus' name name' line hlt hbus hbus' span time hmem
  obtain ⟨id, hid, hitem⟩ := exists_mem_of_forall₂ (mapM_eq_some_iff.1 hfollows.items_eq) hmem
  obtain ⟨edge, hedge, hlabel⟩ := exists_ride_of_item hwell hbus' hitem
  obtain ⟨other, hother, hsame⟩ := hg.exists_earlier_ride hlt hbus hbus' hedge hlabel
  obtain ⟨edge', hedge', hnumber, hnone⟩ := hfirst id hid
  obtain rfl := Option.some.inj (hedge.symm.trans hedge')
  exact hnone other edge hother hsame rfl rfl hnumber.atMost_self

/-- Two stops, and two buses of the same course between them. -/
def shuttle : List (BaseRequest Float) :=
  [.stop "Market" 55.5 37.25 [("Station", 500)], .stop "Station" 55.5 37.5 [],
    .bus "8" ["Market", "Station"] false, .bus "7" ["Market", "Station"] false]

/-- From the market to the station the bus is taken that was registered first. -/
theorem shortestRoute_firstChoice_shuttle :
    (Catalogue.journeys .standard (Catalogue.loaded shuttle)).shortestRoute
        (Catalogue.loaded shuttle) 0 1 = .value ⟨6.75, [.wait "Market" 6, .ride "8" 1 0.75]⟩ ∧
      (Catalogue.loaded shuttle).buses.at? 0 = some ("8", ⟨[0, 1], .thereAndBack⟩) ∧
      (Catalogue.loaded shuttle).buses.at? 1 = some ("7", ⟨[0, 1], .thereAndBack⟩) ∧
      ∀ span time, RouteItem.ride "7" span time ∉
        [RouteItem.wait "Market" (6 : Float), .ride "8" 1 0.75] := by
  have hc : (Catalogue.loaded shuttle).Reachable :=
    Catalogue.reachable_of_ofRequests
      (show Catalogue.ofRequests shuttle = .value _ by decide +kernel)
  have hbuild : build .standard (Catalogue.loaded shuttle) =
      .value (Catalogue.journeys .standard (Catalogue.loaded shuttle)) := by decide +kernel
  have hroute : (Catalogue.journeys .standard (Catalogue.loaded shuttle)).shortestRoute
      (Catalogue.loaded shuttle) 0 1 =
        .value ⟨6.75, [.wait "Market" 6, .ride "8" 1 0.75]⟩ := by decide +kernel
  have hfirst : (Catalogue.loaded shuttle).buses.at? 0 =
      some ("8", ⟨[0, 1], .thereAndBack⟩) := by decide +kernel
  have hsecond : (Catalogue.loaded shuttle).buses.at? 1 =
      some ("7", ⟨[0, 1], .thereAndBack⟩) := by decide +kernel
  obtain ⟨-, hnever⟩ := shortestRoute_firstChoice hc hbuild hroute
  exact ⟨hroute, hfirst, hsecond, hnever 0 1 "8" "7" _ (by decide) hfirst hsecond⟩

end BusNetwork.JourneyGraph
