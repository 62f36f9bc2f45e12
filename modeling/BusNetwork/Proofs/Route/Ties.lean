import BusNetwork.Proofs.Route.Stopovers
import BusNetwork.Proofs.Search.Ties

/-!
# Which of the fastest journeys is told

Among equally fast ways to reach a vertex the one whose last edge was added first should win
(`Graph.FirstWins`). **Routes keep to this rule but for journeys that end in a wait and a ride which
take no time** (`shortestRoute_isBest`). Where there is such a journey the rule can be broken
(`not_firstWins_piers`): its last edge is followed only after the vertex was settled.
-/

set_option linter.unusedSectionVars false

namespace BusNetwork

open Quantity

variable {α : Type} [Quantity α]

/-- The rule for ties: of the ways to a vertex that take no longer than a time, none ends with an
edge that was added before a given one. -/
def Graph.FirstWins (g : Graph α) (source vertex : VertexId) (time : α) (id : EdgeId) : Prop :=
  ∀ total way last, g.Way source vertex total (way ++ [last]) → AtMost total time → id ≤ last

namespace JourneyGraph

variable {settings : Settings α} {c : Catalogue α} {g : JourneyGraph α} {a b : StopId}
  {served : List StopId} {milestones : List (List (Milestone α))}

/-- The waits come first, by stop, and lead from the first to the second vertex of it. The rides
come after them and lead from the second vertex of a stop to the first vertex of one. -/
theorem Built.wait_or_ride (hg : Built settings c served milestones g) {id : EdgeId}
    {edge : Edge α} (hedge : g.graph.edges[id]? = some edge) :
    (∃ stop, served[id]? = some stop ∧ edge.source = (verticesOf served stop).wait ∧
      edge.target = (verticesOf served stop).ride) ∨
    (served.length ≤ id ∧ ∃ s t, s ∈ served ∧ edge.source = (verticesOf served s).ride ∧
      edge.target = (verticesOf served t).wait) := by
  rw [← Array.getElem?_toList, hg.edges_eq, List.getElem?_map, Option.map_eq_some_iff] at hedge
  obtain ⟨leg, hleg, rfl⟩ := hedge
  rw [legs] at hleg
  by_cases hid : id < served.length
  · rw [List.getElem?_append_left (by simpa using hid), List.getElem?_map,
      Option.map_eq_some_iff] at hleg
    obtain ⟨stop, hstop, rfl⟩ := hleg
    exact .inl ⟨stop, hstop, rfl, rfl⟩
  · have hlater : served.length ≤ id := Nat.le_of_not_lt hid
    rw [List.getElem?_append_right (by simpa using hlater)] at hleg
    obtain ⟨entry, hentry, hride⟩ := List.mem_flatMap.1 (List.mem_of_getElem? hleg)
    obtain ⟨i, j, boarding, leaving, -, hi, -, rfl⟩ := Leg.mem_rides.1 hride
    refine .inr ⟨hlater, boarding.stop, leaving.stop, ?_, rfl, rfl⟩
    obtain ⟨⟨name, line⟩, hbus, heq⟩ := exists_getElem?_of_forall₂ hg.milestones_eq
      (List.mk_mem_zipIdx_iff_getElem?.1 hentry)
    exact hg.mem_served_iff.2 ⟨entry.2, name, line, hbus,
      Milestone.stop_mem_traversal heq (List.mem_of_getElem? hi)⟩

/-- **A way that is as fast and ends with an edge that was added before** has spent all of its time
when it comes to the stop where its last ride starts. -/
theorem Built.exists_spent_of_lt [TravelQuantity α] (hc : c.WellFormed)
    (hg : Built settings c served milestones g) {id last : EdgeId} {edge : Edge α} {time total : α}
    (hedge : g.graph.edges[id]? = some edge)
    (hbest : Search.Best g.graph (verticesOf served a).wait edge.target ⟨time, some id⟩)
    {other : List EdgeId}
    (hway : g.graph.Way (verticesOf served a).wait edge.target total (other ++ [last]))
    (hle : AtMost total time) (hlast : last < id) :
    ∃ stop passed wait spent, stop ∈ served ∧ other = passed ++ [wait] ∧
      g.graph.Way (verticesOf served a).wait (verticesOf served stop).wait spent passed ∧
      AtMost time spent := by
  obtain ⟨before, full, after, fullEdge, most, hsplit, -, hmost, hspent, hfirst⟩ :=
    hbest.first rfl hway hle
  obtain ⟨final, atRide, hfinal, htarget, hother, rfl⟩ := hway.exists_of_concat
  rcases hg.wait_or_ride hfinal with ⟨stop, hstop, -, hend⟩ | ⟨hride, stop, -, hstop, hsource, hend⟩
  · -- the second vertex of a stop is entered by its wait only
    exfalso
    rcases hg.wait_or_ride hedge with ⟨stop', hstop', -, hend'⟩ | ⟨-, -, t, -, -, hend'⟩
    · rw [← htarget, hend] at hend'
      obtain rfl := ride_inj (List.mem_of_getElem? hstop) hend'
      obtain ⟨hlt, -⟩ := List.getElem?_eq_some_iff.1 hstop
      have hsame : last = id := (List.getElem?_inj hlt hg.nodup_served).1 (hstop.trans hstop'.symm)
      exact Nat.ne_of_lt hlast hsame
    · rw [← htarget, hend] at hend'
      exact wait_ne_ride served _ _ hend'.symm
  rw [hsource] at hother
  rcases List.eq_nil_or_concat other with rfl | ⟨passed, wait, rfl⟩
  · exact absurd (Graph.Way.start.unique hother).1 (wait_ne_ride served a stop)
  rw [List.concat_eq_append] at hother hsplit ⊢
  obtain ⟨waitEdge, atStop, hwait, hentered, hpassed, rfl⟩ := hother.exists_of_concat
  rcases hg.wait_or_ride hwait with ⟨stop', hstop', hleft, hentered'⟩ | ⟨-, -, t, -, -, hentered'⟩
  · rw [hentered] at hentered'
    have hserved : stop' ∈ served := List.mem_of_getElem? hstop'
    obtain ⟨hwaitLt, -⟩ := List.getElem?_eq_some_iff.1 hstop'
    have hearlier : wait < last := Nat.lt_of_lt_of_le hwaitLt hride
    rw [hleft] at hpassed
    refine ⟨stop', passed, wait, atStop, hserved, rfl, hpassed, ?_⟩
    -- the edge at which all of the time is spent is neither the last ride nor the wait before it
    rcases Search.eq_or_exists_of_concat hsplit with ⟨rfl, -⟩ | ⟨rest, hrest⟩
    · exact absurd (Nat.lt_of_lt_of_le hlast hfirst) (Nat.lt_irrefl _)
    rcases Search.eq_or_exists_of_concat hrest with ⟨rfl, -⟩ | ⟨rest, rfl⟩
    · exact absurd (Nat.lt_of_lt_of_le (Nat.lt_trans hearlier hlast) hfirst) (Nat.lt_irrefl _)
    rw [List.append_cons] at hpassed
    have hnumber := (OrderedQuantity.isNumber_of_add (OrderedQuantity.isNumber_of_add hle.left).1).1
    exact hspent.trans (Search.atMost_of_append (hg.noNegativeWeight hc) hpassed hnumber hmost)
  · rw [hentered] at hentered'
    exact absurd hentered'.symm (wait_ne_ride served _ _)

/-- **Which of the fastest journeys is told.** Every vertex on the way of a route is reached in the
best way, by the edge that the way enters it by; and of the ways there that take no longer only such
end with an edge that was added before as have spent all of the time when they come to the stop
where their last ride starts. -/
theorem shortestRoute_isBest [TravelQuantity α] (hc : c.Reachable)
    (hbuild : build settings c = .value g) (hab : a ≠ b) {route : Route α}
    (hroute : g.shortestRoute c a b = .value route) :
    ∃ origin target way, g.vertices? a = some origin ∧ g.vertices? b = some target ∧
      Search.shortest g.graph origin.wait target.wait = .value (route.totalTime, way) ∧
      way.mapM (g.item c) = some route.items ∧
      ∀ before id after, way = before ++ id :: after → ∃ edge time,
        g.graph.edges[id]? = some edge ∧
        g.graph.Way origin.wait edge.target time (before ++ [id]) ∧
        Search.Best g.graph origin.wait edge.target ⟨time, some id⟩ ∧
        ∀ total other last, g.graph.Way origin.wait edge.target total (other ++ [last]) →
          AtMost total time → last < id →
          ∃ stop v passed wait spent, g.vertices? stop = some v ∧ other = passed ++ [wait] ∧
            g.graph.Way origin.wait v.wait spent passed ∧ AtMost time spent := by
  have hwell : c.WellFormed := hc.wellFormed
  obtain ⟨served, milestones, hg⟩ := exists_built hwell hbuild
  obtain ⟨ha, hb, way, waited, hshortest, htells⟩ :=
    hg.exists_tells_of_shortestRoute hwell hab hroute
  refine ⟨verticesOf served a, verticesOf served b, way, hg.vertices?_eq.trans (if_pos ha),
    hg.vertices?_eq.trans (if_pos hb), hshortest, htells.items_eq, ?_⟩
  rintro before id after rfl
  obtain ⟨edge, time, hedge, hway, hbest⟩ := Search.shortest_isBest hg.wellFormed
    (hg.noNegativeWeight hwell) (hg.wait_lt ha) (hg.wait_lt hb) hshortest
  refine ⟨edge, time, hedge, hway, hbest, fun total other last hother hle hlast => ?_⟩
  obtain ⟨stop, passed, wait, spent, hstop, hsplit, hpassed, hspent⟩ :=
    hg.exists_spent_of_lt hwell hedge hbest hother hle hlast
  exact ⟨stop, _, passed, wait, spent, hg.vertices?_eq.trans (if_pos hstop), hsplit, hpassed,
    hspent⟩

/-- A harbour, two piers at one place, a bus from the southern to the northern one, and a bus from
the harbour to the northern and on to the southern one. -/
def piers : List (BaseRequest Float) :=
  [.stop "Harbour" 55.5 37.25 [("North pier", 1000)], .stop "North pier" 55.5 37.5 [],
    .stop "South pier" 55.5 37.5 [("North pier", 0)], .bus "1" ["South pier", "North pier"] true,
    .bus "2" ["Harbour", "North pier", "South pier"] true]

/-- The catalogue of the piers. -/
def pierCatalogue : Catalogue Float := .loaded piers

/-- The journeys between the piers for passengers who never wait. -/
def pierJourneys : JourneyGraph Float := Catalogue.journeys Catalogue.express pierCatalogue

/-- The network at the piers is reached by its operations. -/
theorem reachable_pierCatalogue : pierCatalogue.Reachable :=
  Catalogue.reachable_of_ofRequests
    (show Catalogue.ofRequests piers = .value pierCatalogue by decide +kernel)

/-- The journeys at the piers are what is built of their network. -/
theorem build_pierCatalogue : build Catalogue.express pierCatalogue = .value pierJourneys := by
  decide +kernel

/-- From the harbour to the northern pier the bus is ridden there. -/
theorem shortestRoute_piers : pierJourneys.shortestRoute pierCatalogue 0 1 =
    .value ⟨1, [.wait "Harbour" 0, .ride "2" 1 1]⟩ := by
  decide +kernel

/-- The fastest way from the harbour to the north pier takes the edges 2 and 4, though another takes
as long. -/
theorem shortest_piers : pierJourneys.vertices? 0 = some ⟨4, 5⟩ ∧
    pierJourneys.vertices? 1 = some ⟨2, 3⟩ ∧ pierJourneys.graph.edges[4]? = some ⟨5, 2, 1⟩ ∧
    Search.shortest pierJourneys.graph 4 2 = .value (1, [2, 4]) := by
  decide +kernel

/-- It takes no longer to ride on to the southern pier and back on the other bus, whose ride was
added before. -/
theorem way_piers : pierJourneys.graph.Way 4 2 1 [2, 4] ∧
    pierJourneys.graph.Way 4 2 1 [2, 5, 0, 3] := by
  have hwait : pierJourneys.graph.edges[2]? = some ⟨4, 5, 0⟩ := by decide +kernel
  have hride : pierJourneys.graph.edges[5]? = some ⟨5, 0, 1⟩ := by decide +kernel
  have hchange : pierJourneys.graph.edges[0]? = some ⟨0, 1, 0⟩ := by decide +kernel
  have hback : pierJourneys.graph.edges[3]? = some ⟨1, 2, 0⟩ := by decide +kernel
  have hwaited := Graph.Way.start.follow hwait rfl
  constructor
  · have htotal : zero + 0 + 1 = (1 : Float) := by decide +kernel
    rw [← htotal]
    exact hwaited.follow shortest_piers.2.2.1 rfl
  · have htotal : zero + 0 + 1 + 0 + 0 = (1 : Float) := by decide +kernel
    rw [← htotal]
    exact ((hwaited.follow hride rfl).follow hchange rfl).follow hback rfl

/-- The journey by the southern pier comes there when all of the time is spent. -/
theorem shortestRoute_isBest_piers : ∃ stop v spent, pierJourneys.vertices? stop = some v ∧
    pierJourneys.graph.Way 4 v.wait spent [2, 5] ∧ AtMost 1 spent := by
  have hstops : (0 : StopId) ≠ 1 := by decide
  obtain ⟨hfrom, hto, hride, hpiers⟩ := shortest_piers
  obtain ⟨origin, target, way, horigin, htarget, hshortest, -, hbest⟩ :=
    shortestRoute_isBest reachable_pierCatalogue build_pierCatalogue hstops shortestRoute_piers
  obtain rfl := Option.some.inj (hfrom.symm.trans horigin)
  obtain rfl := Option.some.inj (hto.symm.trans htarget)
  obtain ⟨-, rfl⟩ := Prod.mk.inj (Outcome.value.inj (hpiers.symm.trans hshortest))
  obtain ⟨edge, time, hedge, hway, -, hspent⟩ := hbest [2] 4 [] rfl
  obtain rfl := Option.some.inj (hride.symm.trans hedge)
  obtain ⟨-, rfl⟩ := way_piers.1.unique hway
  have hle : AtMost (1 : Float) 1 := by decide +kernel
  obtain ⟨stop, v, passed, wait, spent, hv, hsplit, hpassed, hall⟩ :=
    hspent 1 [2, 5, 0] 3 way_piers.2 hle (by decide)
  obtain ⟨rfl, -⟩ := List.append_inj' (show [2, 5] ++ [0] = passed ++ [wait] from hsplit) rfl
  exact ⟨stop, v, spent, hv, hpassed, hall⟩

/-- **The rule for ties can be broken.** From the harbour the northern pier is told to be reached by
the last edge, although no journey takes less than one that ends with an edge that was added
before. -/
theorem not_firstWins_piers : pierCatalogue.Reachable ∧
    build Catalogue.express pierCatalogue = .value pierJourneys ∧
    pierJourneys.shortestRoute pierCatalogue 0 1 =
      .value ⟨1, [.wait "Harbour" 0, .ride "2" 1 1]⟩ ∧
    pierJourneys.vertices? 0 = some ⟨4, 5⟩ ∧ pierJourneys.vertices? 1 = some ⟨2, 3⟩ ∧
    Search.shortest pierJourneys.graph 4 2 = .value (1, [2, 4]) ∧
    (∀ total way, pierJourneys.graph.Way 4 2 total way → IsNumber total → AtMost 1 total) ∧
    ¬ pierJourneys.graph.FirstWins 4 2 1 4 := by
  obtain ⟨hfrom, hto, -, hpiers⟩ := shortest_piers
  have hwell : pierCatalogue.WellFormed := reachable_pierCatalogue.wellFormed
  obtain ⟨served, milestones, hg⟩ := exists_built hwell build_pierCatalogue
  have hcount : pierJourneys.graph.vertexCount = 6 := by decide +kernel
  refine ⟨reachable_pierCatalogue, build_pierCatalogue, shortestRoute_piers, hfrom, hto, hpiers,
    ?_, fun hfirst => ?_⟩
  · rcases Search.shortest_cases hg.wellFormed (hg.noNegativeWeight hwell)
      (show 4 < pierJourneys.graph.vertexCount by omega)
      (show 2 < pierJourneys.graph.vertexCount by omega) with
      ⟨total, way, hshortest, -, -, -, -, hleast⟩ | ⟨hnone, -⟩
    · obtain ⟨rfl, rfl⟩ := Prod.mk.inj (Outcome.value.inj (hpiers.symm.trans hshortest))
      exact hleast
    · rw [hpiers] at hnone
      cases hnone
  · have hle : AtMost (1 : Float) 1 := by decide +kernel
    have hlater := hfirst 1 [2, 5, 0] 3 way_piers.2 hle
    revert hlater
    decide

end JourneyGraph

end BusNetwork
