import BusNetwork.Proofs.Route.Shortening
import BusNetwork.Proofs.Search.Trace

/-!
# Changing buses on the way

A passenger who changes at a stop and asks again from the start of the journey for the way to that
stop is told the part of the route up to there. **The first steps of a route are the route to the
stop where they lead** (`shortestRoute_stopover`), with the same times, although each answer comes
from a search of its own that ends at its own target. Nothing is asked of the numbers.
-/

set_option linter.unusedSectionVars false

namespace BusNetwork.JourneyGraph

open Quantity

variable {α : Type} [Quantity α] {settings : Settings α} {c : Catalogue α} {g : JourneyGraph α}
  {a b : StopId} {served : List StopId} {milestones : List (List (Milestone α))}

/-- A route between different stops is what a search tells. -/
theorem Built.exists_tells_of_shortestRoute (hc : c.WellFormed)
    (hg : Built settings c served milestones g) (hab : a ≠ b) {route : Route α}
    (hroute : g.shortestRoute c a b = .value route) :
    a ∈ served ∧ b ∈ served ∧ ∃ way waited,
      Search.shortest g.graph (verticesOf served a).wait (verticesOf served b).wait =
        .value (route.totalTime, way) ∧
      Tells settings c served g a b route.totalTime route.items waited way := by
  by_cases hserved : a ∈ served ∧ b ∈ served
  · obtain ⟨ha, hb⟩ := hserved
    rcases Search.exists_way_or_unreachable hg.wellFormed (hg.wait_lt ha) (hg.wait_lt hb) with
      ⟨total, way, hshortest, hway⟩ | hshortest
    · obtain ⟨items, waited, hroute', htells⟩ := hg.exists_route_of_way hc hab ha hb hshortest hway
      obtain rfl := Outcome.value.inj (hroute'.symm.trans hroute)
      exact ⟨ha, hb, way, waited, hshortest, htells⟩
    · rw [shortestRoute_of_unreachable hg hab ha hb hshortest] at hroute
      cases hroute
  · rw [shortestRoute_of_not_served hg hab hserved] at hroute
    cases hroute

/-- Where an even number of edges of an answer has been followed the next one is a wait, and the
route to the stop of this wait is what those edges tell. -/
theorem Built.exists_route_of_passed (hc : c.WellFormed) (hg : Built settings c served milestones g)
    (ha : a ∈ served) (hb : b ∈ served) {total : α} {before after : List EdgeId} {id : EdgeId}
    (hshortest : Search.shortest g.graph (verticesOf served a).wait (verticesOf served b).wait =
      .value (total, before ++ id :: after)) (heven : before.length % 2 = 0) :
    ∃ stop name time items, c.stopName? stop = some name ∧ (before = [] → stop = a) ∧
      g.item c id = some (.wait name settings.waitMinutes) ∧ before.mapM (g.item c) = some items ∧
      time = items.foldl (fun spent item => spent + item.time) zero ∧
      g.shortestRoute c a stop = .value ⟨time, items⟩ := by
  obtain ⟨edge, spent, hedge, hway, hanswer⟩ :=
    Search.shortest_of_passed hg.wellFormed (hg.wait_lt ha) (hg.wait_lt hb) hshortest
  obtain ⟨stop, time, items, waited, ⟨hstop, rfl, htells⟩ |
    ⟨before, waitId, _, -, -, rfl, htells, -⟩⟩ := hg.tells hc ha hway
  · obtain ⟨-, -, name, hname, hitem⟩ := hg.wait_of_edge hc hedge htells.mem_served hstop
    rw [hstop] at hway hanswer
    have hstart : before = [] → stop = a := by
      rintro rfl
      obtain rfl : [] = items := Option.some.inj htells.items_eq
      exact htells.journey.rideable.symm
    refine ⟨stop, name, spent, items, hname, hstart, hitem, htells.items_eq,
      htells.journey.time_eq, ?_⟩
    by_cases hsame : a = stop
    · subst hsame
      obtain rfl := Search.eq_nil_of_shortest_self hg.wellFormed (hg.wait_lt ha) hanswer
      obtain rfl : [] = items := Option.some.inj htells.items_eq
      rw [shortestRoute_self, Route.stay, htells.journey.time_eq]
      rfl
    · obtain ⟨items', waited', hroute, htells'⟩ :=
        hg.exists_route_of_way hc hsame ha htells.mem_served hanswer hway
      obtain rfl := Option.some.inj (htells.items_eq.symm.trans htells'.items_eq)
      exact hroute
  · -- after a wait an odd number of edges has been followed
    have hlength := (mapM_eq_some_iff.1 htells.items_eq).length_eq
    have hsteps := htells.journey.even_length
    rw [List.length_append, List.length_singleton] at heven
    omega

/-- **Where the passenger of a route changes, the route to that stop is the first part of the whole
route**, and takes the sum of the times of its steps. -/
theorem shortestRoute_stopover (hc : c.Reachable) (hbuild : build settings c = .value g)
    (hab : a ≠ b) {route : Route α} (hroute : g.shortestRoute c a b = .value route) :
    Rideable settings c a route.items b ∧ ∀ k, 2 * k < route.items.length →
      ∃ name stop, route.items[2 * k]? = some (.wait name settings.waitMinutes) ∧
        c.findStop name = some stop ∧ (k = 0 → stop = a) ∧
        g.shortestRoute c a stop = .value
          ⟨(route.items.take (2 * k)).foldl (fun spent item => spent + item.time) zero,
            route.items.take (2 * k)⟩ := by
  have hwell : c.WellFormed := hc.wellFormed
  obtain ⟨served, milestones, hg⟩ := exists_built hwell hbuild
  obtain ⟨ha, hb, way, waited, hshortest, htells⟩ :=
    hg.exists_tells_of_shortestRoute hwell hab hroute
  refine ⟨htells.journey.rideable, fun k hk => ?_⟩
  have hitems := mapM_eq_some_iff.1 htells.items_eq
  have hlt : 2 * k < way.length := hitems.length_eq ▸ hk
  have hsplit : way = way.take (2 * k) ++ way[2 * k] :: way.drop (2 * k + 1) := by simp
  rw [hsplit] at hshortest
  have heven : (way.take (2 * k)).length % 2 = 0 := by
    rw [List.length_take_of_le (Nat.le_of_lt hlt), Nat.mul_mod_right]
  obtain ⟨stop, name, time, items, hname, hstart, hitem, hbefore, rfl, hanswer⟩ :=
    hg.exists_route_of_passed hwell ha hb hshortest heven
  obtain rfl : items = route.items.take (2 * k) :=
    Option.some.inj (hbefore.symm.trans (mapM_eq_some_iff.2 (List.forall₂_take _ hitems)))
  obtain ⟨item, hat, hitem'⟩ :=
    exists_getElem?_of_forall₂ hitems.flip (List.getElem?_eq_getElem hlt)
  obtain rfl := Option.some.inj (hitem.symm.trans hitem')
  refine ⟨name, stop, hat, (Catalogue.findStop_eq_some_iff hwell.stops_distinct).2 hname, ?_,
    hanswer⟩
  rintro rfl
  exact hstart rfl

/-- Three stops in a row, with one bus over the first hop and another over the second. -/
def relay : List (BaseRequest Float) :=
  [.stop "Airport" 55.5 37.25 [("Bridge", 1000)], .stop "Bridge" 55.5 37.5 [("Castle", 500)],
    .stop "Castle" 55.5 37.75 [], .bus "1" ["Airport", "Bridge"] false,
    .bus "2" ["Bridge", "Castle"] false]

/-- Whoever changes at the bridge has taken the bus that leads there from the airport fastest. -/
theorem shortestRoute_stopover_relay :
    (Catalogue.journeys .standard (Catalogue.loaded relay)).shortestRoute (Catalogue.loaded relay)
        0 2 = .value ⟨14.25, [.wait "Airport" 6, .ride "1" 1 1.5, .wait "Bridge" 6,
          .ride "2" 1 0.75]⟩ ∧
      (Catalogue.journeys .standard (Catalogue.loaded relay)).shortestRoute (Catalogue.loaded relay)
        0 1 = .value ⟨zero + 6 + 1.5, [.wait "Airport" 6, .ride "1" 1 1.5]⟩ := by
  have hc : (Catalogue.loaded relay).Reachable :=
    Catalogue.reachable_of_ofRequests (show Catalogue.ofRequests relay = .value _ by decide +kernel)
  have hbuild : build .standard (Catalogue.loaded relay) =
      .value (Catalogue.journeys .standard (Catalogue.loaded relay)) := by decide +kernel
  have hroute : (Catalogue.journeys .standard (Catalogue.loaded relay)).shortestRoute
      (Catalogue.loaded relay) 0 2 = .value ⟨14.25, [.wait "Airport" 6, .ride "1" 1 1.5,
        .wait "Bridge" 6, .ride "2" 1 0.75]⟩ := by decide +kernel
  have hstops : (0 : StopId) ≠ 2 := by decide
  obtain ⟨name, stop, hitem, hstop, -, hpart⟩ :=
    (shortestRoute_stopover hc hbuild hstops hroute).2 1 (by decide)
  obtain ⟨rfl, -⟩ := RouteItem.wait.inj (Option.some.inj hitem)
  have hbridge : (Catalogue.loaded relay).findStop "Bridge" = some 1 := by decide +kernel
  obtain rfl : stop = 1 := Option.some.inj (hstop.symm.trans hbridge)
  exact ⟨hroute, hpart⟩

end BusNetwork.JourneyGraph
