import BusNetwork.Proofs.Journey
import BusNetwork.Proofs.Loading
import BusNetwork.Proofs.Quantity.Binary64

/-!
# Routes are fastest journeys

A search answers about ways through the graph, and the ways are the journeys; so **a route is a
journey of the network that takes no longer than any other, and there is none only where no journey
takes a finite time** (`JourneyGraph.shortestRoute_cases`).

`Rideable` reads the steps of a route from the front, as a passenger would.
-/

set_option linter.unusedSectionVars false

namespace BusNetwork

open Quantity

variable {α : Type} [Quantity α] {settings : Settings α} {c : Catalogue α} {g : JourneyGraph α}
  {a b : StopId}

/-! ## Steps that can be ridden -/

/-- Steps that lead from one stop to another: by turns a wait at the stop where one is, and a ride
on a bus from a position of that stop over a number of hops. -/
def Rideable (settings : Settings α) (c : Catalogue α) :
    StopId → List (RouteItem α) → StopId → Prop
  | stop, [], target => stop = target
  | stop, .wait stopName waiting :: .ride busName span riding :: later, target =>
    c.stopName? stop = some stopName ∧ waiting = settings.waitMinutes ∧
      ∃ (bus : BusId) (line : Bus) (i : Nat) (next : StopId) (x y : α),
        c.buses.at? bus = some (busName, line) ∧ 0 < span ∧ line.traversal[i]? = some stop ∧
        line.traversal[i + span]? = some next ∧ c.roadTo? line i = some x ∧
        c.roadTo? line (i + span) = some y ∧ riding = settings.rideMinutes (y - x) ∧
        Rideable settings c next later target
  | _, _, _ => False

/-- Steps are ridden one after the other. -/
theorem Rideable.append {s t u : StopId} {before after : List (RouteItem α)}
    (h : Rideable settings c s before t) (h' : Rideable settings c t after u) :
    Rideable settings c s (before ++ after) u := by
  fun_induction Rideable settings c s before t with
  | case1 stop target =>
      obtain rfl : stop = target := h
      exact h'
  | case2 stop stopName waiting busName span riding later target ih =>
      obtain ⟨hname, hwaiting, bus, line, i, next, x, y, hbus, hspan, hi, hj, hx, hy, hriding,
        hlater⟩ := h
      exact ⟨hname, hwaiting, bus, line, i, next, x, y, hbus, hspan, hi, hj, hx, hy, hriding,
        ih next hlater h'⟩
  | case3 => exact absurd h id

/-- The steps of a journey can be ridden. -/
theorem Journey.rideable {origin stop : StopId} {time : α} {items : List (RouteItem α)}
    (h : Journey settings c origin stop time items) : Rideable settings c origin items stop := by
  induction h with
  | stay => rfl
  | @ride s t time x y items stopName busName bus line i j _ hname hbus hij hi hj hx hy ih =>
      have hspan : i + (j - i) = j := Nat.add_sub_of_le (Nat.le_of_lt hij)
      refine ih.append ⟨hname, rfl, bus, line, i, t, x, y, hbus, Nat.sub_pos_of_lt hij, hi, ?_, hx,
        ?_, rfl, rfl⟩
      · rw [hspan]
        exact hj
      · rw [hspan]
        exact hy

namespace JourneyGraph

/-! ## No stop is waited at twice -/

namespace Built

variable {served : List StopId} {milestones : List (List (Milestone α))}

/-- A way that passes no vertex twice tells a journey that waits at no stop twice, and not at the
last one. -/
theorem nodup_waits (hc : c.WellFormed) {origin stop : StopId} {time : α}
    {items : List (RouteItem α)} {waited : List StopId} {way : List EdgeId}
    (h : Tells settings c served g origin stop time items waited way)
    (hnodup : (g.graph.visited (verticesOf served origin).wait way).Nodup) {name : String}
    (hname : c.stopName? stop = some name) :
    (items.filterMap RouteItem.waitsAt ++ [name]).Nodup := by
  have hfirst : ∀ stops : List StopId, (stops.map fun s => (verticesOf served s).wait).Sublist
      (stops.flatMap fun s => [(verticesOf served s).wait, (verticesOf served s).ride]) := by
    intro stops
    induction stops with
    | nil => exact .slnil
    | cons s rest ih => exact .cons_cons _ (.cons _ ih)
  have hstops : (waited ++ [stop]).Nodup := by
    apply List.Nodup.of_map fun s => (verticesOf served s).wait
    rw [List.map_append]
    rw [h.visited_eq] at hnodup
    exact hnodup.sublist ((hfirst waited).append_right _)
  have hunique : Relator.BiUnique fun (s : StopId) (n : String) => c.stopName? s = some n := by
    refine ⟨fun s t n hs ht => Catalogue.stopName?_inj hc.stops_distinct hs ht, ?_⟩
    intro s n m hn hm
    exact Option.some.inj (hn.symm.trans hm)
  exact (List.rel_nodup hunique (List.rel_append h.waited_eq (.cons hname .nil))).1 hstops

end Built

/-! ## What a route is -/

/-- A stop is reached from itself at once. -/
theorem shortestRoute_self (g : JourneyGraph α) (c : Catalogue α) (s : StopId) :
    g.shortestRoute c s s = .value .stay := by
  unfold shortestRoute
  rw [beq_self_eq_true]
  rfl

/-- Between two stops served the search is asked for a way. -/
theorem shortestRoute_of_served {served : List StopId} {milestones : List (List (Milestone α))}
    (hg : Built settings c served milestones g) (hab : a ≠ b) (ha : a ∈ served) (hb : b ∈ served) :
    g.shortestRoute c a b = (do
      let (totalTime, way) ← Search.shortest g.graph (verticesOf served a).wait
        (verticesOf served b).wait
      let items ← Outcome.ofLookup (way.mapM (g.item c))
      pure ⟨totalTime, items⟩) := by
  unfold shortestRoute
  rw [beq_false_of_ne hab, hg.vertices?_eq, hg.vertices?_eq, if_pos ha, if_pos hb]
  rfl

/-- A stop that is not served has no routes. -/
theorem shortestRoute_of_not_served {served : List StopId}
    {milestones : List (List (Milestone α))} (hg : Built settings c served milestones g)
    (hab : a ≠ b) (h : ¬ (a ∈ served ∧ b ∈ served)) :
    g.shortestRoute c a b = .failed .unreachable := by
  unfold shortestRoute
  rw [beq_false_of_ne hab, hg.vertices?_eq, hg.vertices?_eq]
  by_cases ha : a ∈ served
  · rw [if_pos ha, if_neg fun hb => h ⟨ha, hb⟩]
    rfl
  · rw [if_neg ha]
    rfl

/-- The first vertex of a stop served is one of the graph. -/
theorem Built.wait_lt {served : List StopId} {milestones : List (List (Milestone α))}
    (hg : Built settings c served milestones g) {stop : StopId} (h : stop ∈ served) :
    (verticesOf served stop).wait < g.graph.vertexCount := by
  rw [hg.vertexCount_eq]
  exact (rank_lt h).1

/-- A way that the search gives is told as a journey of its total time. -/
theorem Built.exists_route_of_way (hc : c.WellFormed) {served : List StopId}
    {milestones : List (List (Milestone α))} (hg : Built settings c served milestones g)
    (hab : a ≠ b) (ha : a ∈ served) (hb : b ∈ served) {total : α} {way : List EdgeId}
    (hshortest : Search.shortest g.graph (verticesOf served a).wait (verticesOf served b).wait =
      .value (total, way))
    (hway : g.graph.Way (verticesOf served a).wait (verticesOf served b).wait total way) :
    ∃ items waited, g.shortestRoute c a b = .value ⟨total, items⟩ ∧
      Tells settings c served g a b total items waited way := by
  obtain ⟨stop, time, items, waited, ⟨hstop, rfl, htells⟩ | ⟨_, _, _, hstop, -⟩⟩ :=
    hg.tells hc ha hway
  · obtain rfl : b = stop := wait_inj hb hstop
    refine ⟨items, waited, ?_, htells⟩
    rw [shortestRoute_of_served hg hab ha hb, hshortest, Outcome.value_bind]
    simp only [htells.items_eq, Outcome.ofLookup, Outcome.value_bind, Outcome.pure_eq]
  · exact absurd hstop (wait_ne_ride served _ _)

/-- Where the search gives no way there is no route. -/
theorem shortestRoute_of_unreachable {served : List StopId} {milestones : List (List (Milestone α))}
    (hg : Built settings c served milestones g) (hab : a ≠ b) (ha : a ∈ served) (hb : b ∈ served)
    (hshortest : Search.shortest g.graph (verticesOf served a).wait (verticesOf served b).wait =
      .failed .unreachable) : g.shortestRoute c a b = .failed .unreachable := by
  rw [shortestRoute_of_served hg hab ha hb, hshortest, Outcome.failed_bind]

/-- **There is a route or there is none.** Whatever the numbers, no position is looked up that its
table does not have. -/
theorem exists_route_or_unreachable (hc : c.WellFormed) (hbuild : build settings c = .value g)
    (a b : StopId) : (∃ route, g.shortestRoute c a b = .value route) ∨
      g.shortestRoute c a b = .failed .unreachable := by
  obtain ⟨served, milestones, hg⟩ := exists_built hc hbuild
  by_cases hab : a = b
  · exact .inl ⟨.stay, hab ▸ shortestRoute_self g c a⟩
  by_cases hserved : a ∈ served ∧ b ∈ served
  · obtain ⟨ha, hb⟩ := hserved
    rcases Search.exists_way_or_unreachable hg.wellFormed (hg.wait_lt ha) (hg.wait_lt hb) with
      ⟨total, way, hshortest, hway⟩ | hshortest
    · obtain ⟨items, -, hroute, -⟩ := hg.exists_route_of_way hc hab ha hb hshortest hway
      exact .inl ⟨_, hroute⟩
    · exact .inr (shortestRoute_of_unreachable hg hab ha hb hshortest)
  · exact .inr (shortestRoute_of_not_served hg hab hserved)

variable [TravelQuantity α]

/-- **What a route is.** Between different stops the answer is either a journey that takes a finite
time, at most that of every other journey, and waits at no stop twice; or it is that there is none,
and no journey takes a finite time. -/
theorem shortestRoute_cases (hc : c.WellFormed) (hbuild : build settings c = .value g)
    (hab : a ≠ b) :
    (∃ route, g.shortestRoute c a b = .value route ∧
      Journey settings c a b route.totalTime route.items ∧
      AtMost zero route.totalTime ∧ isFinite route.totalTime = true ∧
      (∀ name, c.stopName? b = some name →
        (route.items.filterMap RouteItem.waitsAt ++ [name]).Nodup) ∧
      ∀ time items, Journey settings c a b time items → IsNumber time →
        AtMost route.totalTime time) ∨
    (g.shortestRoute c a b = .failed .unreachable ∧
      ∀ time items, Journey settings c a b time items → isFinite time = false) := by
  obtain ⟨served, milestones, hg⟩ := exists_built hc hbuild
  by_cases hserved : a ∈ served ∧ b ∈ served
  · obtain ⟨ha, hb⟩ := hserved
    rcases Search.shortest_cases hg.wellFormed (hg.noNegativeWeight hc) (hg.wait_lt ha)
      (hg.wait_lt hb) with
      ⟨total, way, hshortest, hway, hnodup, hamount, hfinite, hleast⟩ | ⟨hshortest, hnone⟩
    · left
      obtain ⟨items, waited, hroute, htells⟩ :=
        hg.exists_route_of_way hc hab ha hb hshortest hway
      refine ⟨⟨total, items⟩, hroute, htells.journey, hamount, hfinite,
        fun name hname => Built.nodup_waits hc htells hnodup hname, ?_⟩
      intro time' items' hjourney hnumber
      obtain ⟨-, way', hway'⟩ := hg.exists_way ha hjourney
      exact hleast time' way' hway' hnumber
    · right
      refine ⟨shortestRoute_of_unreachable hg hab ha hb hshortest, ?_⟩
      intro time items hjourney
      obtain ⟨-, way, hway⟩ := hg.exists_way ha hjourney
      exact hnone time way hway
  · right
    refine ⟨shortestRoute_of_not_served hg hab hserved, ?_⟩
    intro time items hjourney
    have ha : a ∈ served := (hg.mem_served_of_journey hjourney).resolve_left (Ne.symm hab)
    exact absurd ⟨ha, (hg.exists_way ha hjourney).1⟩ hserved

/-- In a graph whose weights are all numbers every journey takes an amount of time. -/
theorem Built.zero_atMost_time {served : List StopId} {milestones : List (List (Milestone α))}
    (hc : c.WellFormed) (hg : Built settings c served milestones g)
    (hnumber : ∀ edge ∈ g.graph.edges, IsNumber edge.weight) {origin stop : StopId} {time : α}
    {items : List (RouteItem α)} (h : Journey settings c origin stop time items) :
    AtMost zero time := by
  have hweight : ∀ {id : EdgeId} {edge : Edge α}, g.graph.edges[id]? = some edge →
      AtMost zero edge.weight := by
    intro id edge hedge
    exact hg.noNegativeWeight hc hedge (hnumber _ (Array.mem_of_getElem? hedge))
  induction h with
  | stay => exact zero_atMost_zero
  | @ride s t time x y items stopName busName bus line i j _ hname hbus hij hi hj hx hy ih =>
      obtain ⟨id, hid, -⟩ := hg.exists_edge (hg.mem_legs_iff.2 (.inr ⟨bus, busName, line, hbus,
        i, j, ⟨s, x⟩, ⟨t, y⟩, hij, hi, hj, hx, hy, rfl⟩))
      exact zero_atMost_add (zero_atMost_add ih Settings.zero_atMost_waitMinutes) (hweight hid)

/-- **The fastest journey of the network.** The answer for two different stops is a route if some
journey between them takes a finite time, and then the route's total is the time of a journey and at
most the time of every journey; if there is no such journey, the answer is that there is none. -/
theorem shortestRoute_isFastest (hc : c.Reachable) (hbuild : build settings c = .value g)
    (hnumber : ∀ edge ∈ g.graph.edges, IsNumber edge.weight) (hab : a ≠ b) :
    ((∃ time items, Journey settings c a b time items ∧ isFinite time = true) ∧
      ∃ route, g.shortestRoute c a b = .value route ∧
        (∃ items, Journey settings c a b route.totalTime items) ∧
        ∀ time items, Journey settings c a b time items → AtMost route.totalTime time) ∨
    ((¬ ∃ time items, Journey settings c a b time items ∧ isFinite time = true) ∧
      g.shortestRoute c a b = .failed .unreachable) := by
  obtain ⟨served, milestones, hg⟩ := exists_built hc.wellFormed hbuild
  rcases shortestRoute_cases hc.wellFormed hbuild hab with
    ⟨route, hroute, hjourney, -, hfinite, -, hleast⟩ | ⟨hroute, hnone⟩
  · refine .inl ⟨⟨_, _, hjourney, hfinite⟩, route, hroute, ⟨_, hjourney⟩, ?_⟩
    intro time items h
    exact hleast time items h (hg.zero_atMost_time hc.wellFormed hnumber h).right
  · refine .inr ⟨?_, hroute⟩
    rintro ⟨time, items, h, hfinite⟩
    rw [hnone time items h] at hfinite
    cases hfinite

/-- Three stops in a row, and a bus that runs there and back. -/
def avenue : List (BaseRequest Float) :=
  [.stop "Airport" 55.5 37.25 [("Bridge", 1000)], .stop "Bridge" 55.5 37.5 [("Castle", 500)],
    .stop "Castle" 55.5 37.75 [], .bus "1" ["Airport", "Bridge", "Castle"] false]

/-- The catalogue of the avenue. -/
def avenueCatalogue : Catalogue Float :=
  match Catalogue.ofRequests avenue with
  | .value c => c
  | _ => .empty

/-- The journeys of the avenue at standard settings. -/
def avenueJourneys : JourneyGraph Float :=
  match build .standard avenueCatalogue with
  | .value g => g
  | _ => ⟨.ofVertexCount 0, #[], #[]⟩

/-- The network along the avenue is reached by its operations. -/
theorem reachable_avenueCatalogue : avenueCatalogue.Reachable :=
  Catalogue.reachable_of_ofRequests
    (show Catalogue.ofRequests avenue = .value avenueCatalogue by decide +kernel)

/-- The journeys along the avenue are what is built of its network. -/
theorem build_avenueCatalogue : build .standard avenueCatalogue = .value avenueJourneys := by
  decide +kernel

/-- Six minutes of waiting and a ride along the avenue. -/
theorem shortestRoute_avenue : avenueJourneys.shortestRoute avenueCatalogue 0 2 =
    .value ⟨8.25, [.wait "Airport" 6, .ride "1" 2 2.25]⟩ := by
  decide +kernel

/-- The avenue is passed in eight minutes and a quarter, and no journey takes less. -/
theorem shortestRoute_isFastest_avenue : ∃ route,
    avenueJourneys.shortestRoute avenueCatalogue 0 2 = .value route ∧ route.totalTime = 8.25 ∧
      ∀ time items, Journey .standard avenueCatalogue 0 2 time items →
        AtMost route.totalTime time := by
  have hnumber : ∀ edge ∈ avenueJourneys.graph.edges, IsNumber edge.weight := by decide +kernel
  have hstops : (0 : StopId) ≠ 2 := by decide
  rcases shortestRoute_isFastest reachable_avenueCatalogue build_avenueCatalogue hnumber hstops with
    ⟨-, route, hroute, -, hleast⟩ | ⟨-, hnone⟩
  · obtain rfl := Outcome.value.inj (hroute.symm.trans shortestRoute_avenue)
    exact ⟨_, hroute, rfl, hleast⟩
  · rw [shortestRoute_avenue] at hnone
    cases hnone

/-- **Routes can be ridden as they are told.** The steps of a route lead from its first to its last
stop, by turns a wait and a ride, at least one of each; no stop is waited at twice and the last not
at all; and the total is the sum of their times, a finite amount. -/
theorem shortestRoute_isRideable (hc : c.Reachable) (hbuild : build settings c = .value g)
    (hab : a ≠ b) {route : Route α} (hroute : g.shortestRoute c a b = .value route)
    {target : String} (htarget : c.stopName? b = some target) :
    Rideable settings c a route.items b ∧ route.items.length % 2 = 0 ∧ 2 ≤ route.items.length ∧
      (route.items.filterMap RouteItem.waitsAt).Nodup ∧
      target ∉ route.items.filterMap RouteItem.waitsAt ∧
      route.totalTime = route.items.foldl (fun spent item => spent + item.time) zero ∧
      isFinite route.totalTime = true ∧ AtMost zero route.totalTime := by
  rcases shortestRoute_cases hc.wellFormed hbuild hab with
    ⟨route', hroute', hjourney, hamount, hfinite, hwaits, -⟩ | ⟨hroute', -⟩
  · obtain rfl : route' = route := Outcome.value.inj (hroute'.symm.trans hroute)
    obtain ⟨hnodup, -, hdisjoint⟩ := List.nodup_append.1 (hwaits target htarget)
    have hne : route'.items ≠ [] := by
      intro hnil
      have hstay := hjourney.rideable
      rw [hnil] at hstay
      exact hab hstay
    have hlength := List.length_pos_of_ne_nil hne
    have heven := hjourney.even_length
    refine ⟨hjourney.rideable, heven, by omega, hnodup, ?_, hjourney.time_eq, hfinite, hamount⟩
    exact fun hmem => hdisjoint _ hmem _ (List.mem_singleton_self _) rfl
  · rw [hroute'] at hroute
    cases hroute

/-- The route along the avenue can be ridden. -/
theorem shortestRoute_isRideable_avenue :
    Rideable .standard avenueCatalogue 0 [.wait "Airport" 6, .ride "1" 2 2.25] 2 ∧
      (8.25 : Float) = zero + 6 + 2.25 := by
  have hstops : (0 : StopId) ≠ 2 := by decide
  have htarget : avenueCatalogue.stopName? 2 = some "Castle" := by decide +kernel
  obtain ⟨hrideable, -, -, -, -, htime, -⟩ := shortestRoute_isRideable reachable_avenueCatalogue
    build_avenueCatalogue hstops shortestRoute_avenue htarget
  exact ⟨hrideable, htime⟩

end JourneyGraph

end BusNetwork
