import BusNetwork.Proofs.JourneyGraph.Build
import BusNetwork.Proofs.Search.Least
import BusNetwork.Route

/-!
# Journeys, and the ways through the journey graph

A journey is a sequence of rides, each from a position of a bus's traversal to a later one, boarded
where the one before was left. `Journey settings c origin stop time items` says that some rides lead
from `origin` to `stop`, that the waits and rides take `time` in all, added up from left to right,
and that they are announced as `items`. It knows nothing of a graph.

**The ways through the graph that was built and the journeys are the same** (`Built.tells` and
`Built.exists_way`), with the same times, to the last addition: what a search answers about ways
is an answer about journeys.
-/

set_option linter.unusedSectionVars false

namespace BusNetwork

open Quantity

variable {α : Type} [Quantity α]

/-- **A journey**: rides from an origin to a stop, with the time that they take and the steps that
they are told in. -/
inductive Journey (settings : Settings α) (c : Catalogue α) (origin : StopId) :
    StopId → α → List (RouteItem α) → Prop where
  /-- No ride leads from the origin to itself. -/
  | stay : Journey settings c origin origin zero []
  /-- A journey goes on by waiting where it has led and riding a bus from a position there to a
  later one. -/
  | ride {stop target : StopId} {time x y : α} {items : List (RouteItem α)}
    {stopName busName : String} {bus : BusId} {line : Bus} {i j : Nat} :
    Journey settings c origin stop time items → c.stopName? stop = some stopName →
    c.buses.at? bus = some (busName, line) → i < j →
    line.traversal[i]? = some stop → line.traversal[j]? = some target →
    c.roadTo? line i = some x → c.roadTo? line j = some y →
    Journey settings c origin target
      (time + settings.waitMinutes + settings.rideMinutes (y - x))
      (items ++ [.wait stopName settings.waitMinutes,
        .ride busName (j - i) (settings.rideMinutes (y - x))])

/-- The stop that a step waits at. -/
def RouteItem.waitsAt : RouteItem α → Option String
  | wait stop _ => some stop
  | ride _ _ _ => none

variable {settings : Settings α} {c : Catalogue α} {origin stop : StopId} {time : α}
  {items : List (RouteItem α)}

namespace Journey

/-- A journey takes the time that its steps take, added up from left to right. -/
theorem time_eq (h : Journey settings c origin stop time items) :
    time = items.foldl (fun spent item => spent + item.time) zero := by
  induction h with
  | stay => rfl
  | ride _ _ _ _ _ _ _ _ ih =>
      rw [List.foldl_append, ← ih]
      rfl

/-- A journey has two steps to a ride. -/
theorem even_length (h : Journey settings c origin stop time items) : items.length % 2 = 0 := by
  induction h with
  | stay => rfl
  | ride _ _ _ _ _ _ _ _ ih =>
      rw [List.length_append]
      simpa using ih

end Journey

/-! ## Roads get no shorter -/

namespace Catalogue

variable [OrderedQuantity α]

/-- A known distance is at least zero. -/
theorem WellFormed.zero_atMost_distance (hc : c.WellFormed) {a b : StopId} {meters : α}
    (h : c.distance? a b = some meters) : AtMost zero meters := by
  unfold distance? at h
  rw [Option.or_eq_some_iff] at h
  rcases h with h | ⟨-, h⟩
  · exact zero_atMost_of_isFinite (hc.isFinite_recorded h) (hc.not_recorded_lt_zero h)
  · exact zero_atMost_of_isFinite (hc.isFinite_recorded h) (hc.not_recorded_lt_zero h)

/-- Going on over hops covers no less. -/
theorem WellFormed.atMost_foldlM_addHop? (hc : c.WellFormed) {hops : List (StopId × StopId)}
    {x y : α} (hx : AtMost zero x) (h : hops.foldlM c.addHop? x = some y) : AtMost x y := by
  induction hops generalizing x with
  | nil =>
      obtain rfl : x = y := by simpa using h
      exact hx.right.atMost_self
  | cons hop rest ih =>
      rw [List.foldlM_cons, Option.bind_eq_bind, Option.bind_eq_some_iff] at h
      obtain ⟨x', hhop, hrest⟩ := h
      obtain ⟨meters, hmeters, rfl⟩ := Option.map_eq_some_iff.1 hhop
      have hamount : AtMost zero meters := hc.zero_atMost_distance hmeters
      exact (OrderedQuantity.atMost_add hx hamount).trans (ih (zero_atMost_add hx hamount) hrest)

/-- The road to a later position of a bus is no shorter. -/
theorem WellFormed.roadTo?_mono (hc : c.WellFormed) {line : Bus} {i j : Nat} {x y : α} (hij : i ≤ j)
    (hx : c.roadTo? line i = some x) (hy : c.roadTo? line j = some y) :
    AtMost zero x ∧ AtMost x y := by
  have hzero : AtMost zero x := hc.atMost_foldlM_addHop? zero_atMost_zero hx
  obtain ⟨k, rfl⟩ := Nat.exists_eq_add_of_le hij
  unfold roadTo? at hy
  rw [List.take_add, List.foldlM_append, ← roadTo?, hx] at hy
  exact ⟨hzero, hc.atMost_foldlM_addHop? hzero hy⟩

end Catalogue

/-- **The time of a journey is an amount, if it is a number, and not negative zero.** -/
theorem Journey.amount [TravelQuantity α] (hc : c.WellFormed) (hs : settings.check = .ok ())
    (h : Journey settings c origin stop time items) (hnumber : IsNumber time) :
    AtMost zero time ∧ zero + time = time := by
  induction h with
  | stay => exact ⟨zero_atMost_zero, OrderedQuantity.zero_add_zero⟩
  | ride _ _ _ hij _ _ hx hy ih =>
      obtain ⟨hbefore, hride⟩ := OrderedQuantity.isNumber_of_add hnumber
      obtain ⟨hamount, hzero⟩ := ih (OrderedQuantity.isNumber_of_add hbefore).1
      obtain ⟨hroad, hle⟩ := hc.roadTo?_mono (Nat.le_of_lt hij) hx hy
      have hwait : AtMost zero settings.waitMinutes := Settings.zero_atMost_waitMinutes
      have hminutes := Settings.zero_atMost_rideMinutes hs hroad hle hride
      have hwaited := zero_atMost_add hamount hwait
      exact ⟨zero_atMost_add hwaited hminutes,
        OrderedQuantity.zero_add_add hwaited hminutes
          (OrderedQuantity.zero_add_add hamount hwait hzero)⟩

namespace JourneyGraph.Built

variable {served : List StopId} {milestones : List (List (Milestone α))} {g : JourneyGraph α}

/-- **No wait and no ride takes negative time.** -/
theorem noNegativeWeight [TravelQuantity α] (hc : c.WellFormed)
    (hg : Built settings c served milestones g) : g.graph.NoNegativeWeight := by
  intro id edge hedge hnumber
  obtain ⟨leg, hleg, rfl, -⟩ := hg.exists_leg hedge
  rcases hg.mem_legs_iff.1 hleg with ⟨stop, -, rfl⟩ |
    ⟨bus, name, line, -, i, j, boarding, leaving, hij, -, -, hx, hy, rfl⟩
  · exact Settings.zero_atMost_waitMinutes
  · obtain ⟨hzero, hle⟩ := hc.roadTo?_mono (Nat.le_of_lt hij) hx hy
    exact Settings.zero_atMost_rideMinutes hg.check_settings hzero hle hnumber

/-! ## From ways to journeys -/

/-- A way to the first vertex of a stop tells a journey to that stop, and passes the two vertices of
each stop where the journey waits. -/
structure Tells (settings : Settings α) (c : Catalogue α) (served : List StopId)
    (g : JourneyGraph α) (origin stop : StopId) (time : α) (items : List (RouteItem α))
    (waited : List StopId) (way : List EdgeId) : Prop where
  /-- It tells a journey. -/
  journey : Journey settings c origin stop time items
  /-- The stop is served. -/
  mem_served : stop ∈ served
  /-- Its edges are called what the journey's steps are. -/
  items_eq : way.mapM (g.item c) = some items
  /-- It passes the vertices of the stops waited at, and the first vertex of the last stop. -/
  visited_eq : g.graph.visited (verticesOf served origin).wait way =
    (waited.flatMap fun s => [(verticesOf served s).wait, (verticesOf served s).ride]) ++
      [(verticesOf served stop).wait]
  /-- The journey waits at those stops. -/
  waited_eq : List.Forall₂ (fun s name => c.stopName? s = some name) waited
    (items.filterMap RouteItem.waitsAt)

/-- The two ends of a wait. -/
theorem wait_of_edge (hg : Built settings c served milestones g) (hc : c.WellFormed) {id : EdgeId}
    {edge : Edge α} (hedge : g.graph.edges[id]? = some edge) (hstop : stop ∈ served)
    (hsource : edge.source = (verticesOf served stop).wait) :
    edge.target = (verticesOf served stop).ride ∧ edge.weight = settings.waitMinutes ∧
      ∃ name, c.stopName? stop = some name ∧
        g.item c id = some (.wait name settings.waitMinutes) := by
  obtain ⟨leg, hleg, rfl, hlabel⟩ := hg.exists_leg hedge
  rcases hg.mem_legs_iff.1 hleg with ⟨s, hs, rfl⟩ |
    ⟨bus, name, line, -, i, j, boarding, leaving, -, -, -, -, -, rfl⟩
  · obtain rfl : s = stop := wait_inj hs hsource
    obtain ⟨bus, busName, line, hbus, hmem⟩ := hg.mem_served_iff.1 hstop
    obtain ⟨name, hname⟩ := Catalogue.exists_stopName? (hc.lt_of_mem_traversal hbus hmem)
    refine ⟨rfl, rfl, name, hname, ?_⟩
    unfold item
    rw [hedge, hlabel]
    simp [Leg.wait, hname]
  · exact absurd hsource.symm (wait_ne_ride served _ _)

/-- The two ends of a ride. -/
theorem ride_of_edge (hg : Built settings c served milestones g) {id : EdgeId}
    {edge : Edge α} (hedge : g.graph.edges[id]? = some edge) (hstop : stop ∈ served)
    (hsource : edge.source = (verticesOf served stop).ride) :
    ∃ (target : StopId) (bus : BusId) (busName : String) (line : Bus) (i j : Nat) (x y : α),
      edge.target = (verticesOf served target).wait ∧ target ∈ served ∧
      edge.weight = settings.rideMinutes (y - x) ∧ c.buses.at? bus = some (busName, line) ∧ i < j ∧
      line.traversal[i]? = some stop ∧ line.traversal[j]? = some target ∧
      c.roadTo? line i = some x ∧ c.roadTo? line j = some y ∧
      g.item c id = some (.ride busName (j - i) (settings.rideMinutes (y - x))) := by
  obtain ⟨leg, hleg, rfl, hlabel⟩ := hg.exists_leg hedge
  rcases hg.mem_legs_iff.1 hleg with ⟨s, hs, rfl⟩ |
    ⟨bus, name, line, hbus, i, j, boarding, leaving, hij, hi, hj, hx, hy, rfl⟩
  · exact absurd hsource (wait_ne_ride served _ _)
  · have hserved : ∀ {p : Nat} {s : StopId}, line.traversal[p]? = some s → s ∈ served := by
      intro p s hp
      exact hg.mem_served_iff.2 ⟨bus, name, line, hbus, List.mem_of_getElem? hp⟩
    obtain rfl : boarding.stop = stop := ride_inj (hserved hi) hsource
    refine ⟨leaving.stop, bus, name, line, i, j, boarding.covered, leaving.covered, rfl,
      hserved hj, rfl, hbus, hij, hi, hj, hx, hy, ?_⟩
    unfold item
    rw [hedge, hlabel]
    simp [Leg.ride, Catalogue.busName?_eq, hbus]

/-- **Every way from the first vertex of a stop tells a journey**, up to a wait that is not yet
followed by a ride. -/
theorem tells (hg : Built settings c served milestones g) (hc : c.WellFormed)
    (horigin : origin ∈ served) {vertex : VertexId} {total : α} {way : List EdgeId}
    (h : g.graph.Way (verticesOf served origin).wait vertex total way) :
    ∃ stop time items waited, (vertex = (verticesOf served stop).wait ∧ total = time ∧
        Tells settings c served g origin stop time items waited way) ∨
      ∃ before id name, vertex = (verticesOf served stop).ride ∧
        total = time + settings.waitMinutes ∧ way = before ++ [id] ∧
        Tells settings c served g origin stop time items waited before ∧
        c.stopName? stop = some name ∧ g.item c id = some (.wait name settings.waitMinutes) ∧
        g.graph.visited (verticesOf served origin).wait way =
          g.graph.visited (verticesOf served origin).wait before ++
            [(verticesOf served stop).ride] := by
  induction h with
  | start =>
      exact ⟨origin, zero, [], [], .inl ⟨rfl, rfl, .stay, horigin, rfl, rfl, .nil⟩⟩
  | @follow vertex total way id edge _ hedge hsource ih =>
      obtain ⟨stop, time, items, waited, ⟨rfl, rfl, htells⟩ |
        ⟨before, waitId, name, rfl, rfl, rfl, htells, hname, hitem, hvisited⟩⟩ := ih
      · -- after a journey comes a wait
        obtain ⟨htarget, hweight, name, hname, hitem⟩ :=
          hg.wait_of_edge hc hedge htells.mem_served hsource
        refine ⟨stop, total, items, waited, .inr ⟨way, id, name, htarget, by rw [hweight], rfl,
          htells, hname, hitem, ?_⟩⟩
        rw [Graph.visited_concat hedge, htarget]
      · -- after a wait comes a ride, and the journey is longer by both
        obtain ⟨target, bus, busName, line, i, j, x, y, htarget, hserved, hweight, hbus, hij, hi,
          hj, hx, hy, hride⟩ := hg.ride_of_edge hedge htells.mem_served hsource
        refine ⟨target, _, _, waited ++ [stop], .inl ⟨htarget, by rw [hweight],
          .ride htells.journey hname hbus hij hi hj hx hy, hserved, ?_, ?_, ?_⟩⟩
        · simp [htells.items_eq, hitem, hride]
        · rw [Graph.visited_concat hedge, hvisited, htells.visited_eq, htarget]
          simp
        · rw [List.filterMap_append]
          exact List.rel_append htells.waited_eq (.cons hname .nil)

/-! ## From journeys to ways -/

/-- A journey leads from a stop that is served to such a stop, by a way that takes its time. -/
theorem exists_way (hg : Built settings c served milestones g) (horigin : origin ∈ served)
    (h : Journey settings c origin stop time items) : stop ∈ served ∧ ∃ way,
      g.graph.Way (verticesOf served origin).wait (verticesOf served stop).wait time way := by
  induction h with
  | stay => exact ⟨horigin, [], .start⟩
  | @ride s t time x y items stopName busName bus line i j _ hname hbus hij hi hj hx hy ih =>
      obtain ⟨hs, way, hway⟩ := ih
      have ht : t ∈ served :=
        hg.mem_served_iff.2 ⟨bus, busName, line, hbus, List.mem_of_getElem? hj⟩
      obtain ⟨wait, hwait, -⟩ := hg.exists_edge (hg.mem_legs_iff.2 (.inl ⟨s, hs, rfl⟩))
      obtain ⟨ride, hride, -⟩ := hg.exists_edge (hg.mem_legs_iff.2 (.inr ⟨bus, busName, line, hbus,
        i, j, ⟨s, x⟩, ⟨t, y⟩, hij, hi, hj, hx, hy, rfl⟩))
      exact ⟨ht, _, (hway.follow hwait rfl).follow hride rfl⟩

/-- A journey that leads elsewhere starts at a stop that is served. -/
theorem mem_served_of_journey (hg : Built settings c served milestones g)
    (h : Journey settings c origin stop time items) : stop = origin ∨ origin ∈ served := by
  induction h with
  | stay => exact .inl rfl
  | @ride s t time x y items stopName busName bus line i j _ hname hbus hij hi hj hx hy ih =>
      rcases ih with rfl | horigin
      · exact .inr (hg.mem_served_iff.2 ⟨bus, busName, line, hbus, List.mem_of_getElem? hi⟩)
      · exact .inr horigin

end JourneyGraph.Built

end BusNetwork
