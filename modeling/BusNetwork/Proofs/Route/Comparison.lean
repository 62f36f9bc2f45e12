import BusNetwork.Proofs.Quantity.Steady
import BusNetwork.Proofs.Route

/-!
# Networks compared by their journeys

A route takes as long as the fastest journey, so two networks are compared by their journeys:
**where each journey of the one has its match in the other that takes no longer, each route has**
(`exists_route_of_journeys`).

`NoSlower settings settings' c c'` is the case where the match is the same rides, one by one: the
other network has the same stops and buses, and neither a wait nor a ride takes longer there.
-/

set_option linter.unusedSectionVars false

namespace BusNetwork

open Quantity

variable {α : Type} [Quantity α] {settings settings' : Settings α} {c c' : Catalogue α}

/-! ## Roads over other hops -/

namespace Catalogue

variable {hops : List (StopId × StopId)} {x y : α}

/-- Roads over hops that match by their lengths are equally long. -/
theorem foldlM_addHop?_map {f : StopId × StopId → StopId × StopId}
    (h : ∀ hop ∈ hops, ∀ meters, c.distance? hop.1 hop.2 = some meters →
      c'.distance? (f hop).1 (f hop).2 = some meters)
    (hroad : hops.foldlM c.addHop? x = some y) : (hops.map f).foldlM c'.addHop? x = some y := by
  induction hops generalizing x with
  | nil => exact hroad
  | cons hop rest ih =>
      rw [List.forall_mem_cons] at h
      rw [List.foldlM_cons, Option.bind_eq_bind, Option.bind_eq_some_iff] at hroad
      obtain ⟨covered, hhop, hrest⟩ := hroad
      obtain ⟨meters, hmeters, rfl⟩ := Option.map_eq_some_iff.1 hhop
      have hplace : c'.addHop? x (f hop) = some (x + meters) := by
        rw [addHop?, h.1 meters hmeters]
        rfl
      rw [List.map_cons, List.foldlM_cons, hplace]
      exact ih h.2 hrest

/-- Roads over hops of smaller lengths are no longer. -/
theorem WellFormed.exists_foldlM_addHop? [MonotoneQuantity α] (hc' : c'.WellFormed)
    (h : ∀ hop ∈ hops, ∀ meters, c.distance? hop.1 hop.2 = some meters →
      ∃ meters', c'.distance? hop.1 hop.2 = some meters' ∧ AtMost meters' meters)
    {x' : α} (hx' : AtMost zero x') (hle : AtMost x' x) (hroad : hops.foldlM c.addHop? x = some y) :
    ∃ y', hops.foldlM c'.addHop? x' = some y' ∧ AtMost zero y' ∧ AtMost y' y := by
  induction hops generalizing x x' with
  | nil =>
      obtain rfl : x = y := by simpa using hroad
      exact ⟨x', rfl, hx', hle⟩
  | cons hop rest ih =>
      rw [List.forall_mem_cons] at h
      rw [List.foldlM_cons, Option.bind_eq_bind, Option.bind_eq_some_iff] at hroad
      obtain ⟨covered, hhop, hrest⟩ := hroad
      obtain ⟨meters, hmeters, rfl⟩ := Option.map_eq_some_iff.1 hhop
      obtain ⟨meters', hmeters', hless⟩ := h.1 meters hmeters
      have hamount : AtMost zero meters' := hc'.zero_atMost_distance hmeters'
      have hplace : c'.addHop? x' hop = some (x' + meters') := by
        rw [addHop?, hmeters']
        rfl
      rw [List.foldlM_cons, hplace]
      exact ih h.2 (zero_atMost_add hx' hamount) (hx'.add hamount hle hless) hrest

end Catalogue

/-! ## Journeys with matches -/

namespace JourneyGraph

variable [TravelQuantity α] {g g' : JourneyGraph α} {a b a' b' : StopId}

/-- **Where journeys have matches that take no longer, so have routes.** -/
theorem exists_route_of_journeys (hc : c.WellFormed) (hc' : c'.WellFormed)
    (hg : build settings c = .value g) (hg' : build settings' c' = .value g')
    (hstops : a = b → a' = b')
    (hjourneys : ∀ time items, Journey settings c a b time items → isFinite time = true →
      ∃ time' items', Journey settings' c' a' b' time' items' ∧ AtMost time' time)
    {route : Route α} (hroute : g.shortestRoute c a b = .value route) :
    ∃ route', g'.shortestRoute c' a' b' = .value route' ∧
      AtMost route'.totalTime route.totalTime := by
  by_cases hab : a = b
  · subst hab
    rw [shortestRoute_self, Outcome.value.injEq] at hroute
    subst hroute
    rw [← hstops rfl]
    exact ⟨.stay, shortestRoute_self .., zero_atMost_zero⟩
  · rcases shortestRoute_cases hc hg hab with
      ⟨found, hfound, hjourney, hamount, hfinite, -, -⟩ | ⟨hfound, -⟩
    · obtain rfl : found = route := Outcome.value.inj (hfound.symm.trans hroute)
      by_cases hplace : a' = b'
      · rw [← hplace]
        exact ⟨.stay, shortestRoute_self .., hamount⟩
      · obtain ⟨time', items', hmatch, hle⟩ := hjourneys _ _ hjourney hfinite
        have hamount' : AtMost zero time' := (hmatch.amount hc' (of_build hg').1 hle.left).1
        rcases shortestRoute_cases hc' hg' hplace with
          ⟨route', hroute', -, -, -, -, hleast⟩ | ⟨-, hnone⟩
        · exact ⟨route', hroute', (hleast _ _ hmatch hle.left).trans hle⟩
        · have hinfinite := hnone _ _ hmatch
          rw [OrderedQuantity.isFinite_of_atMost hamount' hle hfinite] at hinfinite
          cases hinfinite
    · rw [hfound] at hroute
      cases hroute

end JourneyGraph

/-! ## The same rides in no more time -/

/-- Waits and rides of one network can be made in another, and take no longer there. -/
structure NoSlower (settings settings' : Settings α) (c c' : Catalogue α) : Prop where
  /-- A wait takes no longer. -/
  waitMinutes : AtMost settings'.waitMinutes settings.waitMinutes
  /-- Stops have the same names. -/
  stopName? {stop : StopId} {name : String} :
    c.stopName? stop = some name → c'.stopName? stop = some name
  /-- A ride that takes a finite time can be made, and takes no longer. -/
  exists_ride {bus : BusId} {name : String} {line : Bus} {i j : Nat} {x y : α} :
    c.buses.at? bus = some (name, line) → i < j → j < line.traversal.length →
    c.roadTo? line i = some x → c.roadTo? line j = some y →
    isFinite (settings.rideMinutes (y - x)) = true →
    c'.buses.at? bus = some (name, line) ∧ ∃ x' y', c'.roadTo? line i = some x' ∧
      c'.roadTo? line j = some y' ∧
      AtMost (settings'.rideMinutes (y' - x')) (settings.rideMinutes (y - x))

namespace NoSlower

variable [MonotoneQuantity α]

/-- **Every journey can be made in no more time.** -/
theorem exists_journey (h : NoSlower settings settings' c c') (hc : c.WellFormed)
    (hc' : c'.WellFormed) (hs : settings.check = .ok ()) (hs' : settings'.check = .ok ())
    {origin stop : StopId} {time : α} {items : List (RouteItem α)}
    (hjourney : Journey settings c origin stop time items) (hfinite : isFinite time = true) :
    ∃ time' items', Journey settings' c' origin stop time' items' ∧ AtMost time' time := by
  induction hjourney with
  | stay => exact ⟨zero, [], .stay, zero_atMost_zero⟩
  | @ride s t time x y items stopName busName bus line i j hbefore hname hbus hij hi hj hx hy ih =>
      -- the three parts of a finite time are finite
      obtain ⟨hwaited, hride⟩ :=
        OrderedQuantity.isNumber_of_add (OrderedQuantity.isNumber_of_isFinite hfinite)
      have hamount : AtMost zero time :=
        (hbefore.amount hc hs (OrderedQuantity.isNumber_of_add hwaited).1).1
      have hwait : AtMost zero settings.waitMinutes := Settings.zero_atMost_waitMinutes
      obtain ⟨hroad, hle⟩ := hc.roadTo?_mono (Nat.le_of_lt hij) hx hy
      have hminutes : AtMost zero (settings.rideMinutes (y - x)) :=
        Settings.zero_atMost_rideMinutes hs hroad hle hride
      obtain ⟨hfirst, hlast⟩ := isFinite_of_add (zero_atMost_add hamount hwait) hminutes hfinite
      -- and none of them takes longer
      obtain ⟨time', items', hbefore', hbeforeLe⟩ := ih (isFinite_of_add hamount hwait hfirst).1
      obtain ⟨hbus', x', y', hx', hy', hrideLe⟩ :=
        h.exists_ride hbus hij (List.getElem?_eq_some_iff.1 hj).1 hx hy hlast
      have hamount' : AtMost zero time' := (hbefore'.amount hc' hs' hbeforeLe.left).1
      have hwait' : AtMost zero settings'.waitMinutes := Settings.zero_atMost_waitMinutes
      obtain ⟨hroad', hle'⟩ := hc'.roadTo?_mono (Nat.le_of_lt hij) hx' hy'
      have hminutes' : AtMost zero (settings'.rideMinutes (y' - x')) :=
        Settings.zero_atMost_rideMinutes hs' hroad' hle' hrideLe.left
      have hwaitedLe : AtMost (time' + settings'.waitMinutes) (time + settings.waitMinutes) :=
        hamount'.add hwait' hbeforeLe h.waitMinutes
      refine ⟨_, _, .ride hbefore' (h.stopName? hname) hbus' hij hi hj hx' hy', ?_⟩
      exact (zero_atMost_add hamount' hwait').add hminutes' hwaitedLe hrideLe

/-- **Where there is a route there is one that takes no longer.** -/
theorem exists_route (h : NoSlower settings settings' c c') (hc : c.WellFormed)
    (hc' : c'.WellFormed) {g g' : JourneyGraph α} (hg : JourneyGraph.build settings c = .value g)
    (hg' : JourneyGraph.build settings' c' = .value g') {a b : StopId} {route : Route α}
    (hroute : g.shortestRoute c a b = .value route) :
    ∃ route', g'.shortestRoute c' a b = .value route' ∧
      AtMost route'.totalTime route.totalTime := by
  refine JourneyGraph.exists_route_of_journeys hc hc' hg hg' id ?_ hroute
  intro time items hjourney hfinite
  exact h.exists_journey hc hc' (JourneyGraph.of_build hg).1 (JourneyGraph.of_build hg').1 hjourney
    hfinite

end NoSlower

end BusNetwork
