import BusNetwork.Proofs.Journey.Walks

/-!
# Trips: journeys whose times may be added up in any order

A trip is a journey in exact arithmetic without what is announced (`Journey.trip`,
`Trip.exists_journey`). Its rides are known by their ends and their lengths alone
(`Catalogue.Rides`), and a ride may be put before a trip as well as after it (`Trip.after_ride`).

`takes_iff_of_trips` — **routes take the same time where trips match** so that none takes longer
than its match, and there is a route where there was one.
-/

set_option linter.unusedSectionVars false

namespace BusNetwork

open Quantity

/-- The route from one stop to another takes so long. There is no such time if there is no route. -/
def JourneyGraph.Takes {α : Type} [Quantity α] (g : JourneyGraph α) (c : Catalogue α)
    (a b : StopId) (time : α) : Prop :=
  ∃ route, g.shortestRoute c a b = .value route ∧ route.totalTime = time

/-- Two times that are taken between the same stops are the same. -/
theorem JourneyGraph.Takes.unique {α : Type} [Quantity α] {g : JourneyGraph α} {c : Catalogue α}
    {a b : StopId} {time time' : α} (h : g.Takes c a b time) (h' : g.Takes c a b time') :
    time = time' := by
  obtain ⟨route, hroute, rfl⟩ := h
  obtain ⟨route', hroute', rfl⟩ := h'
  rw [Outcome.value.inj (hroute.symm.trans hroute')]

variable {K : Type} [Field K] [LinearOrder K] [IsStrictOrderedRing K] [Readout K]
  {settings settings' : Settings K} {c c' : Catalogue K} {origin stop : StopId} {time meters : K}

/-! ## Times -/

namespace Settings

/-- The wait at a stop is at least zero, for it is counted in whole minutes. -/
theorem zero_le_waitMinutes (settings : Settings K) : 0 ≤ settings.waitMinutes :=
  Nat.cast_nonneg _

/-- A shorter road takes no more minutes. -/
theorem rideMinutes_le {meters' : K} (hs : settings.check = .ok ()) (h : 0 ≤ meters')
    (hle : meters' ≤ meters) : settings.rideMinutes meters' ≤ settings.rideMinutes meters := by
  rw [← Exact.zero_eq, ← Exact.atMost_iff] at h
  rw [← Exact.atMost_iff] at hle ⊢
  exact rideMinutes_mono hs h hle rfl

/-- Accepted settings make every ride over a non-negative length take a non-negative time. -/
theorem zero_le_rideMinutes (hs : settings.check = .ok ()) (h : 0 ≤ meters) :
    0 ≤ settings.rideMinutes meters := by
  have hnone : settings.rideMinutes 0 = 0 := zero_div _
  rw [← hnone]
  exact rideMinutes_le hs le_rfl h

end Settings

/-! ## Lengths -/

namespace Catalogue

/-- No hop has a negative length. -/
theorem WellFormed.zero_le_hopLength (hc : c.WellFormed) (hop : StopId × StopId) :
    0 ≤ c.hopLength hop := by
  unfold hopLength
  cases hroad : c.distance? hop.1 hop.2 with
  | none => exact le_rfl
  | some meters =>
      have hamount : AtMost zero meters := hc.zero_atMost_distance hroad
      rw [Exact.atMost_iff, Exact.zero_eq] at hamount
      exact hamount

/-- No road has a negative length. -/
theorem WellFormed.zero_le_roadLength (hc : c.WellFormed) (walk : List StopId) :
    0 ≤ c.roadLength walk := by
  refine List.sum_nonneg fun x hx => ?_
  obtain ⟨hop, -, rfl⟩ := List.mem_map.1 hx
  exact hc.zero_le_hopLength hop

/-- A ride of a bus is never of negative length. -/
theorem WellFormed.zero_le_of_rides (hc : c.WellFormed) {s t : StopId} (h : c.Rides s t meters) :
    0 ≤ meters := by
  obtain ⟨_, _, _, _, _, _, rfl⟩ := h
  exact hc.zero_le_roadLength _

/-- A graph is only built if all roads are known. -/
theorem roadsKnown_of_build {g : JourneyGraph K} (h : JourneyGraph.build settings c = .value g) :
    c.RoadsKnown :=
  (JourneyGraph.of_build h).2

end Catalogue

/-! ## Trips -/

/-- **A trip**: rides from an origin to a stop, each after a wait, with the time that they take. -/
inductive Trip (settings : Settings K) (c : Catalogue K) (origin : StopId) : StopId → K → Prop where
  /-- No ride leads from the origin to itself. -/
  | stay : Trip settings c origin origin 0
  /-- A trip goes on by waiting where it has led and riding on from there. -/
  | ride {stop target : StopId} {time meters : K} : Trip settings c origin stop time →
    c.Rides stop target meters →
    Trip settings c origin target
      (time + (settings.waitMinutes + settings.rideMinutes meters))

/-- A journey is a trip. -/
theorem Journey.trip {items : List (RouteItem K)} (hroads : c.RoadsKnown)
    (h : Journey settings c origin stop time items) : Trip settings c origin stop time := by
  induction h with
  | stay =>
      rw [Exact.zero_eq]
      exact .stay
  | ride _ _ hbus hij hi hj hx hy ih =>
      have hride : c.Rides _ _ _ := (Catalogue.rides_iff hroads).2
        ⟨_, _, _, _, _, _, _, hbus, hij, hi, hj, hx, hy, rfl⟩
      rw [add_assoc]
      exact .ride ih hride

namespace Trip

/-- A trip is a journey. -/
theorem exists_journey (hc : c.WellFormed) (hroads : c.RoadsKnown)
    (h : Trip settings c origin stop time) :
    ∃ items, Journey settings c origin stop time items := by
  induction h with
  | stay =>
      rw [← Exact.zero_eq]
      exact ⟨[], .stay⟩
  | ride _ hride ih =>
      obtain ⟨items, hjourney⟩ := ih
      obtain ⟨bus, name, line, i, j, x, y, hbus, hij, hi, hj, hx, hy, rfl⟩ :=
        (Catalogue.rides_iff hroads).1 hride
      obtain ⟨stopName, hname⟩ := Catalogue.exists_stopName?
        (hc.lt_of_mem_traversal hbus (List.mem_of_getElem? hi))
      rw [← add_assoc]
      exact ⟨_, .ride hjourney hname hbus hij hi hj hx hy⟩

/-- A trip may start with a ride. -/
theorem after_ride {first : StopId} (hride : c.Rides first origin meters)
    (h : Trip settings c origin stop time) :
    Trip settings c first stop (settings.waitMinutes + settings.rideMinutes meters + time) := by
  induction h with
  | stay =>
      rw [add_zero, ← zero_add (settings.waitMinutes + settings.rideMinutes meters)]
      exact .ride .stay hride
  | ride _ hnext ih =>
      rw [← add_assoc]
      exact .ride ih hnext

/-- Where rides have matches that are no longer, or lead nowhere, trips have matches that take no
longer. -/
theorem exists_trip (hc : c.WellFormed) (hc' : c'.WellFormed) (hs : settings.check = .ok ())
    (hrides : ∀ s t meters, c.Rides s t meters → s = t ∨ ∃ meters' ≤ meters, c'.Rides s t meters')
    (h : Trip settings c origin stop time) :
    ∃ time' ≤ time, Trip settings c' origin stop time' := by
  induction h with
  | stay => exact ⟨0, le_rfl, .stay⟩
  | @ride stop target time meters _ hride ih =>
      obtain ⟨time', hle, htrip⟩ := ih
      have hwait := settings.zero_le_waitMinutes
      rcases hrides _ _ _ hride with rfl | ⟨meters', hless, hmatch⟩
      · have hminutes := Settings.zero_le_rideMinutes hs (hc.zero_le_of_rides hride)
        exact ⟨time', by linarith, htrip⟩
      · have hminutes := Settings.rideMinutes_le hs (hc'.zero_le_of_rides hmatch) hless
        exact ⟨_, by linarith, .ride htrip hmatch⟩

end Trip

/-! ## Routes -/

namespace JourneyGraph

variable {g g' : JourneyGraph K} {a b a' b' : StopId}

/-- Where trips have matches that take no longer, so have routes. -/
theorem Takes.exists_takes (h : g.Takes c a b time) (hc : c.WellFormed) (hc' : c'.WellFormed)
    (hg : build settings c = .value g) (hg' : build settings' c' = .value g')
    (hstops : a = b → a' = b')
    (htrips : ∀ time, Trip settings c a b time → ∃ time' ≤ time, Trip settings' c' a' b' time') :
    ∃ time' ≤ time, g'.Takes c' a' b' time' := by
  obtain ⟨route, hroute, rfl⟩ := h
  obtain ⟨route', hroute', hle⟩ := exists_route_of_journeys hc hc' hg hg' hstops (by
    intro time items hjourney _
    obtain ⟨time', hle, htrip⟩ := htrips time (hjourney.trip (Catalogue.roadsKnown_of_build hg))
    obtain ⟨items', hmatch⟩ := htrip.exists_journey hc' (Catalogue.roadsKnown_of_build hg')
    exact ⟨time', items', hmatch, Exact.atMost_iff.2 hle⟩) hroute
  exact ⟨_, Exact.atMost_iff.1 hle, route', hroute', rfl⟩

/-- A time that is matched both ways is matched by itself. -/
theorem Takes.of_trips (h : g.Takes c a b time) (hc : c.WellFormed) (hc' : c'.WellFormed)
    (hg : build settings c = .value g) (hg' : build settings' c' = .value g')
    (hstops : a = b ↔ a' = b')
    (htrips : ∀ time, Trip settings c a b time → ∃ time' ≤ time, Trip settings' c' a' b' time')
    (htrips' : ∀ time, Trip settings' c' a' b' time → ∃ time' ≤ time, Trip settings c a b time') :
    g'.Takes c' a' b' time := by
  obtain ⟨time', hle, hmatch⟩ := h.exists_takes hc hc' hg hg' hstops.1 htrips
  obtain ⟨time'', hle', hback⟩ := hmatch.exists_takes hc' hc hg' hg hstops.2 htrips'
  obtain rfl : time = time'' := h.unique hback
  obtain rfl : time' = time := le_antisymm hle hle'
  exact hmatch

/-- **Where trips match both ways, routes take the same time.** -/
theorem takes_iff_of_trips (hc : c.WellFormed) (hc' : c'.WellFormed)
    (hg : build settings c = .value g) (hg' : build settings' c' = .value g')
    (hstops : a = b ↔ a' = b')
    (htrips : ∀ time, Trip settings c a b time → ∃ time' ≤ time, Trip settings' c' a' b' time')
    (htrips' : ∀ time, Trip settings' c' a' b' time → ∃ time' ≤ time, Trip settings c a b time') :
    g.Takes c a b time ↔ g'.Takes c' a' b' time :=
  ⟨fun h => h.of_trips hc hc' hg hg' hstops htrips htrips',
    fun h => h.of_trips hc' hc hg' hg hstops.symm htrips' htrips⟩

end JourneyGraph

end BusNetwork
