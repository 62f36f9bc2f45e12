import BusNetwork.Proofs.Catalogue.Runs
import BusNetwork.Proofs.Loading

/-!
# What is wrong with a description

`loadFault? requests` looks for what is wrong with a description without loading it: the first stop
that stands nowhere on the earth, failing that the first road that leads nowhere or has no length,
and failing that the first bus that lists a stop which is not described. **Loading fails by exactly
this, and where there is nothing wrong it gives a catalogue** (`ofRequests_decidedBy`).

Whether a stop is described does not depend on where in the description it is, so all roads and all
buses are held against the description as a whole.
-/

set_option linter.unusedSectionVars false

namespace BusNetwork

open Quantity

variable {α : Type} [Quantity α] {requests : List (BaseRequest α)}

/-! ## Looking for faults -/

/-- The names of the stops in requests are those that the requests declare. -/
theorem mem_filterMap_stopName?_iff {name : String} :
    name ∈ requests.filterMap BaseRequest.stopName? ↔ Declares requests name := by
  rw [List.mem_filterMap]
  constructor
  · rintro ⟨r, hr, hname⟩
    cases r with
    | stop other latitude longitude roads =>
        obtain rfl : other = name := Option.some.inj hname
        exact ⟨latitude, longitude, roads, hr⟩
    | bus => cases hname
  · rintro ⟨latitude, longitude, roads, hr⟩
    exact ⟨_, hr, rfl⟩

/-- Whether a name is declared is looked up among the names of the stops. -/
instance (requests : List (BaseRequest α)) (name : String) : Decidable (Declares requests name) :=
  decidable_of_iff _ mem_filterMap_stopName?_iff

/-- What is wrong with a reference to a stop: it is not described. -/
def stopFault? (requests : List (BaseRequest α)) (name : String) : Option (CatalogueError α) :=
  if Declares requests name then none else some (.unknownStop name)

/-- What is wrong with a road from a stop: its far end is not described, or its length is negative
or no number. -/
def roadFault? (requests : List (BaseRequest α)) (origin : String) (road : String × α) :
    Option (CatalogueError α) :=
  (stopFault? requests road.1).or <|
    if isFinite road.2 = true ∧ ¬ road.2 < zero then none
    else some (.invalidDistance origin road.1 road.2)

namespace BaseRequest

/-- What is wrong with where a stop stands. -/
def placeFault? : BaseRequest α → Option (LoadError α)
  | stop name latitude longitude _ =>
    match Coordinates.ofDegrees latitude longitude with
    | .ok _ => none
    | .error error => some (.invalidStop name error)
  | bus _ _ _ => none

/-- What is wrong with the first road from a stop with which anything is. -/
def roadsFault? (requests : List (BaseRequest α)) : BaseRequest α → Option (CatalogueError α)
  | stop name _ _ roads => roads.findSome? (roadFault? requests name)
  | bus _ _ _ => none

/-- What is wrong with the first stop on the list of a bus with which anything is. -/
def stopsFault? (requests : List (BaseRequest α)) : BaseRequest α → Option (CatalogueError α)
  | stop _ _ _ _ => none
  | bus _ stops _ => stops.findSome? (stopFault? requests)

end BaseRequest

/-- What is wrong with a description: with the place of a stop, failing that with a road, and
failing that with the stops of a bus. -/
def loadFault? (requests : List (BaseRequest α)) : Option (LoadError α) :=
  (requests.findSome? BaseRequest.placeFault?).or
    (((requests.findSome? (BaseRequest.roadsFault? requests)).map .catalogue).or
      ((requests.findSome? (BaseRequest.stopsFault? requests)).map .catalogue))

/-- A name of a stop is without fault exactly if it is declared. -/
theorem stopFault?_eq_none_iff {name : String} :
    stopFault? requests name = none ↔ Declares requests name := by
  simp [stopFault?]

/-- A road is without fault exactly if its target is declared and its length finite and not
negative. -/
theorem roadFault?_eq_none_iff {origin : String} {road : String × α} :
    roadFault? requests origin road = none ↔
      Declares requests road.1 ∧ isFinite road.2 = true ∧ ¬ road.2 < zero := by
  rw [roadFault?, Option.or_eq_none_iff, stopFault?_eq_none_iff]
  simp

/-- There is nothing wrong with exactly what is loadable. -/
theorem loadFault?_eq_none_iff : loadFault? requests = none ↔ Loadable requests := by
  unfold loadFault?
  simp only [Option.or_eq_none_iff, Option.map_eq_none_iff, List.findSome?_eq_none_iff]
  constructor
  · rintro ⟨hplaces, hroads, hstops⟩
    refine ⟨?_, ?_, ?_⟩
    · intro name latitude longitude roads hmem
      have hplace := hplaces _ hmem
      unfold BaseRequest.placeFault? at hplace
      cases hp : Coordinates.ofDegrees latitude longitude with
      | ok p => exact ⟨p, rfl⟩
      | error error => simp [hp] at hplace
    · intro name latitude longitude roads hmem road hroad
      exact roadFault?_eq_none_iff.1 (List.findSome?_eq_none_iff.1 (hroads _ hmem) road hroad)
    · intro name stops isRoundTrip hmem stop hstop
      exact stopFault?_eq_none_iff.1 (List.findSome?_eq_none_iff.1 (hstops _ hmem) stop hstop)
  · intro h
    refine ⟨?_, ?_, ?_⟩
    · rintro (⟨name, latitude, longitude, roads⟩ | _) hmem
      · obtain ⟨p, hp⟩ := h.onEarth hmem
        simp [BaseRequest.placeFault?, hp]
      · rfl
    · rintro (⟨name, latitude, longitude, roads⟩ | _) hmem
      · rw [BaseRequest.roadsFault?, List.findSome?_eq_none_iff]
        intro road hroad
        exact roadFault?_eq_none_iff.2 (h.roads_valid hmem road hroad)
      · rfl
    · rintro (_ | ⟨name, stops, isRoundTrip⟩) hmem
      · rfl
      · rw [BaseRequest.stopsFault?, List.findSome?_eq_none_iff]
        intro stop hstop
        exact stopFault?_eq_none_iff.2 (h.stops_declared hmem stop hstop)

namespace Catalogue

variable {c : Catalogue α} {name : String}

/-! ## The passes -/

/-- Whether a catalogue has exactly the stops that are described. -/
def Knows (c : Catalogue α) (requests : List (BaseRequest α)) : Prop :=
  ∀ name, (∃ s, c.findStop name = some s) ↔ Declares requests name

/-- A catalogue that finds the same stops knows the same requests. -/
theorem Knows.congr {c' : Catalogue α} (hc : c.Knows requests)
    (h : ∀ name, c'.findStop name = c.findStop name) : c'.Knows requests := by
  intro name
  rw [h]
  exact hc name

/-- A name that is not described is not known. -/
theorem Knows.findStop_eq_none (hc : c.Knows requests) (h : ¬ Declares requests name) :
    c.findStop name = none := by
  rw [Option.eq_none_iff_forall_ne_some]
  intro s hs
  exact h ((hc name).1 ⟨s, hs⟩)

/-- Referring to a stop. -/
theorem Knows.knownStop_decidedBy (hc : c.Knows requests) (name : String) :
    (c.knownStop name).DecidedBy (stopFault? requests name) fun s => c.findStop name = some s := by
  unfold Tables.knownStop stopFault?
  by_cases h : Declares requests name
  · obtain ⟨s, hs⟩ := (hc name).2 h
    rw [if_pos h, hs]
    exact Outcome.decidedBy_value rfl
  · rw [if_neg h, hc.findStop_eq_none h]
    exact Outcome.decidedBy_failed _

/-- Recording a road from a stop that is described. -/
theorem Knows.setDistance_decidedBy (hc : c.Knows requests) {origin : String}
    (horigin : Declares requests origin) (road : String × α) :
    (c.setDistance origin road.1 road.2).DecidedBy (roadFault? requests origin road)
      fun c' => c'.stops = c.stops := by
  have hset := Catalogue.setDistance_decidedBy hc.knownStop_decidedBy origin road.1 road.2
  rw [stopFault?, if_pos horigin, Option.none_or] at hset
  exact hset

/-- Recording the roads from a stop that is described. -/
theorem Knows.setRoads_decidedBy (hc : c.Knows requests) {origin : String}
    (horigin : Declares requests origin) (roads : List (String × α)) :
    (c.setRoads origin roads).DecidedBy (roads.findSome? (roadFault? requests origin))
      fun c' => c'.stops = c.stops := by
  refine Outcome.DecidedBy.foldlM ?_ ?_
  · rfl
  rintro c₁ hc₁ road -
  have hknows : c₁.Knows requests := hc.congr (findStop_of_stops_eq hc₁)
  exact (hknows.setDistance_decidedBy horigin road).imp fun c₂ _ hc₂ => hc₂.trans hc₁

/-- Registering a bus. -/
theorem Knows.addBus_decidedBy (hc : c.Knows requests) (hwell : c.WellFormed) (name : String)
    (stopNames : List String) (kind : RouteKind) :
    (c.addBus name stopNames kind).DecidedBy (stopNames.findSome? (stopFault? requests))
      fun _ => True := by
  exact hwell.addBus_decidedBy hc.knownStop_decidedBy name stopNames kind

/-- The first pass. -/
theorem loadStops_decidedBy (requests : List (BaseRequest α)) :
    (requests.foldlM loadStop .empty).DecidedBy (requests.findSome? BaseRequest.placeFault?)
      fun _ => True := by
  refine Outcome.DecidedBy.foldlM trivial ?_
  rintro c - (⟨name, latitude, longitude, roads⟩ | ⟨name, stops, isRoundTrip⟩) -
  · simp only [loadStop, BaseRequest.placeFault?]
    cases Coordinates.ofDegrees latitude longitude with
    | ok p => exact Outcome.decidedBy_value trivial
    | error error => exact Outcome.decidedBy_failed _
  · exact Outcome.decidedBy_value trivial

/-- The second pass. -/
theorem Knows.loadRoads_decidedBy (hc : c.Knows requests) :
    (requests.foldlM loadRoads c).DecidedBy
      ((requests.findSome? (BaseRequest.roadsFault? requests)).map .catalogue)
      fun _ => True := by
  rw [List.map_findSome?]
  suffices h : (requests.foldlM loadRoads c).DecidedBy
      (requests.findSome? (Option.map LoadError.catalogue ∘ BaseRequest.roadsFault? requests))
      fun c' => c'.stops = c.stops from h.imp fun _ _ _ => trivial
  refine Outcome.DecidedBy.foldlM ?_ ?_
  · rfl
  rintro c₁ hc₁ (⟨name, latitude, longitude, roads⟩ | ⟨name, stops, isRoundTrip⟩) hmem
  · have hknows : c₁.Knows requests := hc.congr (findStop_of_stops_eq hc₁)
    have hroads := hknows.setRoads_decidedBy ⟨latitude, longitude, roads, hmem⟩ roads
    exact (hroads.imp fun c₂ _ hc₂ => hc₂.trans hc₁).mapFailure LoadError.catalogue
  · exact Outcome.decidedBy_value hc₁

/-- The third pass. -/
theorem Knows.loadBuses_decidedBy (hc : c.Knows requests) (hreachable : c.Reachable) :
    (requests.foldlM loadBus c).DecidedBy
      ((requests.findSome? (BaseRequest.stopsFault? requests)).map .catalogue)
      fun _ => True := by
  rw [List.map_findSome?]
  suffices h : (requests.foldlM loadBus c).DecidedBy
      (requests.findSome? (Option.map LoadError.catalogue ∘ BaseRequest.stopsFault? requests))
      fun c' => c'.Reachable ∧ c'.Knows requests from h.imp fun _ _ _ => trivial
  refine Outcome.DecidedBy.foldlM ⟨hreachable, hc⟩ ?_
  rintro c₁ ⟨hreachable₁, hc₁⟩ (⟨name, latitude, longitude, roads⟩ | ⟨name, stops, isRoundTrip⟩) -
  · exact Outcome.decidedBy_value ⟨hreachable₁, hc₁⟩
  · have hwell := hreachable₁.wellFormed
    have hadd := hc₁.addBus_decidedBy hwell name stops (.ofRoundTrip isRoundTrip)
    refine ((hadd.imp fun _ h _ => h).mapFailure LoadError.catalogue).bind_value ?_
    rintro ⟨bus, c₂⟩ hadd
    refine ⟨c₂, rfl, hreachable₁.addBus hadd, hc₁.congr ?_⟩
    exact findStop_congr hwell.stops_distinct (hwell.addBus hadd).stops_distinct
      fun stop => (stopName?_addBus hwell hadd stop).1

/-- **Loading is decided by what is wrong with the description.** -/
theorem ofRequests_decidedBy (requests : List (BaseRequest α)) :
    (ofRequests requests).DecidedBy (loadFault? requests)
      fun c => ofRequests requests = .value c := by
  suffices h : (ofRequests requests).DecidedBy (loadFault? requests) fun _ => True from
    h.imp fun _ hc _ => hc
  refine ((loadStops_decidedBy requests).imp fun _ h _ => h).bind fun c₁ h₁ => ?_
  have hreachable := (loadStops_spec h₁).1
  have hknows : c₁.Knows requests := fun name => exists_findStop_of_loadStops h₁
  refine (hknows.loadRoads_decidedBy.imp fun _ h _ => h).bind fun c₂ h₂ => ?_
  obtain ⟨hstops, -, hreachable₂⟩ := loadRoads_spec hreachable.wellFormed.stops_distinct h₂
  exact (hknows.congr (findStop_of_stops_eq hstops)).loadBuses_decidedBy (hreachable₂ hreachable)

/-- **Exactly what is loadable is loaded.** -/
theorem exists_ofRequests_iff : (∃ c, ofRequests requests = .value c) ↔ Loadable requests := by
  rw [(ofRequests_decidedBy requests).exists_value_iff, loadFault?_eq_none_iff]

end Catalogue

end BusNetwork
