import BusNetwork.Document.Loading
import BusNetwork.Proofs.Catalogue
import Mathlib.Data.List.Induction

/-!
# What loading a description comes to

Loading goes through the entries of a description in three passes. What comes of it can be said
without passes and without an order:

* `Loadable requests` — every stop stands on the earth, every road leads to a stop of the
  description and has a length, and every bus lists stops of the description.
* `Catalogue.Describes requests c` — the stops of the catalogue are those of the description, and so
  are the buses and the roads. **So it is with the catalogue that is loaded**, if no two stops and
  no two buses of the description have one name (`describes_of_ofRequests`).
-/

set_option linter.unusedSectionVars false

namespace BusNetwork

variable {α : Type} [Quantity α]

/-- The name of a stop that is described. -/
def BaseRequest.stopName? : BaseRequest α → Option String
  | stop name _ _ _ => some name
  | bus _ _ _ => none

/-- The name of a bus that is described. -/
def BaseRequest.busName? : BaseRequest α → Option String
  | stop _ _ _ _ => none
  | bus name _ _ => some name

/-- Whether a description has a stop of a name. -/
def Declares (requests : List (BaseRequest α)) (name : String) : Prop :=
  ∃ latitude longitude roads, .stop name latitude longitude roads ∈ requests

/-- What a description needs to be loaded. -/
structure Loadable (requests : List (BaseRequest α)) : Prop where
  /-- Every stop stands on the earth. -/
  onEarth {name : String} {latitude longitude : α} {roads : List (String × α)} :
    .stop name latitude longitude roads ∈ requests →
      ∃ p, Coordinates.ofDegrees latitude longitude = .ok p
  /-- Every road leads to a stop of the description and has a length. -/
  roads_valid {name : String} {latitude longitude : α} {roads : List (String × α)} :
    .stop name latitude longitude roads ∈ requests → ∀ road ∈ roads,
      Declares requests road.1 ∧ Quantity.isFinite road.2 = true ∧ ¬ road.2 < Quantity.zero
  /-- Every bus lists stops of the description. -/
  stops_declared {name : String} {stops : List String} {isRoundTrip : Bool} :
    .bus name stops isRoundTrip ∈ requests → ∀ stop ∈ stops, Declares requests stop

/-- One more request for a stop declares its name beside those declared before. -/
theorem declares_concat_stop {requests : List (BaseRequest α)} {name other : String}
    {latitude longitude : α} {roads : List (String × α)} :
    Declares (requests ++ [.stop name latitude longitude roads]) other ↔
      Declares requests other ∨ other = name := by
  simp only [Declares, List.mem_append, List.mem_singleton, BaseRequest.stop.injEq]
  constructor
  · rintro ⟨x, y, z, hmem | ⟨hname, -⟩⟩
    · exact .inl ⟨x, y, z, hmem⟩
    · exact .inr hname
  · rintro (⟨x, y, z, hmem⟩ | hname)
    · exact ⟨x, y, z, .inl hmem⟩
    · exact ⟨latitude, longitude, roads, .inr ⟨hname, rfl, rfl, rfl⟩⟩

/-- One more request for a bus declares no stop. -/
theorem declares_concat_bus {requests : List (BaseRequest α)} {name other : String}
    {stops : List String} {isRoundTrip : Bool} :
    Declares (requests ++ [.bus name stops isRoundTrip]) other ↔ Declares requests other := by
  simp [Declares]

/-- Where no two stops have one name, no entry before is of the same stop. -/
theorem not_mem_of_concat_stop {requests : List (BaseRequest α)} {name : String}
    {latitude longitude : α} {roads : List (String × α)}
    (h : ((requests ++ [BaseRequest.stop name latitude longitude roads]).filterMap
      BaseRequest.stopName?).Nodup) {x y : α} {z : List (String × α)} :
    .stop name x y z ∉ requests := by
  rw [List.filterMap_append, List.nodup_append] at h
  obtain ⟨-, -, hnew⟩ := h
  intro hmem
  exact hnew name (List.mem_filterMap.2 ⟨_, hmem, rfl⟩) name (by simp [BaseRequest.stopName?]) rfl

/-- The entry of a stop, where no two stops have one name. -/
theorem mem_concat_stop {requests : List (BaseRequest α)} {name : String} {latitude longitude : α}
    {roads : List (String × α)}
    (h : ((requests ++ [BaseRequest.stop name latitude longitude roads]).filterMap
      BaseRequest.stopName?).Nodup) {other : String} {x y : α} {z : List (String × α)} :
    .stop other x y z ∈ requests ++ [.stop name latitude longitude roads] ↔
      (other ≠ name ∧ .stop other x y z ∈ requests) ∨
        (other = name ∧ x = latitude ∧ y = longitude ∧ z = roads) := by
  rw [List.mem_append, List.mem_singleton, BaseRequest.stop.injEq]
  refine or_congr_left ⟨fun hmem => ⟨?_, hmem⟩, fun hmem => hmem.2⟩
  rintro rfl
  exact not_mem_of_concat_stop h hmem

/-- The entry of a bus, where no two buses have one name. -/
theorem mem_concat_bus {requests : List (BaseRequest α)} {name : String} {stops : List String}
    {isRoundTrip : Bool}
    (h : ((requests ++ [BaseRequest.bus name stops isRoundTrip]).filterMap
      BaseRequest.busName?).Nodup) {other : String} {x : List String} {y : Bool} :
    .bus other x y ∈ requests ++ [.bus name stops isRoundTrip] ↔
      (other ≠ name ∧ .bus other x y ∈ requests) ∨
        (other = name ∧ x = stops ∧ y = isRoundTrip) := by
  rw [List.filterMap_append, List.nodup_append] at h
  obtain ⟨-, -, hnew⟩ := h
  rw [List.mem_append, List.mem_singleton, BaseRequest.bus.injEq]
  refine or_congr_left ⟨fun hmem => ⟨?_, hmem⟩, fun hmem => hmem.2⟩
  exact hnew other (List.mem_filterMap.2 ⟨_, hmem, rfl⟩) name (by simp [BaseRequest.busName?])

/-- Whether a description can be loaded does not depend on its order. -/
theorem Loadable.perm {requests requests' : List (BaseRequest α)} (h : Loadable requests)
    (hperm : requests.Perm requests') : Loadable requests' := by
  have hdeclares : ∀ {name}, Declares requests name → Declares requests' name := by
    rintro name ⟨latitude, longitude, roads, hmem⟩
    exact ⟨latitude, longitude, roads, hperm.mem_iff.1 hmem⟩
  refine ⟨fun hmem => h.onEarth (hperm.mem_iff.2 hmem), fun hmem road hroad => ?_,
    fun hmem stop hstop => hdeclares (h.stops_declared (hperm.mem_iff.2 hmem) stop hstop)⟩
  obtain ⟨hdeclared, hlength⟩ := h.roads_valid (hperm.mem_iff.2 hmem) road hroad
  exact ⟨hdeclares hdeclared, hlength⟩

namespace Catalogue

variable {requests : List (BaseRequest α)} {c c' : Catalogue α}

/-! ## The first pass -/

/-- The first pass takes a stop with its checked coordinates and passes over a bus. -/
theorem loadStop_eq_value_iff {r : BaseRequest α} : c.loadStop r = .value c' ↔
    (∃ name latitude longitude roads p, r = .stop name latitude longitude roads ∧
      Coordinates.ofDegrees latitude longitude = .ok p ∧ c' = (c.addStop name p).2) ∨
    ∃ name stops isRoundTrip, r = .bus name stops isRoundTrip ∧ c' = c := by
  cases r with
  | stop name latitude longitude roads =>
      unfold loadStop
      cases hp : Coordinates.ofDegrees latitude longitude <;> simp [hp, eq_comm]
  | bus name stops isRoundTrip => simp [loadStop, eq_comm]

/-- What the first pass leaves: the stops of the entries gone through, and nothing else. -/
theorem loadStops_spec (h : requests.foldlM loadStop .empty = .value c) :
    c.Reachable ∧ c.buses = .empty ∧ c.distances = .empty ∧
      ∀ name, c.stops.get? name = none ↔ ¬ Declares requests name := by
  induction requests using List.reverseRecOn generalizing c with
  | nil =>
      obtain rfl : Catalogue.empty = c := by simpa using h
      exact ⟨.empty, rfl, rfl, fun name => by simp [Declares, Register.empty, Register.get?]⟩
  | append_singleton before r ih =>
      obtain ⟨c₀, hbefore, hr⟩ := Outcome.foldlM_concat.1 h
      obtain ⟨hreachable, hbuses, hdistances, hnames⟩ := ih hbefore
      rcases loadStop_eq_value_iff.1 hr with ⟨name, latitude, longitude, roads, p, rfl, -, rfl⟩ |
        ⟨name, stops, isRoundTrip, rfl, rfl⟩
      · obtain ⟨hbuses', hdistances'⟩ := buses_addStop c₀ name p
        refine ⟨hreachable.addStop name p, hbuses'.trans hbuses, hdistances'.trans hdistances, ?_⟩
        intro other
        rw [declares_concat_stop]
        by_cases hother : other = name
        · subst hother
          simp [stops_addStop, Register.get?_put_self]
        · rw [stops_addStop, Register.get?_put_of_ne _ hother, hnames]
          simp [hother]
      · refine ⟨hreachable, hbuses, hdistances, ?_⟩
        intro other
        rw [declares_concat_bus, hnames]

/-- The stops stand where their entries say. -/
theorem coordinates_loadStops (h : requests.foldlM loadStop .empty = .value c)
    (hnodup : (requests.filterMap BaseRequest.stopName?).Nodup) (name : String)
    (p : Coordinates α) : (c.stops.get? name).map Stop.coordinates = some p ↔
      ∃ latitude longitude roads, .stop name latitude longitude roads ∈ requests ∧
        Coordinates.ofDegrees latitude longitude = .ok p := by
  induction requests using List.reverseRecOn generalizing c with
  | nil =>
      obtain rfl : Catalogue.empty = c := by simpa using h
      simp [Register.empty, Register.get?]
  | append_singleton before r ih =>
      obtain ⟨c₀, hbefore, hr⟩ := Outcome.foldlM_concat.1 h
      have hfewer : (before.filterMap BaseRequest.stopName?).Nodup := by
        rw [List.filterMap_append] at hnodup
        exact hnodup.of_append_left
      rcases loadStop_eq_value_iff.1 hr with ⟨other, latitude, longitude, roads, q, rfl, hq, rfl⟩ |
        ⟨other, stops, isRoundTrip, rfl, rfl⟩
      · simp only [mem_concat_stop hnodup]
        by_cases hname : name = other
        · subst hname
          have hput : ((c₀.addStop name q).2.stops.get? name).map Stop.coordinates = some q := by
            rw [stops_addStop, Register.get?_put_self]
            rfl
          rw [hput]
          simp [hq, eq_comm]
        · rw [stops_addStop, Register.get?_put_of_ne _ hname, ih hbefore hfewer]
          simp [hname]
      · rw [ih hbefore hfewer]
        simp

/-! ## The second pass -/

/-- What recording the roads from a stop leaves: of the roads to one stop the last counts. -/
theorem setRoads_spec (hc : c.stops.Distinct) {origin : String} {roads : List (String × α)}
    (h : c.setRoads origin roads = .value c') :
    c'.stops = c.stops ∧ c'.buses = c.buses ∧ (c.Reachable → c'.Reachable) ∧
      ∀ {n m : String} {a b : StopId}, c.findStop n = some a → c.findStop m = some b →
        c'.distances.get? (a, b) = if n = origin then
          (roads.reverse.lookup m).or (c.distances.get? (a, b)) else c.distances.get? (a, b) := by
  induction roads using List.reverseRecOn generalizing c' with
  | nil =>
      obtain rfl : c = c' := by simpa [setRoads] using h
      exact ⟨rfl, rfl, id, fun _ _ => by simp⟩
  | append_singleton before road ih =>
      obtain ⟨target, meters⟩ := road
      obtain ⟨c₁, hbefore, hset⟩ := Outcome.foldlM_concat.1 h
      obtain ⟨hstops, hbuses, hreachable, hget⟩ := ih hbefore
      refine ⟨?_, ?_, fun hr => (hreachable hr).setDistance hset, ?_⟩
      · obtain ⟨a', b', -, -, -, -, rfl⟩ := setDistance_eq_value_iff.1 hset
        exact hstops
      · obtain ⟨a', b', -, -, -, -, rfl⟩ := setDistance_eq_value_iff.1 hset
        exact hbuses
      intro n m a b hn hm
      obtain ⟨a', b', ha', hb', -, -, rfl⟩ := setDistance_eq_value_iff.1 hset
      rw [findStop_of_stops_eq hstops] at ha' hb'
      rw [List.reverse_append, List.reverse_singleton, List.singleton_append]
      by_cases hpair : n = origin ∧ m = target
      · obtain ⟨rfl, rfl⟩ := hpair
        obtain rfl : a = a' := Option.some.inj (hn.symm.trans ha')
        obtain rfl : b = b' := Option.some.inj (hm.symm.trans hb')
        simp [Register.get?_put_self]
      · have hne : (a, b) ≠ (a', b') := by
          rintro heq
          obtain ⟨rfl, rfl⟩ := Prod.mk.inj heq
          exact hpair ⟨findStop_inj hc hn ha', findStop_inj hc hm hb'⟩
        rw [Register.get?_put_of_ne _ hne, hget hn hm]
        by_cases horigin : n = origin
        · have htarget : (m == target) = false := beq_false_of_ne fun hm => hpair ⟨horigin, hm⟩
          simp [horigin, List.lookup_cons, htarget]
        · simp [horigin]

/-- The second pass takes the roads of a stop and passes over a bus. -/
theorem loadRoads_eq_value_iff {r : BaseRequest α} : c.loadRoads r = .value c' ↔
    (∃ name latitude longitude roads, r = .stop name latitude longitude roads ∧
      c.setRoads name roads = .value c') ∨
    ∃ name stops isRoundTrip, r = .bus name stops isRoundTrip ∧ c' = c := by
  cases r with
  | stop name latitude longitude roads => simp [loadRoads]
  | bus name stops isRoundTrip => simp [loadRoads, eq_comm]

/-- What the second pass leaves: the roads of the entries gone through. -/
theorem loadRoads_spec (hc : c.stops.Distinct) (h : requests.foldlM loadRoads c = .value c') :
    c'.stops = c.stops ∧ c'.buses = c.buses ∧ (c.Reachable → c'.Reachable) := by
  induction requests using List.reverseRecOn generalizing c' with
  | nil =>
      obtain rfl : c = c' := by simpa using h
      exact ⟨rfl, rfl, id⟩
  | append_singleton before r ih =>
      obtain ⟨c₁, hbefore, hr⟩ := Outcome.foldlM_concat.1 h
      obtain ⟨hstops, hbuses, hreachable⟩ := ih hbefore
      rcases loadRoads_eq_value_iff.1 hr with ⟨name, latitude, longitude, roads, rfl, hset⟩ |
        ⟨name, stops, isRoundTrip, rfl, rfl⟩
      · obtain ⟨hstops', hbuses', hreachable', -⟩ := setRoads_spec (hstops ▸ hc) hset
        exact ⟨hstops'.trans hstops, hbuses'.trans hbuses, hreachable' ∘ hreachable⟩
      · exact ⟨hstops, hbuses, hreachable⟩

/-- The roads are those of the entries. -/
theorem distances_loadRoads (hc : c.stops.Distinct) (hempty : c.distances = .empty)
    (h : requests.foldlM loadRoads c = .value c')
    (hnodup : (requests.filterMap BaseRequest.stopName?).Nodup) {n m : String} {a b : StopId}
    (hn : c.findStop n = some a) (hm : c.findStop m = some b) :
    ∀ meters, c'.distances.get? (a, b) = some meters ↔ ∃ latitude longitude roads,
      .stop n latitude longitude roads ∈ requests ∧ roads.reverse.lookup m = some meters := by
  induction requests using List.reverseRecOn generalizing c' with
  | nil =>
      obtain rfl : c = c' := by simpa using h
      simp [hempty, Register.empty, Register.get?]
  | append_singleton before r ih =>
      obtain ⟨c₁, hbefore, hr⟩ := Outcome.foldlM_concat.1 h
      obtain ⟨hstops, -, -⟩ := loadRoads_spec hc hbefore
      have hfewer : (before.filterMap BaseRequest.stopName?).Nodup := by
        rw [List.filterMap_append] at hnodup
        exact hnodup.of_append_left
      have hbefore' := ih hbefore hfewer
      rcases loadRoads_eq_value_iff.1 hr with ⟨name, latitude, longitude, roads, rfl, hset⟩ |
        ⟨name, stops, isRoundTrip, rfl, rfl⟩
      · obtain ⟨-, -, -, hget⟩ := setRoads_spec (hstops ▸ hc) hset
        have hn₁ : c₁.findStop n = some a := by rw [findStop_of_stops_eq hstops, hn]
        have hm₁ : c₁.findStop m = some b := by rw [findStop_of_stops_eq hstops, hm]
        simp only [mem_concat_stop hnodup, hget hn₁ hm₁]
        by_cases hname : n = name
        · -- no entry before was of this stop, so none of its roads was recorded
          subst hname
          have hnone : c₁.distances.get? (a, b) = none := by
            rw [Option.eq_none_iff_forall_ne_some]
            intro x hx
            obtain ⟨_, _, _, hmem, -⟩ := (hbefore' x).1 hx
            exact not_mem_of_concat_stop hnodup hmem
          simp [hnone]
        · simp [hname, hbefore']
      · simp [hbefore']

/-! ## The third pass -/

/-- The third pass takes a bus of its kind and passes over a stop. -/
theorem loadBus_eq_value_iff {r : BaseRequest α} : c.loadBus r = .value c' ↔
    (∃ name stops isRoundTrip bus, r = .bus name stops isRoundTrip ∧
      c.addBus name stops (.ofRoundTrip isRoundTrip) = .value (bus, c')) ∨
    ∃ name latitude longitude roads, r = .stop name latitude longitude roads ∧ c' = c := by
  cases r with
  | stop name latitude longitude roads => simp [loadBus, eq_comm]
  | bus name stops isRoundTrip =>
      simp only [loadBus, Outcome.bind_eq_value_iff, Outcome.mapFailure_eq_value_iff,
        Outcome.pure_eq, Outcome.value.injEq]
      constructor
      · rintro ⟨⟨bus, _⟩, hadd, rfl⟩
        exact .inl ⟨name, stops, isRoundTrip, bus, rfl, hadd⟩
      · rintro (⟨_, _, _, bus, heq, hadd⟩ | ⟨_, _, _, _, heq, -⟩)
        · obtain ⟨rfl, rfl, rfl⟩ := BaseRequest.bus.inj heq
          exact ⟨_, hadd, rfl⟩
        · cases heq

/-- What the third pass leaves as it was: the stops, apart from their indexes, and the roads. -/
theorem loadBuses_spec (hc : c.Reachable) (h : requests.foldlM loadBus c = .value c') :
    c'.Reachable ∧ c'.distances = c.distances ∧ ∀ stop,
      c'.stopName? stop = c.stopName? stop ∧ c'.coordinates? stop = c.coordinates? stop := by
  induction requests using List.reverseRecOn generalizing c' with
  | nil =>
      obtain rfl : c = c' := by simpa using h
      exact ⟨hc, rfl, fun stop => ⟨rfl, rfl⟩⟩
  | append_singleton before r ih =>
      obtain ⟨c₁, hbefore, hr⟩ := Outcome.foldlM_concat.1 h
      obtain ⟨hreachable, hdistances, hstops⟩ := ih hbefore
      rcases loadBus_eq_value_iff.1 hr with ⟨name, stops, isRoundTrip, bus, rfl, hadd⟩ |
        ⟨name, latitude, longitude, roads, rfl, rfl⟩
      · have hwell := hreachable.wellFormed
        obtain ⟨_, -, -, hdistances', -⟩ := of_addBus hwell hadd
        refine ⟨hreachable.addBus hadd, hdistances'.trans hdistances, ?_⟩
        intro stop
        obtain ⟨hname, hcoordinates⟩ := stopName?_addBus hwell hadd stop
        exact ⟨hname.trans (hstops stop).1, hcoordinates.trans (hstops stop).2⟩
      · exact ⟨hreachable, hdistances, hstops⟩

/-- The buses are those of the entries. -/
theorem buses_loadBuses (hc : c.Reachable) (hempty : c.buses = .empty)
    (h : requests.foldlM loadBus c = .value c')
    (hnodup : (requests.filterMap BaseRequest.busName?).Nodup) (name : String) (line : Bus) :
    c'.buses.get? name = some line ↔ ∃ stops isRoundTrip,
      .bus name stops isRoundTrip ∈ requests ∧ line.kind = .ofRoundTrip isRoundTrip ∧
        List.Forall₂ (fun n s => c.findStop n = some s) stops line.stops := by
  induction requests using List.reverseRecOn generalizing c' with
  | nil =>
      obtain rfl : c = c' := by simpa using h
      simp [hempty, Register.empty, Register.get?]
  | append_singleton before r ih =>
      obtain ⟨c₁, hbefore, hr⟩ := Outcome.foldlM_concat.1 h
      have hfewer : (before.filterMap BaseRequest.busName?).Nodup := by
        rw [List.filterMap_append] at hnodup
        exact hnodup.of_append_left
      have hbefore' := ih hbefore hfewer
      rcases loadBus_eq_value_iff.1 hr with ⟨other, stops, isRoundTrip, bus, rfl, hadd⟩ |
        ⟨other, latitude, longitude, roads, rfl, rfl⟩
      · obtain ⟨hreachable, -, hstops⟩ := loadBuses_spec hc hbefore
        have hwell := hreachable.wellFormed
        obtain ⟨listed, hlisted, hbuses, -, -⟩ := of_addBus hwell hadd
        have hfind := findStop_congr hc.wellFormed.stops_distinct hwell.stops_distinct
          fun stop => (hstops stop).1
        simp only [hfind] at hlisted
        rw [hbuses]
        simp only [mem_concat_bus hnodup]
        by_cases hname : name = other
        · subst hname
          rw [Register.get?_put_self, Option.some.injEq]
          constructor
          · rintro rfl
            exact ⟨stops, isRoundTrip, .inr ⟨rfl, rfl, rfl⟩, rfl, hlisted⟩
          · rintro ⟨stops', isRoundTrip', ⟨hne, -⟩ | ⟨-, rfl, rfl⟩, hkind, hline⟩
            · exact absurd rfl hne
            · obtain ⟨lineStops, kind⟩ := line
              obtain rfl : kind = _ := hkind
              obtain rfl : listed = lineStops :=
                List.right_unique_forall₂' (fun n s t hs ht => Option.some.inj (hs.symm.trans ht))
                  hlisted hline
              rfl
        · rw [Register.get?_put_of_ne _ hname, hbefore']
          simp [hname]
      · rw [hbefore']
        simp

/-! ## Loading as a whole -/

/-- A catalogue has exactly the stops, the roads and the buses of a description. -/
structure Describes (requests : List (BaseRequest α)) (c : Catalogue α) : Prop where
  /-- The stops are those of the description. -/
  exists_findStop_iff {name : String} : (∃ s, c.findStop name = some s) ↔ Declares requests name
  /-- They stand where it says. -/
  coordinates?_iff {name : String} {s : StopId} {p : Coordinates α} : c.findStop name = some s →
    (c.coordinates? s = some p ↔ ∃ latitude longitude roads,
      .stop name latitude longitude roads ∈ requests ∧
        Coordinates.ofDegrees latitude longitude = .ok p)
  /-- The roads are those of the description. -/
  distances_iff {n m : String} {a b : StopId} {meters : α} : c.findStop n = some a →
    c.findStop m = some b → (c.distances.get? (a, b) = some meters ↔
      ∃ latitude longitude roads, .stop n latitude longitude roads ∈ requests ∧
        roads.reverse.lookup m = some meters)
  /-- The buses are those of the description. -/
  buses_iff {name : String} {line : Bus} : c.buses.get? name = some line ↔
    ∃ stops isRoundTrip, .bus name stops isRoundTrip ∈ requests ∧
      line.kind = .ofRoundTrip isRoundTrip ∧
        List.Forall₂ (fun n s => c.findStop n = some s) stops line.stops

/-- A description in another order describes the same. -/
theorem Describes.perm {requests' : List (BaseRequest α)} (h : Describes requests c)
    (hperm : requests.Perm requests') : Describes requests' c := by
  refine ⟨?_, ?_, ?_, ?_⟩
  · intro name
    simp only [h.exists_findStop_iff, Declares, hperm.mem_iff]
  · intro name s p hs
    simp only [h.coordinates?_iff hs, hperm.mem_iff]
  · intro n m a b meters hn hm
    simp only [h.distances_iff hn hm, hperm.mem_iff]
  · intro name line
    simp only [h.buses_iff, hperm.mem_iff]

/-- A stop has a position where it is described. -/
theorem exists_findStop_of_loadStops {name : String}
    (h : requests.foldlM loadStop .empty = .value c) :
    (∃ s, c.findStop name = some s) ↔ Declares requests name := by
  obtain ⟨hreachable, -, -, hnames⟩ := loadStops_spec h
  rw [← Option.ne_none_iff_exists', Ne, findStop_eq,
    ← Register.get?_eq_none_iff hreachable.wellFormed.stops_distinct, hnames, not_not]

/-- What the three passes leave, one after the other. -/
structure Passes (requests : List (BaseRequest α)) (withStops withRoads c : Catalogue α) :
    Prop where
  /-- The first pass registers the stops. -/
  loadStops : requests.foldlM loadStop .empty = .value withStops
  /-- The second one records the roads. -/
  loadRoads : requests.foldlM loadRoads withStops = .value withRoads
  /-- The third one registers the buses. -/
  loadBuses : requests.foldlM loadBus withRoads = .value c
  /-- The catalogue with the stops can come about. -/
  reachable_withStops : withStops.Reachable
  /-- It has no roads. -/
  distances_withStops : withStops.distances = .empty
  /-- The catalogue with the roads can come about. -/
  reachable_withRoads : withRoads.Reachable
  /-- It has the same stops. -/
  stops_withRoads : withRoads.stops = withStops.stops
  /-- It has no buses. -/
  buses_withRoads : withRoads.buses = .empty
  /-- The catalogue that is left can come about. -/
  reachable : c.Reachable
  /-- It has the same roads. -/
  distances_eq : c.distances = withRoads.distances
  /-- It has stops of the same names. -/
  findStop_eq (name : String) : c.findStop name = withStops.findStop name
  /-- They stand where they stood. -/
  coordinates?_eq (stop : StopId) : c.coordinates? stop = withStops.coordinates? stop

/-- Loading is going through the three passes. -/
theorem exists_passes (h : ofRequests requests = .value c) :
    ∃ withStops withRoads, Passes requests withStops withRoads c := by
  obtain ⟨c₁, h₁, h⟩ := Outcome.bind_eq_value_iff.1 h
  obtain ⟨c₂, h₂, h₃⟩ := Outcome.bind_eq_value_iff.1 h
  obtain ⟨hreachable₁, hempty, hempty', -⟩ := loadStops_spec h₁
  obtain ⟨hstops, hbuses, hreachable₂⟩ :=
    loadRoads_spec hreachable₁.wellFormed.stops_distinct h₂
  replace hreachable₂ := hreachable₂ hreachable₁
  obtain ⟨hreachable, hdistances, hsame⟩ := loadBuses_spec hreachable₂ h₃
  refine ⟨c₁, c₂, h₁, h₂, h₃, hreachable₁, hempty', hreachable₂, hstops, hbuses.trans hempty,
    hreachable, hdistances, ?_, ?_⟩
  · intro name
    rw [findStop_congr hreachable₂.wellFormed.stops_distinct hreachable.wellFormed.stops_distinct
      fun stop => (hsame stop).1, findStop_of_stops_eq hstops]
  · intro stop
    rw [(hsame stop).2, coordinates?_eq, hstops, ← coordinates?_eq]

/-- Whatever is loaded is reachable. -/
theorem reachable_of_ofRequests (h : ofRequests requests = .value c) : c.Reachable := by
  obtain ⟨_, _, hpasses⟩ := exists_passes h
  exact hpasses.reachable

/-- What is loaded has the stops that are described. -/
theorem exists_findStop_iff (h : ofRequests requests = .value c) {name : String} :
    (∃ s, c.findStop name = some s) ↔ Declares requests name := by
  obtain ⟨_, _, hpasses⟩ := exists_passes h
  simp only [hpasses.findStop_eq]
  exact exists_findStop_of_loadStops hpasses.loadStops

/-- **What is loaded is what is described**, if no two stops and no two buses have one name. -/
theorem describes_of_ofRequests (h : ofRequests requests = .value c)
    (hstops : (requests.filterMap BaseRequest.stopName?).Nodup)
    (hbuses : (requests.filterMap BaseRequest.busName?).Nodup) : Describes requests c := by
  obtain ⟨c₁, c₂, hpasses⟩ := exists_passes h
  have hdistinct := hpasses.reachable_withStops.wellFormed.stops_distinct
  refine ⟨exists_findStop_iff h, ?_, ?_, ?_⟩
  · intro name s p hs
    rw [hpasses.findStop_eq, findStop_eq] at hs
    have hcoordinates : c.coordinates? s = (c₁.stops.get? name).map Stop.coordinates := by
      rw [hpasses.coordinates?_eq, coordinates?_eq, Register.get?_eq_bind_position?, hs,
        Option.bind_some, Option.map_map]
      rfl
    rw [hcoordinates]
    exact coordinates_loadStops hpasses.loadStops hstops name p
  · intro n m a b meters hn hm
    rw [hpasses.distances_eq]
    rw [hpasses.findStop_eq] at hn hm
    exact distances_loadRoads hdistinct hpasses.distances_withStops hpasses.loadRoads hstops hn hm
      meters
  · intro name line
    simp only [hpasses.findStop_eq, ← findStop_of_stops_eq hpasses.stops_withRoads]
    exact buses_loadBuses hpasses.reachable_withRoads hpasses.buses_withRoads hpasses.loadBuses
      hbuses name line

end Catalogue

end BusNetwork
