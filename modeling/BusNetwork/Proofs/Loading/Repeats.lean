import BusNetwork.Proofs.Bus
import BusNetwork.Proofs.Loading.Faults

/-!
# Descriptions in which names come again

`Loaded requests c` says what a catalogue has of a description whose names may come again: **a bus
has the place of its first definition and the stops of its last one**, and a road is recorded
between two stops if any entry of the one has a road to the other. So it is with every catalogue
that is loaded (`loaded_of_ofRequests`).
-/

set_option linter.unusedSectionVars false

namespace BusNetwork

variable {α : Type} [Quantity α] {requests : List (BaseRequest α)}

/-- Whether a description has a bus of a name. -/
def DeclaresBus (requests : List (BaseRequest α)) (name : String) : Prop :=
  ∃ stops isRoundTrip, .bus name stops isRoundTrip ∈ requests

/-- The names of the buses, in the order in which they first come. -/
def busNames (requests : List (BaseRequest α)) : List String :=
  (requests.filterMap BaseRequest.busName?).eraseDups

/-- The names of the buses in requests are those that the requests declare. -/
theorem mem_busNames_iff {name : String} :
    name ∈ busNames requests ↔ DeclaresBus requests name := by
  rw [busNames, List.mem_eraseDups, List.mem_filterMap]
  constructor
  · rintro ⟨r, hr, hname⟩
    cases r with
    | stop => cases hname
    | bus other stops isRoundTrip =>
        obtain rfl : other = name := Option.some.inj hname
        exact ⟨stops, isRoundTrip, hr⟩
  · rintro ⟨stops, isRoundTrip, hr⟩
    exact ⟨_, hr, rfl⟩

/-- The stops of a bus and whether it is a round trip, if the entry is one of that bus. -/
def BaseRequest.definition? (name : String) : BaseRequest α → Option (List String × Bool)
  | stop _ _ _ _ => none
  | bus other stops isRoundTrip => if other = name then some (stops, isRoundTrip) else none

/-- The last definition of a bus. -/
def lastDefinition? (requests : List (BaseRequest α)) (name : String) :
    Option (List String × Bool) :=
  requests.reverse.findSome? (BaseRequest.definition? name)

/-- The last definition of a bus is in the last request if this has one. -/
theorem lastDefinition?_concat (requests : List (BaseRequest α)) (r : BaseRequest α)
    (name : String) : lastDefinition? (requests ++ [r]) name =
      (r.definition? name).or (lastDefinition? requests name) := by
  rw [lastDefinition?, List.reverse_append, List.reverse_singleton, List.singleton_append,
    Outcome.findSome?_cons_or, lastDefinition?]

/-- The far ends of the roads from a stop. -/
def BaseRequest.roadEnds (name : String) : BaseRequest α → List String
  | stop other _ _ roads => if other = name then roads.map Prod.fst else []
  | bus _ _ _ => []

/-- Whether any entry of one stop has a road to another. -/
def HasRoad (requests : List (BaseRequest α)) (origin target : String) : Prop :=
  ∃ r ∈ requests, target ∈ r.roadEnds origin

/-- Whether a road is listed is looked up request by request. -/
instance (requests : List (BaseRequest α)) (origin target : String) :
    Decidable (HasRoad requests origin target) :=
  inferInstanceAs (Decidable (∃ r ∈ requests, target ∈ r.roadEnds origin))

namespace Catalogue

variable {c c' : Catalogue α}

/-- A bus runs as its definition says. -/
def Follows (c : Catalogue α) (definition : List String × Bool) (line : Bus) : Prop :=
  line.kind = .ofRoundTrip definition.2 ∧
    List.Forall₂ (fun n s => c.findStop n = some s) definition.1 line.stops

/-- What a catalogue has of a description whose names may come again. -/
structure Loaded (requests : List (BaseRequest α)) (c : Catalogue α) : Prop where
  /-- It can come about. -/
  reachable : c.Reachable
  /-- It has the stops that are described. -/
  knows : c.Knows requests
  /-- It has the roads that are described. -/
  exists_recorded_iff {origin target : String} {a b : StopId} : c.findStop origin = some a →
    c.findStop target = some b →
    ((∃ meters, c.distances.get? (a, b) = some meters) ↔ HasRoad requests origin target)
  /-- It has the buses that are described, in the order in which they first come. -/
  names_buses : c.buses.entries.map Prod.fst = busNames requests
  /-- They run as their last definitions say. -/
  get?_buses (name : String) :
    Option.Rel c.Follows (lastDefinition? requests name) (c.buses.get? name)

/-- Of the roads from a stop those that are there are recorded. -/
theorem exists_recorded_loadRoads (hc : c.stops.Distinct) (hempty : c.distances = .empty)
    (h : requests.foldlM loadRoads c = .value c') {origin target : String} {a b : StopId}
    (ha : c.findStop origin = some a) (hb : c.findStop target = some b) :
    (∃ meters, c'.distances.get? (a, b) = some meters) ↔ HasRoad requests origin target := by
  induction requests using List.reverseRecOn generalizing c' with
  | nil =>
      obtain rfl : c = c' := by simpa using h
      simp [hempty, Register.empty, Register.get?, HasRoad]
  | append_singleton before r ih =>
      obtain ⟨c₁, hbefore, hr⟩ := Outcome.foldlM_concat.1 h
      have hstops := (loadRoads_spec hc hbefore).1
      have hconcat : HasRoad (before ++ [r]) origin target ↔
          HasRoad before origin target ∨ target ∈ r.roadEnds origin := by
        simp [HasRoad, or_and_right, exists_or]
      rw [hconcat, ← ih hbefore]
      rcases loadRoads_eq_value_iff.1 hr with ⟨name, latitude, longitude, roads, rfl, hset⟩ |
        ⟨name, stops, isRoundTrip, rfl, rfl⟩
      · obtain ⟨-, -, -, hget⟩ := setRoads_spec (hstops ▸ hc) hset
        have ha₁ : c₁.findStop origin = some a := by rw [findStop_of_stops_eq hstops, ha]
        have hb₁ : c₁.findStop target = some b := by rw [findStop_of_stops_eq hstops, hb]
        rw [hget ha₁ hb₁]
        by_cases hname : origin = name
        · have hlookup : (∃ meters, roads.reverse.lookup target = some meters) ↔
              target ∈ roads.map Prod.fst := by
            rw [← Option.ne_none_iff_exists', Ne, List.lookup_eq_none_iff]
            simp
          rw [if_pos hname, BaseRequest.roadEnds, if_pos hname.symm, ← hlookup]
          cases roads.reverse.lookup target <;> simp
        · rw [if_neg hname, BaseRequest.roadEnds, if_neg (Ne.symm hname)]
          simp
      · simp [BaseRequest.roadEnds]

/-- Of each bus the last definition counts, at the place of the first. -/
theorem loadBuses_last (hc : c.Reachable) (hempty : c.buses = .empty)
    (h : requests.foldlM loadBus c = .value c') :
    c'.buses.entries.map Prod.fst = busNames requests ∧ ∀ name,
      Option.Rel c.Follows (lastDefinition? requests name) (c'.buses.get? name) := by
  induction requests using List.reverseRecOn generalizing c' with
  | nil =>
      obtain rfl : c = c' := by simpa using h
      rw [hempty]
      exact ⟨rfl, fun _ => .none⟩
  | append_singleton before r ih =>
      obtain ⟨c₁, hbefore, hr⟩ := Outcome.foldlM_concat.1 h
      obtain ⟨hnames, hlast⟩ := ih hbefore
      obtain ⟨hreachable, -, hstops⟩ := loadBuses_spec hc hbefore
      rcases loadBus_eq_value_iff.1 hr with ⟨other, stops, isRoundTrip, bus, rfl, hadd⟩ |
        ⟨other, latitude, longitude, roads, rfl, rfl⟩
      · have hwell := hreachable.wellFormed
        obtain ⟨listed, hlisted, hbuses, -, -⟩ := of_addBus hwell hadd
        have hfind := findStop_congr hc.wellFormed.stops_distinct hwell.stops_distinct
          fun stop => (hstops stop).1
        simp only [hfind] at hlisted
        rw [hbuses]
        refine ⟨?_, ?_⟩
        · rw [Register.keys_put, hnames, busNames, busNames, List.filterMap_append]
          simp only [BaseRequest.busName?, List.filterMap_cons, List.filterMap_nil,
            Register.eraseDups_concat, List.mem_eraseDups]
        · intro name
          rw [lastDefinition?_concat]
          by_cases hname : other = name
          · subst hname
            rw [Register.get?_put_self, BaseRequest.definition?, if_pos rfl, Option.some_or]
            exact .some ⟨rfl, hlisted⟩
          · rw [Register.get?_put_of_ne _ (Ne.symm hname), BaseRequest.definition?, if_neg hname,
              Option.none_or]
            exact hlast name
      · refine ⟨?_, ?_⟩
        · rw [hnames, busNames, busNames, List.filterMap_append]
          exact congrArg List.eraseDups (List.append_nil _).symm
        · intro name
          rw [lastDefinition?_concat, BaseRequest.definition?, Option.none_or]
          exact hlast name

/-- **What is loaded is what is described**, also where names come again. -/
theorem loaded_of_ofRequests (h : ofRequests requests = .value c) : Loaded requests c := by
  obtain ⟨c₁, c₂, hpasses⟩ := exists_passes h
  obtain ⟨hnames, hlast⟩ :=
    loadBuses_last hpasses.reachable_withRoads hpasses.buses_withRoads hpasses.loadBuses
  refine ⟨hpasses.reachable, fun name => exists_findStop_iff h, ?_, hnames, ?_⟩
  · intro origin target a b ha hb
    rw [hpasses.findStop_eq] at ha hb
    rw [hpasses.distances_eq]
    exact exists_recorded_loadRoads hpasses.reachable_withStops.wellFormed.stops_distinct
      hpasses.distances_withStops hpasses.loadRoads ha hb
  · intro name
    have hfind : c₂.Follows = c.Follows := by
      funext definition line
      unfold Follows
      simp only [hpasses.findStop_eq, ← findStop_of_stops_eq hpasses.stops_withRoads]
    exact hfind ▸ hlast name

end Catalogue

end BusNetwork
