import BusNetwork.Proofs.Catalogue.Views

/-!
# Catalogues that can come about

`Catalogue.Reachable` is every catalogue that operations make of the empty one. **All of them are
well formed** (`Reachable.wellFormed`): names are distinct, buses list registered stops, recorded
lengths are finite and not negative, and the index of each stop names exactly the registered buses
that list it, in ascending order.

Each operation has one lemma that says what it does (`addStop_spec`, `addBus_spec`,
`setDistance_eq_value_iff`), in terms of positions; the invariant and all else follows from these.
-/

set_option linter.unusedSectionVars false

namespace BusNetwork

namespace Catalogue

variable {α : Type} {c c' : Catalogue α} {name : String} {stop : StopId}

/-! ## Names -/

/-- A stop has the name of its entry. -/
theorem stopName?_eq_some_iff :
    c.stopName? stop = some name ↔ ∃ s, c.stops.at? stop = some (name, s) := by
  simp [stopName?_eq]

/-- A stop is found where its entry is. -/
theorem findStop_iff_at? (hc : c.stops.Distinct) :
    c.findStop name = some stop ↔ ∃ s, c.stops.at? stop = some (name, s) := by
  rw [findStop_eq, Register.position?_eq_some_iff hc]

/-- A bus is found where its entry is. -/
theorem findBus_iff_at? (hc : c.buses.Distinct) {bus : BusId} :
    c.findBus name = some bus ↔ ∃ line, c.buses.at? bus = some (name, line) := by
  rw [findBus_eq, Register.position?_eq_some_iff hc]

/-- A stop is found by its name. -/
theorem findStop_eq_some_iff (hc : c.stops.Distinct) :
    c.findStop name = some stop ↔ c.stopName? stop = some name := by
  rw [findStop_iff_at? hc, stopName?_eq_some_iff]

/-- Every stop of the table has a name. -/
theorem exists_stopName? (h : stop < c.stops.size) : ∃ name, c.stopName? stop = some name := by
  obtain ⟨⟨name, s⟩, hentry⟩ := Register.exists_at? h
  exact ⟨name, stopName?_eq_some_iff.2 ⟨s, hentry⟩⟩

/-- A stop with a name is one of the table. -/
theorem lt_size_of_stopName? (h : c.stopName? stop = some name) : stop < c.stops.size := by
  obtain ⟨s, hs⟩ := stopName?_eq_some_iff.1 h
  exact Register.lt_size_of_at? hs

/-- In a catalogue without repeated names a name tells the stop. -/
theorem stopName?_inj (hc : c.stops.Distinct) {a b : StopId} (ha : c.stopName? a = some name)
    (hb : c.stopName? b = some name) : a = b := by
  obtain ⟨s, hs⟩ := stopName?_eq_some_iff.1 ha
  obtain ⟨t, ht⟩ := stopName?_eq_some_iff.1 hb
  exact hc.position_eq hs ht

/-- A stop that is found is one of the table. -/
theorem lt_size_of_findStop (hc : c.stops.Distinct) (h : c.findStop name = some stop) :
    stop < c.stops.size :=
  lt_size_of_stopName? ((findStop_eq_some_iff hc).1 h)

/-- A stop has one name. -/
theorem findStop_inj (hc : c.stops.Distinct) {other : String} (h : c.findStop name = some stop)
    (h' : c.findStop other = some stop) : name = other := by
  rw [findStop_eq_some_iff hc] at h h'
  exact Option.some.inj (h.symm.trans h')

/-- Stops are found by what is registered of stops. -/
theorem findStop_of_stops_eq (h : c'.stops = c.stops) (name : String) :
    c'.findStop name = c.findStop name := by
  rw [findStop_eq, findStop_eq, h]

/-- Catalogues whose stops have the same names find the same stops. -/
theorem findStop_congr (hc : c.stops.Distinct) (hc' : c'.stops.Distinct)
    (h : ∀ stop, c'.stopName? stop = c.stopName? stop) (name : String) :
    c'.findStop name = c.findStop name := by
  ext stop
  rw [findStop_eq_some_iff hc, findStop_eq_some_iff hc', h]

/-! ## Registering a stop and changing indexes -/

/-- Registering a stop gives its name the coordinates and leaves the other stops as they are. -/
theorem addStop_spec (c : Catalogue α) (name : String) (coordinates : Coordinates α) :
    (c.addStop name coordinates).2.buses = c.buses ∧
      (c.addStop name coordinates).2.distances = c.distances ∧
      ∀ p, (c.addStop name coordinates).2.stops.at? p =
        if p = (c.addStop name coordinates).1 then
          some (name, ⟨coordinates, (c.stops.get? name).elim [] Stop.buses⟩)
        else c.stops.at? p := by
  obtain ⟨hbuses, hdistances⟩ := buses_addStop c name coordinates
  exact ⟨hbuses, hdistances, at?_addStop c name coordinates⟩

end Catalogue

namespace Stop

/-- The stop with one more bus that serves it. -/
def serve (bus : String) (stop : Stop α) : Stop α :=
  { stop with buses := Ascending.insert id bus stop.buses }

/-- The stop without a bus that no longer serves it. -/
def drop (bus : String) (stop : Stop α) : Stop α :=
  { stop with buses := stop.buses.filter (· != bus) }

end Stop

namespace Catalogue

variable {c c' : Catalogue α} {name : String} {stop : StopId}

/-- The stops of the bus of a name that are not listed any more. -/
def formerStops (c : Catalogue α) (name : String) (listed : List StopId) : List StopId :=
  ((c.buses.get? name).elim [] Bus.stops).filter fun stop => !listed.contains stop

/-- What becomes of the stop at a position when the bus of a name lists stops. -/
def reindexed (c : Catalogue α) (name : String) (listed : List StopId) (p : StopId)
    (s : Stop α) : Stop α :=
  if p ∈ listed then s.serve name else if p ∈ c.formerStops name listed then s.drop name else s

/-- Only the list of buses of a stop changes. -/
theorem reindexed_eq (listed : List StopId) (p : StopId) (s : Stop α) :
    c.reindexed name listed p s = { s with
      buses := if p ∈ listed then Ascending.insert id name s.buses
        else if p ∈ c.formerStops name listed then s.buses.filter (· != name) else s.buses } := by
  unfold reindexed
  split_ifs <;> rfl

/-- A stop does not move when a bus is registered. -/
theorem coordinates_reindexed {listed : List StopId} {p : StopId} {s : Stop α} :
    (c.reindexed name listed p s).coordinates = s.coordinates := by
  unfold reindexed
  split_ifs <;> rfl

/-- Registering a bus leaves all other buses in the index of a stop. -/
theorem mem_buses_reindexed_of_ne {listed : List StopId} {p : StopId} {s : Stop α} {line : String}
    (hne : line ≠ name) : line ∈ (c.reindexed name listed p s).buses ↔ line ∈ s.buses := by
  unfold reindexed
  split_ifs
  · simp [Stop.serve, Ascending.mem_insert, hne]
  · simp [Stop.drop, hne]
  · exact Iff.rfl

/-! ## Well-formed catalogues -/

variable [Quantity α]

/-- What holds of every catalogue that can come about. -/
structure WellFormed (c : Catalogue α) : Prop where
  /-- No two stops have one name. -/
  stops_distinct : c.stops.Distinct
  /-- No two buses have one name. -/
  buses_distinct : c.buses.Distinct
  /-- Buses list registered stops. -/
  listed_lt {name : String} {bus : Bus} :
    c.buses.get? name = some bus → ∀ stop ∈ bus.stops, stop < c.stops.size
  /-- Recorded lengths are finite. -/
  isFinite_recorded {pair : StopId × StopId} {meters : α} :
    c.distances.get? pair = some meters → Quantity.isFinite meters = true
  /-- Recorded lengths are not negative. -/
  not_recorded_lt_zero {pair : StopId × StopId} {meters : α} :
    c.distances.get? pair = some meters → ¬ meters < Quantity.zero
  /-- The index of a stop is strictly ascending. -/
  ascending {stop : StopId} {name : String} {s : Stop α} :
    c.stops.at? stop = some (name, s) → s.buses.Pairwise (· < ·)
  /-- The index of a stop names the buses that list it. -/
  mem_buses_iff {stop : StopId} {name : String} {s : Stop α} :
    c.stops.at? stop = some (name, s) → ∀ line, line ∈ s.buses ↔
      ∃ bus, c.buses.get? line = some bus ∧ stop ∈ bus.stops

namespace WellFormed

/-- The empty catalogue is well formed. -/
theorem empty : (empty : Catalogue α).WellFormed where
  stops_distinct := Register.distinct_empty
  buses_distinct := Register.distinct_empty
  listed_lt h := by cases h
  isFinite_recorded h := by cases h
  not_recorded_lt_zero h := by cases h
  ascending h := by cases h
  mem_buses_iff h := by cases h

/-- A bus of a well-formed catalogue serves registered stops. -/
theorem lt_of_mem_traversal (hc : c.WellFormed) {bus : BusId} {line : Bus}
    (hbus : c.buses.at? bus = some (name, line)) (hstop : stop ∈ line.traversal) :
    stop < c.stops.size :=
  hc.listed_lt ((Register.get?_eq_some_iff hc.buses_distinct).2 ⟨bus, hbus⟩) stop
    (Bus.mem_traversal.1 hstop)

/-- The ends of a hop are registered. -/
theorem lt_of_mem_hops (hc : c.WellFormed) {bus : BusId} {line : Bus}
    (hbus : c.buses.at? bus = some (name, line)) {hop : StopId × StopId} (h : hop ∈ line.hops) :
    hop.1 < c.stops.size ∧ hop.2 < c.stops.size := by
  have hmem := List.of_mem_zip (a := hop.1) (b := hop.2) h
  exact ⟨hc.lt_of_mem_traversal hbus hmem.1,
    hc.lt_of_mem_traversal hbus (List.mem_of_mem_tail hmem.2)⟩

end WellFormed

/-! ## Registering a bus and recording a length -/

/-- Registering a bus gives its name the listed stops and the kind, adds the name to the index of
the listed stops and takes it from that of the former ones; and this is all. -/
theorem addBus_spec (hc : c.WellFormed) {stopNames : List String} {listed : List StopId}
    (kind : RouteKind) (hnames : List.Forall₂ (fun n s => c.findStop n = some s) stopNames listed) :
    ∃ c', c.addBus name stopNames kind = .value ((c.buses.put name fun _ => ⟨listed, kind⟩).1, c') ∧
      c'.buses = (c.buses.put name fun _ => ⟨listed, kind⟩).2 ∧ c'.distances = c.distances ∧
      ∀ p, c'.stops.at? p = (c.stops.at? p).map (Prod.map id (c.reindexed name listed p)) := by
  have hknown : stopNames.mapM c.knownStop = .value listed := by
    rw [Outcome.mapM_eq_value_iff]
    exact hnames.imp fun n s => Tables.knownStop_eq_value_iff.2
  have hlt : ∀ stop ∈ listed, stop < c.stops.size := by
    intro stop hstop
    obtain ⟨n, -, hn⟩ := exists_mem_of_forall₂ hnames hstop
    exact lt_size_of_findStop hc.stops_distinct hn
  cases hposition : c.buses.position? name with
  | none =>
      have hget : c.buses.get? name = none := by
        rw [Register.get?_eq_bind_position?, hposition, Option.bind_none]
      obtain ⟨c', hadd, hbuses, hdistances, hat⟩ := addBus_of_new hknown hlt hposition kind
      rw [Register.put_of_new hposition]
      refine ⟨c', hadd, hbuses, hdistances, fun p => (hat p).trans ?_⟩
      congr 2
      funext s
      simp [reindexed_eq, formerStops, hget]
  | some bus =>
      obtain ⟨former, hformer⟩ := (Register.position?_eq_some_iff hc.buses_distinct).1 hposition
      have hget : c.buses.get? name = some former := by
        rw [Register.get?_eq_bind_position?, hposition, Option.bind_some, hformer, Option.map_some]
      obtain ⟨c', hadd, hbuses, hdistances, hat⟩ :=
        addBus_of_known hknown hlt hposition hformer (hc.listed_lt hget) kind
      rw [Register.put_of_position? hposition]
      refine ⟨c', hadd, hbuses, hdistances, fun p => (hat p).trans ?_⟩
      congr 2
      funext s
      by_cases hlisted : p ∈ listed <;> simp [reindexed_eq, formerStops, hget, hlisted]

/-- Registering a bus over registered stops gives a catalogue. -/
theorem exists_addBus (hc : c.WellFormed) (name : String) {stopNames : List String}
    (kind : RouteKind) (hnames : ∀ n ∈ stopNames, ∃ s, c.findStop n = some s) :
    ∃ bus c', c.addBus name stopNames kind = .value (bus, c') := by
  obtain ⟨listed, h⟩ := exists_forall₂ hnames
  obtain ⟨c', hadd, -⟩ := addBus_spec hc kind h
  exact ⟨_, c', hadd⟩

/-- A bus is only registered if its stops are, and this is what it does then. -/
theorem of_addBus (hc : c.WellFormed) {stopNames : List String} {kind : RouteKind} {bus : BusId}
    (h : c.addBus name stopNames kind = .value (bus, c')) :
    ∃ listed, List.Forall₂ (fun n s => c.findStop n = some s) stopNames listed ∧
      c'.buses = (c.buses.put name fun _ => ⟨listed, kind⟩).2 ∧ c'.distances = c.distances ∧
      ∀ p, c'.stops.at? p = (c.stops.at? p).map (Prod.map id (c.reindexed name listed p)) := by
  obtain ⟨listed, -, hknown, -⟩ := Tables.addBus_eq_value_iff.1 (addBus_tables.1 h)
  have hnames : List.Forall₂ (fun n s => c.findStop n = some s) stopNames listed :=
    (Outcome.mapM_eq_value_iff.1 hknown).imp fun n s => Tables.knownStop_eq_value_iff.1
  obtain ⟨c₁, hadd, hspec⟩ := addBus_spec hc kind hnames
  rw [h, Outcome.value.injEq, Prod.mk.injEq] at hadd
  obtain ⟨-, rfl⟩ := hadd
  exact ⟨listed, hnames, hspec⟩

/-- Registering a bus neither renames nor moves a stop. -/
theorem stopName?_addBus (hc : c.WellFormed) {stopNames : List String} {kind : RouteKind}
    {bus : BusId} (h : c.addBus name stopNames kind = .value (bus, c')) (stop : StopId) :
    c'.stopName? stop = c.stopName? stop ∧ c'.coordinates? stop = c.coordinates? stop := by
  obtain ⟨listed, -, -, -, hat⟩ := of_addBus hc h
  rw [stopName?_eq, stopName?_eq, coordinates?_eq, coordinates?_eq, hat]
  cases c.stops.at? stop with
  | none => exact ⟨rfl, rfl⟩
  | some entry => exact ⟨rfl, congrArg some coordinates_reindexed⟩

/-- Recording a length gives it to a pair of registered stops, if it is a length at all. -/
theorem setDistance_eq_value_iff {origin target : String} {meters : α} :
    c.setDistance origin target meters = .value c' ↔ ∃ a b, c.findStop origin = some a ∧
      c.findStop target = some b ∧ Quantity.isFinite meters = true ∧ ¬ meters < Quantity.zero ∧
      c' = { c with distances := (c.distances.put (a, b) fun _ => meters).2 } := by
  rw [setDistance_tables, Tables.setDistance_eq_value_iff]
  refine exists₂_congr fun a b => and_congr_right fun _ => and_congr_right fun _ =>
    and_congr_right fun _ => and_congr_right fun _ => ⟨fun h => ?_, fun h => h ▸ rfl⟩
  obtain ⟨t, ht⟩ := c'
  subst h
  rfl

/-! ## Operations keep catalogues well formed -/

namespace WellFormed

/-- A stop that is there after a stop was registered has the index that it had before, or it is new
and has none. -/
theorem buses_of_at?_addStop (hc : c.WellFormed) {coordinates : Coordinates α} {p : StopId}
    {k : String} {s : Stop α} (hs : (c.addStop name coordinates).2.stops.at? p = some (k, s)) :
    (∃ s₀, c.stops.at? p = some (k, s₀) ∧ s.buses = s₀.buses) ∨
      (s.buses = [] ∧ c.stops.size ≤ p) := by
  rw [(addStop_spec c name coordinates).2.2] at hs
  split at hs
  · rename_i hp
    obtain ⟨rfl, rfl⟩ : name = k ∧ _ = s := by simpa using hs
    cases hpos : c.stops.position? name with
    | none =>
        refine .inr ⟨?_, ?_⟩
        · rw [(Register.get?_eq_none_iff hc.stops_distinct).2 hpos]
          rfl
        · rw [hp, addStop_fst, findStop_eq, hpos]
          exact Nat.le_refl _
    | some q =>
        obtain ⟨s₀, hs₀⟩ := (Register.position?_eq_some_iff hc.stops_distinct).1 hpos
        have hpq : p = q := by
          rw [hp, addStop_fst, findStop_eq, hpos, Option.getD_some]
        refine .inl ⟨s₀, by rw [hpq, hs₀], ?_⟩
        rw [(Register.get?_eq_some_iff hc.stops_distinct).2 ⟨q, hs₀⟩]
        rfl
  · exact .inl ⟨s, hs, rfl⟩

/-- Registering a stop keeps a catalogue well formed. -/
theorem addStop (hc : c.WellFormed) (name : String) (coordinates : Coordinates α) :
    (c.addStop name coordinates).2.WellFormed := by
  obtain ⟨hbuses, hdistances, -⟩ := addStop_spec c name coordinates
  have hdistinct : (c.addStop name coordinates).2.stops.Distinct := by
    rw [stops_addStop]
    exact hc.stops_distinct.put name _
  have hsize : c.stops.size ≤ (c.addStop name coordinates).2.stops.size := by
    rw [stops_addStop]
    exact Register.size_le_size_put _
  refine ⟨hdistinct, hbuses ▸ hc.buses_distinct, ?_, hdistances ▸ hc.isFinite_recorded,
    hdistances ▸ hc.not_recorded_lt_zero, ?_, ?_⟩
  · intro line bus hbus stop hstop
    rw [hbuses] at hbus
    exact Nat.lt_of_lt_of_le (hc.listed_lt hbus stop hstop) hsize
  · intro p k s hs
    rcases hc.buses_of_at?_addStop hs with ⟨s₀, hs₀, heq⟩ | ⟨heq, -⟩
    · rw [heq]
      exact hc.ascending hs₀
    · rw [heq]
      exact .nil
  · intro p k s hs line
    rw [hbuses]
    rcases hc.buses_of_at?_addStop hs with ⟨s₀, hs₀, heq⟩ | ⟨heq, hp⟩
    · rw [heq]
      exact hc.mem_buses_iff hs₀ line
    · rw [heq]
      refine ⟨fun hmem => absurd hmem (List.not_mem_nil), ?_⟩
      rintro ⟨bus, hbus, hstop⟩
      exact absurd (hc.listed_lt hbus p hstop) (Nat.not_lt.2 hp)

/-- Registering a bus keeps the index of a stop ascending. -/
theorem pairwise_reindexed (hc : c.WellFormed) {listed : List StopId} {p : StopId} {k : String}
    {s : Stop α} (hs : c.stops.at? p = some (k, s)) :
    (c.reindexed name listed p s).buses.Pairwise (· < ·) := by
  have hbefore := hc.ascending hs
  unfold reindexed
  split_ifs
  · exact Ascending.pairwise_insert hbefore
  · exact hbefore.filter _
  · exact hbefore

/-- A bus that is registered comes into the index of the stops listed now, and it goes from the
index of those that it listed before. -/
theorem mem_buses_reindexed_self (hc : c.WellFormed) {listed : List StopId} {p : StopId}
    {k : String} {s : Stop α} (hs : c.stops.at? p = some (k, s)) :
    name ∈ (c.reindexed name listed p s).buses ↔ p ∈ listed := by
  have hformer : p ∈ c.formerStops name listed ↔ p ∉ listed ∧ name ∈ s.buses := by
    rw [hc.mem_buses_iff hs, formerStops]
    cases c.buses.get? name <;> simp [and_comm]
  unfold reindexed
  split_ifs with hlisted hdropped
  · simp [Stop.serve, Ascending.mem_insert, hlisted]
  · simp [Stop.drop, hlisted]
  · rw [hformer, not_and] at hdropped
    exact iff_of_false (hdropped hlisted) hlisted

/-- Registering a bus keeps a catalogue well formed. -/
theorem addBus (hc : c.WellFormed) {stopNames : List String} {kind : RouteKind} {bus : BusId}
    (h : c.addBus name stopNames kind = .value (bus, c')) : c'.WellFormed := by
  obtain ⟨listed, hnames, hbuses, hdistances, hat⟩ :=
    of_addBus hc h
  have hkeys : ∀ p, (c'.stops.at? p).map Prod.fst = (c.stops.at? p).map Prod.fst := by
    intro p
    rw [hat]
    cases c.stops.at? p <;> rfl
  have hsize : c'.stops.size = c.stops.size := Register.size_congr hkeys
  have hself : c'.buses.get? name = some ⟨listed, kind⟩ := by
    rw [hbuses, Register.get?_put_self]
  have hother : ∀ {line}, line ≠ name → c'.buses.get? line = c.buses.get? line := by
    intro line hne
    rw [hbuses, Register.get?_put_of_ne _ hne]
  have hindex : ∀ {p k s}, c'.stops.at? p = some (k, s) →
      ∃ s₀, c.stops.at? p = some (k, s₀) ∧ s = c.reindexed name listed p s₀ := by
    intro p k s hs
    rw [hat] at hs
    obtain ⟨⟨k₀, s₀⟩, hs₀, heq⟩ := Option.map_eq_some_iff.1 hs
    obtain ⟨rfl, rfl⟩ := Prod.mk.inj heq
    exact ⟨s₀, hs₀, rfl⟩
  refine ⟨hc.stops_distinct.congr hkeys, hbuses ▸ hc.buses_distinct.put name _, ?_,
    hdistances ▸ hc.isFinite_recorded, hdistances ▸ hc.not_recorded_lt_zero, ?_, ?_⟩
  · intro line bus hbus stop hstop
    rw [hsize]
    by_cases hline : line = name
    · subst hline
      obtain rfl : _ = bus := Option.some.inj (hself.symm.trans hbus)
      obtain ⟨n, -, hn⟩ := exists_mem_of_forall₂ hnames hstop
      exact lt_size_of_findStop hc.stops_distinct hn
    · rw [hother hline] at hbus
      exact hc.listed_lt hbus stop hstop
  · intro p k s hs
    obtain ⟨s₀, hs₀, rfl⟩ := hindex hs
    exact hc.pairwise_reindexed hs₀
  · intro p k s hs line
    obtain ⟨s₀, hs₀, rfl⟩ := hindex hs
    by_cases hline : line = name
    · subst hline
      rw [hc.mem_buses_reindexed_self hs₀, hself]
      simp
    · rw [mem_buses_reindexed_of_ne hline, hother hline]
      exact hc.mem_buses_iff hs₀ line

/-- Recording a length keeps a catalogue well formed. -/
theorem setDistance (hc : c.WellFormed) {origin target : String} {meters : α}
    (h : c.setDistance origin target meters = .value c') : c'.WellFormed := by
  obtain ⟨a, b, -, -, hfinite, hnot, rfl⟩ := setDistance_eq_value_iff.1 h
  have hrecorded : ∀ {pair x}, (c.distances.put (a, b) fun _ => meters).2.get? pair = some x →
      x = meters ∨ c.distances.get? pair = some x := by
    intro pair x hx
    by_cases hpair : pair = (a, b)
    · subst hpair
      rw [Register.get?_put_self] at hx
      exact .inl (Option.some.inj hx).symm
    · rw [Register.get?_put_of_ne _ hpair] at hx
      exact .inr hx
  refine ⟨hc.stops_distinct, hc.buses_distinct, hc.listed_lt, ?_, ?_, hc.ascending,
    hc.mem_buses_iff⟩
  · intro pair x hx
    rcases hrecorded hx with rfl | hx
    · exact hfinite
    · exact hc.isFinite_recorded hx
  · intro pair x hx
    rcases hrecorded hx with rfl | hx
    · exact hnot
    · exact hc.not_recorded_lt_zero hx

end WellFormed

/-! ## Reachable catalogues -/

/-- The catalogues that operations make of the empty one. An operation that fails makes none. -/
inductive Reachable : Catalogue α → Prop where
  /-- Nothing is registered at first. -/
  | empty : Reachable .empty
  /-- A stop is registered or moved. -/
  | addStop {c : Catalogue α} (name : String) (coordinates : Coordinates α) :
    Reachable c → Reachable (c.addStop name coordinates).2
  /-- A bus is registered or replaced. -/
  | addBus {c c' : Catalogue α} {name : String} {stopNames : List String} {kind : RouteKind}
    {bus : BusId} : Reachable c → c.addBus name stopNames kind = .value (bus, c') → Reachable c'
  /-- A length is recorded. -/
  | setDistance {c c' : Catalogue α} {origin target : String} {meters : α} :
    Reachable c → c.setDistance origin target meters = .value c' → Reachable c'

/-- **Every catalogue that operations make is well formed.** -/
theorem Reachable.wellFormed (h : Reachable c) : c.WellFormed := by
  induction h with
  | empty => exact .empty
  | addStop name coordinates _ ih => exact ih.addStop name coordinates
  | addBus _ hadd ih => exact ih.addBus hadd
  | setDistance _ hset ih => exact ih.setDistance hset

end Catalogue

end BusNetwork
