import BusNetwork.Catalogue.Statistics
import BusNetwork.Proofs.Ascending
import BusNetwork.Proofs.Outcome
import BusNetwork.Proofs.Register

/-!
# Reading a catalogue by name

A catalogue is kept in tables by position, but what it says is said by name: `Catalogue.stops` and
`Catalogue.buses` are registers of the stops and buses with all that is known of each.

* **What is looked up in the tables is what the registers say** (`findStop_eq`, `stopName?_eq`,
  `getElem?_busesAtStop`, `busInfo_eq`), and the registers tell the tables (`eq_of_views`).
* **Registering a stop puts it among the stops** (`stops_addStop`).
* **Registering a bus** enters it at the stops listed and strikes it off at those that it does not
  list any more (`addBus_of_new`, `addBus_of_known`). To do so it goes through the lists of buses at
  stops twice; `serveAll?_eq` and `foldlM_leave?` say what becomes of each list.
-/

namespace BusNetwork

variable {α : Type}

/-! ## Indexes -/

/-- Among names in order, each is found at its place. -/
theorem lookup_zipIdx (names : List String) (name : String) (start : Nat) :
    (names.zipIdx start).lookup name = (names.idxOf? name).map (· + start) := by
  induction names generalizing start with
  | nil => rfl
  | cons first rest ih =>
      by_cases h : first = name
      · subst h
        simp [List.zipIdx_cons, List.idxOf?_cons]
      · have hne : (name == first) = false := beq_false_of_ne (Ne.symm h)
        rw [List.zipIdx_cons, List.lookup_cons, hne, ih, List.idxOf?_cons, beq_false_of_ne h]
        cases rest.idxOf? name <;> simp [Nat.add_assoc, Nat.add_comm 1]

/-- An index finds the place of a name in the table. -/
theorem Indexes.get?_eq_idxOf? {β : Type} {index : Register String Nat}
    {table : List (String × β)} (h : Indexes index table) (name : String) :
    index.get? name = (table.map Prod.fst).idxOf? name := by
  rw [Register.get?, show index.entries = _ from h, lookup_zipIdx]
  simp

namespace Catalogue

variable {c c' : Catalogue α} {name : String}

/-! ## Reading the tables -/

/-- A stop is its entry in the table together with the buses that serve it. -/
theorem at?_stops (c : Catalogue α) (p : StopId) : c.stops.at? p =
    c.stopTable[p]?.bind fun (name, coordinates) =>
      c.busesAtStop[p]?.map fun buses => (name, ⟨coordinates, buses⟩) := by
  rw [Register.at?, stops, List.getElem?_map, List.zip, List.getElem?_zipWith]
  cases c.stopTable[p]? <;> cases c.busesAtStop[p]? <;> rfl

/-- At first there are no stops. -/
@[simp] theorem stops_empty : (empty : Catalogue α).stops = .empty := rfl

/-- The table of stops is told by the stops. -/
theorem stopTable_eq (c : Catalogue α) :
    c.stopTable = c.stops.entries.map (Prod.map id Stop.coordinates) := by
  have hlength := c.inStep.length_busesAtStop
  rw [stops, List.map_map]
  exact (List.map_fst_zip (Nat.le_of_eq hlength.symm)).symm

/-- The buses at each stop are told by the stops. -/
theorem busesAtStop_eq (c : Catalogue α) :
    c.busesAtStop = c.stops.entries.map fun entry => entry.2.buses := by
  have hlength := c.inStep.length_busesAtStop
  rw [stops, List.map_map]
  exact (List.map_snd_zip (Nat.le_of_eq hlength)).symm

/-- The table of stops read at a position. -/
theorem getElem?_stopTable (c : Catalogue α) (p : StopId) :
    c.stopTable[p]? = (c.stops.at? p).map (Prod.map id Stop.coordinates) := by
  rw [stopTable_eq, List.getElem?_map, Register.at?]

/-- The buses at the stop of a position. -/
theorem getElem?_busesAtStop (c : Catalogue α) (p : StopId) :
    c.busesAtStop[p]? = (c.stops.at? p).map fun entry => entry.2.buses := by
  rw [busesAtStop_eq, List.getElem?_map, Register.at?]

/-- There are as many stops as entries in their table. -/
theorem size_stops (c : Catalogue α) : c.stops.size = c.stopTable.length := by
  rw [stopTable_eq, List.length_map, Register.size]

/-- The names of the stops are those in their table. -/
theorem names_stops (c : Catalogue α) :
    c.stops.entries.map Prod.fst = c.stopTable.map Prod.fst := by
  rw [stopTable_eq, List.map_map]
  rfl

/-- A stop is found where its name stands. -/
theorem findStop_eq (c : Catalogue α) (name : String) :
    c.findStop name = c.stops.position? name := by
  rw [Register.position?_eq_idxOf?, names_stops]
  exact c.inStep.indexes_stops.get?_eq_idxOf? name

/-- A bus is found where its name stands. -/
theorem findBus_eq (c : Catalogue α) (name : String) :
    c.findBus name = c.buses.position? name := by
  rw [Register.position?_eq_idxOf?]
  exact c.inStep.indexes_buses.get?_eq_idxOf? name

/-- The name of a stop is that of its entry. -/
theorem stopName?_eq (c : Catalogue α) (stop : StopId) :
    c.stopName? stop = (c.stops.at? stop).map Prod.fst := by
  rw [stopName?, getElem?_stopTable, Option.map_map]
  rfl

/-- The name of a bus is that of its entry. -/
theorem busName?_eq (c : Catalogue α) (bus : BusId) :
    c.busName? bus = (c.buses.at? bus).map Prod.fst := rfl

/-- A stop stands where its entry says. -/
theorem coordinates?_eq (c : Catalogue α) (stop : StopId) :
    c.coordinates? stop = (c.stops.at? stop).map fun entry => entry.2.coordinates := by
  rw [coordinates?, getElem?_stopTable, Option.map_map]
  rfl

/-- The statistics of the bus of a name are those of what is registered under it. -/
theorem busInfo_eq [Trigonometry α] (c : Catalogue α) (name : String) :
    c.busInfo name = match c.buses.get? name with
      | some bus => c.statistics bus
      | none => .failed (.busNotFound name) := by
  unfold busInfo
  rw [Register.get?_eq_bind_position?, ← findBus_eq]
  cases hfind : c.findBus name with
  | none => rfl
  | some bus =>
      obtain ⟨line, hline⟩ := c.inStep.indexes_buses.exists_getElem? hfind
      have hat : c.buses.at? bus = some (name, line) := hline
      simp [hline, hat]

/-- **A catalogue is what its stops, buses and distances say.** -/
theorem eq_of_views (hstops : c.stops = c'.stops) (hbuses : c.buses = c'.buses)
    (hdistances : c.distances = c'.distances) : c = c' := by
  have hstopTable : c.stopTable = c'.stopTable := by rw [stopTable_eq, hstops, ← stopTable_eq]
  have hbusesAtStop : c.busesAtStop = c'.busesAtStop := by
    rw [busesAtStop_eq, hstops, ← busesAtStop_eq]
  have hbusTable : c.busTable = c'.busTable := congrArg Register.entries hbuses
  have hindex : ∀ {r r' : Register String Nat}, r.entries = r'.entries → r = r' := by
    rintro ⟨_⟩ ⟨_⟩ rfl
    rfl
  have hstopIndex : c.stopIndex = c'.stopIndex := by
    apply hindex
    rw [c.inStep.indexes_stops, c'.inStep.indexes_stops, hstopTable]
  have hbusIndex : c.busIndex = c'.busIndex := by
    apply hindex
    rw [c.inStep.indexes_buses, c'.inStep.indexes_buses, hbusTable]
  obtain ⟨⟨_, _, _, _, _, _⟩, _⟩ := c
  obtain ⟨⟨_, _, _, _, _, _⟩, _⟩ := c'
  subst hstopTable hstopIndex hbusTable hbusIndex hdistances hbusesAtStop
  rfl

/-! ## Registering a stop -/

/-- A stop is registered as the tables register it. -/
theorem addStop_tables (c : Catalogue α) (name : String) (coordinates : Coordinates α) :
    c.toTables.addStop name coordinates =
      some ((c.addStop name coordinates).1, (c.addStop name coordinates).2.toTables) :=
  (Option.some_get (c.inStep.isSome_addStop name coordinates)).symm

/-- What is answered and what becomes of the tables when a stop is registered. -/
theorem addStop_eq {coordinates : Coordinates α} {stop : StopId} {t : Tables α}
    (h : c.toTables.addStop name coordinates = some (stop, t)) :
    (c.addStop name coordinates).1 = stop ∧ (c.addStop name coordinates).2.toTables = t := by
  rw [addStop_tables, Option.some.injEq, Prod.mk.injEq] at h
  exact h

/-- The answered position is that of the name, or the next one. -/
theorem addStop_fst (c : Catalogue α) (name : String) (coordinates : Coordinates α) :
    (c.addStop name coordinates).1 = (c.findStop name).getD c.stops.size := by
  cases hfind : c.findStop name with
  | none =>
      rw [(addStop_eq (Tables.addStop_of_new hfind coordinates)).1, Option.getD_none, size_stops]
  | some stop => exact (addStop_eq (c.inStep.addStop_of_findStop hfind coordinates)).1

/-- Registering a stop gives its name the coordinates and leaves the other stops as they are. -/
theorem at?_addStop (c : Catalogue α) (name : String) (coordinates : Coordinates α) (p : StopId) :
    (c.addStop name coordinates).2.stops.at? p =
      if p = (c.addStop name coordinates).1 then
        some (name, ⟨coordinates, (c.stops.get? name).elim [] Stop.buses⟩)
      else c.stops.at? p := by
  have hlength := c.inStep.length_busesAtStop
  rw [Register.get?_eq_bind_position?, ← findStop_eq]
  cases hfind : c.findStop name with
  | none =>
      obtain ⟨hfst, hsnd⟩ := addStop_eq (Tables.addStop_of_new hfind coordinates)
      rw [hfst, at?_stops, hsnd]
      rcases Nat.lt_trichotomy p c.stopTable.length with hp | rfl | hp
      · rw [if_neg (Nat.ne_of_lt hp), at?_stops, List.getElem?_append_left hp,
          List.getElem?_append_left (hlength ▸ hp)]
      · simp [← hlength]
      · have hnone : c.stopTable[p]? = none := List.getElem?_eq_none (Nat.le_of_lt hp)
        have hnone' : (c.stopTable ++ [(name, coordinates)])[p]? = none :=
          List.getElem?_eq_none (by simpa using Nat.succ_le_of_lt hp)
        rw [if_neg (Nat.ne_of_gt hp), at?_stops, hnone, hnone']
        rfl
  | some stop =>
      obtain ⟨hfst, hsnd⟩ := addStop_eq (c.inStep.addStop_of_findStop hfind coordinates)
      rw [hfst, at?_stops, hsnd]
      have hlt := c.inStep.indexes_stops.lt_length hfind
      by_cases hp : p = stop
      · subst hp
        rw [if_pos rfl, List.getElem?_set_self hlt, Option.bind_some, getElem?_busesAtStop]
        obtain ⟨entry, hentry⟩ := Register.exists_at? (r := c.stops) (size_stops c ▸ hlt)
        simp [hentry]
      · rw [if_neg hp, List.getElem?_set_ne (Ne.symm hp), at?_stops]

/-- **Registering a stop puts it among the stops.** -/
theorem stops_addStop (c : Catalogue α) (name : String) (coordinates : Coordinates α) :
    (c.addStop name coordinates).2.stops =
      (c.stops.put name fun known => ⟨coordinates, known.elim [] Stop.buses⟩).2 := by
  apply Register.ext_at?
  intro p
  rw [at?_addStop, Register.at?_put, addStop_fst, Register.put_fst, findStop_eq]

/-- Registering a stop changes nothing else. -/
theorem buses_addStop (c : Catalogue α) (name : String) (coordinates : Coordinates α) :
    (c.addStop name coordinates).2.buses = c.buses ∧
      (c.addStop name coordinates).2.distances = c.distances := by
  cases hfind : c.findStop name with
  | none =>
      obtain ⟨-, hsnd⟩ := addStop_eq (Tables.addStop_of_new hfind coordinates)
      rw [buses, hsnd]
      exact ⟨rfl, rfl⟩
  | some stop =>
      obtain ⟨-, hsnd⟩ := addStop_eq (c.inStep.addStop_of_findStop hfind coordinates)
      rw [buses, hsnd]
      exact ⟨rfl, rfl⟩

/-! ## Registering a bus -/

/-- A table of which no entry is changed is what it was. -/
theorem mapIdx_eq_self {β : Type} {change : Nat → β → β} (h : ∀ p entry, change p entry = entry)
    (table : List β) : table.mapIdx change = table := by
  apply List.ext_getElem?
  intro p
  rw [List.getElem?_mapIdx]
  cases table[p]? <;> simp [h]

/-- Going through stops and changing the lists of some of them, perhaps more than once. -/
theorem foldlM_lists {step : List (List String) → StopId → Option (List (List String))}
    {change : List String → List String} (hchange : ∀ buses, change (change buses) = change buses)
    (selected : StopId → Bool)
    (hstep : ∀ {lists : List (List String)} {stop : StopId}, stop < lists.length →
      step lists stop = some (lists.mapIdx fun p buses =>
        if p = stop ∧ selected p = true then change buses else buses))
    {stops : List StopId} {lists : List (List String)} (h : ∀ stop ∈ stops, stop < lists.length) :
    stops.foldlM step lists = some (lists.mapIdx fun p buses =>
      if p ∈ stops ∧ selected p = true then change buses else buses) := by
  induction stops generalizing lists with
  | nil => exact congrArg some (mapIdx_eq_self (fun p buses => by simp) lists).symm
  | cons first rest ih =>
      rw [List.foldlM_cons, hstep (h first (List.mem_cons_self ..)), Option.bind_eq_bind,
        Option.bind_some, ih fun stop hstop => by
          rw [List.length_mapIdx]
          exact h stop (List.mem_cons_of_mem _ hstop),
        List.mapIdx_mapIdx]
      congr 2
      funext p buses
      by_cases hp : p = first <;> by_cases hmem : p ∈ rest <;> cases selected p <;>
        simp [hp, hmem, hchange]

/-- A bus is entered at stops of the table. -/
theorem serveAll?_eq (name : String) (listed : List StopId) {lists : List (List String)}
    (h : ∀ stop ∈ listed, stop < lists.length) :
    Tables.serveAll? name lists listed = some (lists.mapIdx fun p buses =>
      if p ∈ listed then Ascending.insert id name buses else buses) := by
  have hstep : ∀ {lists : List (List String)} {stop : StopId}, stop < lists.length →
      Tables.serve? name lists stop = some (lists.mapIdx fun p buses =>
        if p = stop ∧ true = true then Ascending.insert id name buses else buses) := by
    intro lists stop hstop
    simpa [Tables.serve?] using modifyAt?_eq (Ascending.insert id name) hstop
  simpa [Tables.serveAll?] using
    foldlM_lists (fun buses => Ascending.insert_insert ..) (fun _ => true) hstep h

/-- A bus is struck off at stops of the table, unless the entry of the bus lists them. -/
theorem foldlM_leave? (name : String) {busTable : List (String × Bus)} {bus : BusId} {line : Bus}
    (hline : busTable[bus]? = some (name, line)) (former : List StopId)
    {lists : List (List String)} (h : ∀ stop ∈ former, stop < lists.length) :
    former.foldlM (Tables.leave? busTable bus name) lists = some (lists.mapIdx fun p buses =>
      if p ∈ former ∧ p ∉ line.stops then buses.filter (· != name) else buses) := by
  have hstep : ∀ {lists : List (List String)} {stop : StopId}, stop < lists.length →
      Tables.leave? busTable bus name lists stop = some (lists.mapIdx fun p buses =>
        if p = stop ∧ (!line.stops.contains p) = true then buses.filter (· != name)
        else buses) := by
    intro lists stop hstop
    simp only [Tables.leave?, hline, Option.bind_eq_bind, Option.bind_some]
    by_cases hlisted : stop ∈ line.stops
    · rw [if_pos (by simpa using hlisted), mapIdx_eq_self]
      intro p buses
      rw [if_neg]
      rintro ⟨rfl, hnot⟩
      simp [hlisted] at hnot
    · rw [if_neg (by simpa using hlisted), modifyAt?_eq _ hstop]
      congr 2
      funext p buses
      by_cases hp : p = stop <;> simp [hp, hlisted]
  have hidempotent : ∀ buses : List String,
      (buses.filter (· != name)).filter (· != name) = buses.filter (· != name) := by
    simp [List.filter_filter]
  simpa using foldlM_lists hidempotent (fun stop => !line.stops.contains stop) hstep h

/-- Where the lists of buses change and the stops do not, this is what becomes of a stop. -/
theorem at?_stops_of_mapIdx (c c' : Catalogue α) {change : StopId → List String → List String}
    (hstops : c'.stopTable = c.stopTable) (hlists : c'.busesAtStop = c.busesAtStop.mapIdx change)
    (p : StopId) : c'.stops.at? p =
      (c.stops.at? p).map (Prod.map id fun s => { s with buses := change p s.buses }) := by
  rw [at?_stops, at?_stops, hstops, hlists, List.getElem?_mapIdx]
  cases c.stopTable[p]? <;> cases c.busesAtStop[p]? <;> rfl

/-- A bus is registered as the tables register it. -/
theorem addBus_tables {stopNames : List String} {kind : RouteKind} {bus : BusId} :
    c.addBus name stopNames kind = .value (bus, c') ↔
      c.toTables.addBus name stopNames kind = .value (bus, c'.toTables) := by
  rw [addBus, Outcome.attach_eq_value_iff]
  constructor
  · rintro ⟨⟨bus', t⟩, h, heq⟩
    obtain ⟨rfl, rfl⟩ := Prod.mk.inj heq
    exact h
  · intro h
    exact ⟨_, h, rfl⟩

variable {stopNames : List String} {listed : List StopId}

/-- A bus is entered at stops of the catalogue. -/
theorem serveAll?_busesAtStop (name : String) (hlt : ∀ stop ∈ listed, stop < c.stops.size) :
    Tables.serveAll? name c.busesAtStop listed = some (c.busesAtStop.mapIdx fun p buses =>
      if p ∈ listed then Ascending.insert id name buses else buses) := by
  refine serveAll?_eq name listed fun stop hstop => ?_
  rw [c.inStep.length_busesAtStop, ← size_stops]
  exact hlt stop hstop

/-- **Registering a bus of a new name** puts it at the end and enters it at the stops listed. -/
theorem addBus_of_new (hlisted : stopNames.mapM c.knownStop = .value listed)
    (hlt : ∀ stop ∈ listed, stop < c.stops.size) (hnew : c.buses.position? name = none)
    (kind : RouteKind) :
    ∃ c', c.addBus name stopNames kind = .value (c.buses.size, c') ∧
      c'.buses = ⟨c.buses.entries ++ [(name, ⟨listed, kind⟩)]⟩ ∧ c'.distances = c.distances ∧
      ∀ p, c'.stops.at? p = (c.stops.at? p).map (Prod.map id fun s => { s with
        buses := if p ∈ listed then Ascending.insert id name s.buses else s.buses }) := by
  rw [← findBus_eq] at hnew
  have hadd : c.toTables.addBus name stopNames kind = _ :=
    Tables.addBus_of_new hlisted (serveAll?_busesAtStop name hlt) hnew
  exact ⟨⟨_, c.inStep.addBus hadd⟩, addBus_tables.2 hadd, rfl, rfl,
    at?_stops_of_mapIdx c ⟨_, c.inStep.addBus hadd⟩ rfl rfl⟩

/-- **Registering a bus of a known name** puts it in the place of the former one, enters it at the
stops listed and strikes it off at those that only the former one listed. -/
theorem addBus_of_known (hlisted : stopNames.mapM c.knownStop = .value listed)
    (hlt : ∀ stop ∈ listed, stop < c.stops.size) {bus : BusId} {former : Bus}
    (hknown : c.buses.position? name = some bus) (hformer : c.buses.at? bus = some (name, former))
    (hlt' : ∀ stop ∈ former.stops, stop < c.stops.size) (kind : RouteKind) :
    ∃ c', c.addBus name stopNames kind = .value (bus, c') ∧
      c'.buses = ⟨c.buses.entries.set bus (name, ⟨listed, kind⟩)⟩ ∧ c'.distances = c.distances ∧
      ∀ p, c'.stops.at? p = (c.stops.at? p).map (Prod.map id fun s => { s with
        buses := if p ∈ listed then Ascending.insert id name s.buses
          else if p ∈ former.stops then s.buses.filter (· != name) else s.buses }) := by
  have hline : (c.busTable.set bus (name, ⟨listed, kind⟩))[bus]? = some (name, ⟨listed, kind⟩) :=
    List.getElem?_set_self (Register.lt_size_of_at? hformer)
  have hrange : ∀ stop ∈ former.stops, stop < (c.busesAtStop.mapIdx fun p buses =>
      if p ∈ listed then Ascending.insert id name buses else buses).length := by
    intro stop hstop
    rw [List.length_mapIdx, c.inStep.length_busesAtStop, ← size_stops]
    exact hlt' stop hstop
  have hleave := foldlM_leave? name hline former.stops hrange
  rw [← findBus_eq] at hknown
  have hadd : c.toTables.addBus name stopNames kind = _ :=
    Tables.addBus_of_known hlisted (serveAll?_busesAtStop name hlt) hknown hformer hleave
  refine ⟨⟨_, c.inStep.addBus hadd⟩, addBus_tables.2 hadd, rfl, rfl, fun p => ?_⟩
  refine (at?_stops_of_mapIdx c ⟨_, c.inStep.addBus hadd⟩ rfl List.mapIdx_mapIdx p).trans ?_
  congr 2
  funext s
  by_cases hp : p ∈ listed <;> simp [hp]

/-! ## Recording a length -/

/-- A length is recorded as the tables record it. -/
theorem setDistance_tables [Quantity α] {origin target : String} {meters : α} :
    c.setDistance origin target meters = .value c' ↔
      c.toTables.setDistance origin target meters = .value c'.toTables := by
  rw [setDistance, Outcome.attach_eq_value_iff]
  constructor
  · rintro ⟨t, h, rfl⟩
    exact h
  · intro h
    exact ⟨_, h, rfl⟩

end Catalogue

end BusNetwork
