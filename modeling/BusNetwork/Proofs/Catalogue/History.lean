import BusNetwork.Proofs.Catalogue.Runs

/-!
# History: what a catalogue answers, read off the calls that were made

A history is the list of the calls that succeeded, told in names. What a catalogue answers can be
read off its history without a catalogue: positions from the order in which names first came
(`History.stopNames`, `History.busNames`), all else from the last call that was about it
(`History.last?`).

* `Records history c` — what the tables of a catalogue have of its history. Each operation keeps
  this with itself at the end of the history (`Records.addStop`, `Records.addBus`,
  `Records.setDistance`).
* `Summarizes history c` — what the catalogue then answers (`Records.summarizes`).

`summarizes_run` — **after any calls a catalogue is the summary of those that succeeded, and it is
what it would be if those that failed had not been made.**
-/

set_option linter.unusedSectionVars false

namespace BusNetwork

open Outcome

variable {α β : Type}

/-! ## What one call is about -/

namespace Operation

/-- The name of the stop that a call registers. -/
def stop? : Operation α → Option String
  | addStop name _ => some name
  | _ => none

/-- The name of the bus that a call registers. -/
def bus? : Operation α → Option String
  | addBus name _ _ => some name
  | _ => none

/-- The names of the stops between which a call records a road length. -/
def road? : Operation α → Option (String × String)
  | setDistance origin target _ => some (origin, target)
  | _ => none

/-- The place that a call gives to the stop of a name. -/
def place? (name : String) : Operation α → Option (Coordinates α)
  | addStop other coordinates => if other = name then some coordinates else none
  | _ => none

/-- The stops and the kind that a call gives to the bus of a name. -/
def course? (name : String) : Operation α → Option (List String × RouteKind)
  | addBus other stopNames kind => if other = name then some (stopNames, kind) else none
  | _ => none

/-- The length that a call records from one stop to another. -/
def length? (origin target : String) : Operation α → Option α
  | setDistance a b meters => if (a, b) = (origin, target) then some meters else none
  | _ => none

end Operation

/-! ## What a history says -/

namespace History

/-- The different things that calls register, in the order in which they first came. -/
def named [BEq β] (names? : Operation α → Option β) (history : List (Operation α)) : List β :=
  (history.filterMap names?).eraseDups

/-- The names of the stops, in the order in which they first came. -/
def stopNames (history : List (Operation α)) : List String := named Operation.stop? history

/-- The names of the buses, in the order in which they first came. -/
def busNames (history : List (Operation α)) : List String := named Operation.bus? history

/-- The pairs of names between which a length was recorded, in that direction. -/
def roads (history : List (Operation α)) : List (String × String) := named Operation.road? history

/-- What the last call says that says anything. -/
def last? (says? : Operation α → Option β) (history : List (Operation α)) : Option β :=
  history.reverse.findSome? says?

/-- The road length from one stop to another: the last one recorded in that direction, failing that
the last one recorded in the other. -/
def lengthBetween (history : List (Operation α)) (origin target : String) :
    Outcome (CatalogueError α) α :=
  match (last? (Operation.length? origin target) history).or
    (last? (Operation.length? target origin) history) with
  | some meters => .value meters
  | none => .failed (.noDistanceData origin target)

/-- The calls that succeed, each held against the stops that those before it have registered. -/
def accepted [Quantity α] (operations : List (Operation α)) : List (Operation α) :=
  operations.foldl (fun history operation =>
    if operation.fault? (stopNames history) = none then history ++ [operation] else history) []

variable {history : List (Operation α)} {operation : Operation α}

/-- The last word of a longer history is that of its last operation if this says anything. -/
theorem last?_concat (says? : Operation α → Option β) (history : List (Operation α))
    (operation : Operation α) :
    last? says? (history ++ [operation]) = (says? operation).or (last? says? history) := by
  rw [last?, List.reverse_append, List.reverse_singleton, List.singleton_append,
    findSome?_cons_or, last?]

/-- A call that says nothing changes nothing. -/
theorem last?_concat_of_none {says? : Operation α → Option β} (h : says? operation = none) :
    last? says? (history ++ [operation]) = last? says? history := by
  rw [last?_concat, h, Option.none_or]

section

variable [BEq β] {names? : Operation α → Option β}

/-- An operation that names nothing adds no name to a history. -/
theorem named_concat_of_none (h : names? operation = none) :
    named names? (history ++ [operation]) = named names? history := by
  simp [named, List.filterMap_append, h]

/-- What is registered comes last, unless it had come before. -/
theorem named_concat_of_some [LawfulBEq β] {thing : β} (h : names? operation = some thing) :
    named names? (history ++ [operation]) =
      if thing ∈ named names? history then named names? history
      else named names? history ++ [thing] := by
  simp only [named, List.filterMap_append, List.filterMap_cons, h, List.filterMap_nil,
    Register.eraseDups_concat, List.mem_eraseDups]

end

/-- A length is only known between stops between which one was recorded. -/
theorem mem_roads_of_last? {origin target : String} {meters : α}
    (h : last? (Operation.length? origin target) history = some meters) :
    (origin, target) ∈ roads history := by
  obtain ⟨operation, hmem, hlength⟩ := List.exists_of_findSome?_eq_some h
  rw [roads, named, List.mem_eraseDups, List.mem_filterMap]
  refine ⟨operation, List.mem_reverse.1 hmem, ?_⟩
  cases operation with
  | addStop => cases hlength
  | addBus => cases hlength
  | setDistance a b meters' =>
      simp only [Operation.length?] at hlength
      split at hlength
      · rename_i heq
        exact congrArg some heq
      · cases hlength

/-- An operation is accepted after others exactly if it has no fault among the stops they
registered. -/
theorem accepted_concat [Quantity α] (operations : List (Operation α)) (operation : Operation α) :
    accepted (operations ++ [operation]) =
      if operation.fault? (stopNames (accepted operations)) = none then
        accepted operations ++ [operation]
      else accepted operations := by
  rw [accepted, List.foldl_append]
  rfl

end History

namespace Catalogue

variable {c c' : Catalogue α} {history : List (Operation α)} {name : String}

/-! ## What the tables have of a history -/

/-- A recorded length is one between two names. -/
def Joins (c : Catalogue α) (key : StopId × StopId) (road : String × String) : Prop :=
  c.stopName? key.1 = some road.1 ∧ c.stopName? key.2 = some road.2

/-- What the tables of a catalogue have of its history. -/
structure Records (history : List (Operation α)) (c : Catalogue α) : Prop where
  /-- Stops are in the order in which they first came. -/
  stopNames_eq : c.registeredStops = History.stopNames history
  /-- Buses are in the order in which they first came. -/
  busNames_eq : c.registeredBuses = History.busNames history
  /-- A stop stands where it was last put. -/
  coordinates?_eq {stop : StopId} {name : String} : c.stopName? stop = some name →
    c.coordinates? stop = History.last? (Operation.place? name) history
  /-- A bus runs as it was last registered. -/
  exists_course {name : String} {line : Bus} : c.buses.get? name = some line →
    ∃ names, History.last? (Operation.course? name) history = some (names, line.kind) ∧
      List.Forall₂ (fun stop n => c.stopName? stop = some n) line.stops names
  /-- A length between stops is the one that was last recorded. -/
  recorded {a b : StopId} {origin target : String} : c.stopName? a = some origin →
    c.stopName? b = some target →
    c.distances.get? (a, b) = History.last? (Operation.length? origin target) history
  /-- Lengths are recorded between exactly the stops between which any was. -/
  roads_eq : List.Forall₂ c.Joins (c.distances.entries.map Prod.fst) (History.roads history)

/-- Nothing done is the history of the empty catalogue. -/
theorem records_empty : Records [] (empty : Catalogue α) where
  stopNames_eq := rfl
  busNames_eq := rfl
  coordinates?_eq h := by cases h
  exists_course h := by cases h
  recorded h := by cases h
  roads_eq := .nil

/-- The two names that a recorded length is between, and the two stops. -/
theorem biUnique_joins (hc : c.stops.Distinct) : Relator.BiUnique c.Joins := by
  constructor
  · rintro ⟨a, b⟩ ⟨a', b'⟩ ⟨origin, target⟩ ⟨ha, hb⟩ ⟨ha', hb'⟩
    exact Prod.ext (stopName?_inj hc ha ha') (stopName?_inj hc hb hb')
  · rintro ⟨a, b⟩ ⟨origin, target⟩ ⟨origin', target'⟩ ⟨ha, hb⟩ ⟨ha', hb'⟩
    exact Prod.ext (Option.some.inj (ha.symm.trans ha')) (Option.some.inj (hb.symm.trans hb'))

variable [Quantity α]

/-- A catalogue that keeps the names still joins the stops it joined by the same roads. -/
theorem Joins.mono (h : c.KeepsNames c') {key : StopId × StopId} {road : String × String}
    (hjoins : c.Joins key road) : c'.Joins key road :=
  ⟨h.stopName? hjoins.1, h.stopName? hjoins.2⟩

namespace Records

/-- A length that is recorded is one between two registered stops. -/
theorem exists_joins (hr : Records history c) {key : StopId × StopId} {meters : α}
    (h : c.distances.get? key = some meters) : ∃ road, c.Joins key road := by
  obtain ⟨before, after, heq, -⟩ := List.lookup_eq_some_iff.1 h
  have hkey : key ∈ c.distances.entries.map Prod.fst := by simp [heq]
  obtain ⟨road, -, hjoins⟩ := exists_mem_of_forall₂ hr.roads_eq.flip hkey
  exact ⟨road, hjoins⟩

/-- A length that was recorded was recorded between two registered stops. -/
theorem exists_joins_of_last? (hr : Records history c) {origin target : String} {meters : α}
    (h : History.last? (Operation.length? origin target) history = some meters) :
    ∃ key, c.Joins key (origin, target) := by
  obtain ⟨key, -, hjoins⟩ :=
    exists_mem_of_forall₂ hr.roads_eq (History.mem_roads_of_last? h)
  exact ⟨key, hjoins⟩

/-- What is recorded stays so for as long as lengths and names do. -/
theorem recorded_of_keepsNames (hr : Records history c) (hc : c'.stops.Distinct)
    (hkeeps : c.KeepsNames c') (hdistances : c'.distances = c.distances) {a b : StopId}
    {origin target : String} (ha : c'.stopName? a = some origin)
    (hb : c'.stopName? b = some target) :
    c'.distances.get? (a, b) = History.last? (Operation.length? origin target) history := by
  rw [hdistances]
  ext meters
  constructor
  · intro h
    obtain ⟨⟨origin', target'⟩, ha', hb'⟩ := hr.exists_joins h
    obtain rfl : origin' = origin := Option.some.inj ((hkeeps.stopName? ha').symm.trans ha)
    obtain rfl : target' = target := Option.some.inj ((hkeeps.stopName? hb').symm.trans hb)
    rw [← hr.recorded ha' hb', h]
  · intro h
    obtain ⟨⟨a', b'⟩, ha', hb'⟩ := hr.exists_joins_of_last? h
    obtain rfl : a' = a := stopName?_inj hc (hkeeps.stopName? ha') ha
    obtain rfl : b' = b := stopName?_inj hc (hkeeps.stopName? hb') hb
    rw [hr.recorded ha' hb', h]

/-- A bus runs over the stops that it ran over. -/
theorem exists_course_of_keepsNames (hr : Records history c) (hkeeps : c.KeepsNames c')
    {line : Bus} (h : c.buses.get? name = some line) :
    ∃ names, History.last? (Operation.course? name) history = some (names, line.kind) ∧
      List.Forall₂ (fun stop n => c'.stopName? stop = some n) line.stops names := by
  obtain ⟨names, hlast, hnames⟩ := hr.exists_course h
  exact ⟨names, hlast, hnames.imp fun _ _ => hkeeps.stopName?⟩

/-! ## What each call adds -/

/-- Registering a stop puts the call at the end of the history. -/
theorem addStop (hr : Records history c) (hc : c.WellFormed) (name : String)
    (coordinates : Coordinates α) :
    Records (history ++ [.addStop name coordinates]) (c.addStop name coordinates).2 := by
  have hkeeps : c.KeepsNames (c.addStop name coordinates).2 := .addStop c name coordinates
  have hdistinct := (hc.addStop name coordinates).stops_distinct
  obtain ⟨hbuses, hdistances, hat⟩ := addStop_spec c name coordinates
  constructor
  case stopNames_eq =>
    have hname : Operation.stop? (.addStop name coordinates) = some name := rfl
    rw [History.stopNames, History.named_concat_of_some hname, ← History.stopNames,
      ← hr.stopNames_eq]
    rw [registeredStops, stops_addStop]
    exact Register.keys_put c.stops name _
  case busNames_eq =>
    rw [History.busNames, History.named_concat_of_none rfl, registeredBuses, hbuses]
    exact hr.busNames_eq
  case coordinates?_eq =>
    intro stop other hother
    rw [History.last?_concat, Operation.place?]
    have hentry := hat stop
    by_cases hstop : stop = (c.addStop name coordinates).1
    · rw [if_pos hstop] at hentry
      obtain rfl : name = other := by simpa [stopName?_eq, hentry] using hother
      simp [Catalogue.coordinates?_eq, hentry]
    · have hne : name ≠ other := by
        rintro rfl
        have hself : (c.addStop name coordinates).2.stopName? (c.addStop name coordinates).1 =
            some name := by
          rw [stopName?_eq, hat, if_pos rfl]
          rfl
        exact hstop (stopName?_inj hdistinct hother hself)
      rw [if_neg hstop] at hentry
      rw [if_neg hne, Option.none_or, Catalogue.coordinates?_eq, hentry,
        ← Catalogue.coordinates?_eq]
      exact hr.coordinates?_eq (by rwa [stopName?_eq, hentry, ← stopName?_eq] at hother)
  case exists_course =>
    intro line bus hbus
    rw [History.last?_concat_of_none rfl]
    exact hr.exists_course_of_keepsNames hkeeps (hbuses ▸ hbus)
  case recorded =>
    intro a b origin target ha hb
    rw [History.last?_concat_of_none rfl]
    exact hr.recorded_of_keepsNames hdistinct hkeeps hdistances ha hb
  case roads_eq =>
    rw [hdistances, History.roads, History.named_concat_of_none rfl]
    exact hr.roads_eq.imp fun _ _ => Joins.mono hkeeps

/-- Registering a bus puts the call at the end of the history. -/
theorem addBus (hr : Records history c) (hc : c.WellFormed) {stopNames : List String}
    {kind : RouteKind} {bus : BusId} (h : c.addBus name stopNames kind = .value (bus, c')) :
    Records (history ++ [.addBus name stopNames kind]) c' := by
  have hkeeps : c.KeepsNames c' := .addBus hc h
  have hstops := stopName?_addBus hc h
  obtain ⟨listed, hlisted, hbuses, hdistances, -⟩ := of_addBus hc h
  constructor
  case stopNames_eq =>
    rw [History.stopNames, History.named_concat_of_none rfl]
    refine Eq.trans (List.ext_getElem? fun stop => ?_) hr.stopNames_eq
    rw [getElem?_registeredStops, getElem?_registeredStops, (hstops stop).1]
  case busNames_eq =>
    have hname : Operation.bus? (.addBus name stopNames kind : Operation α) = some name := rfl
    rw [History.busNames, History.named_concat_of_some hname, ← History.busNames, ← hr.busNames_eq,
      Catalogue.registeredBuses, hbuses]
    exact Register.keys_put c.buses name _
  case coordinates?_eq =>
    intro stop other hother
    rw [History.last?_concat_of_none rfl, (hstops stop).2]
    exact hr.coordinates?_eq (by rwa [(hstops stop).1] at hother)
  case exists_course =>
    intro other line hline
    rw [History.last?_concat, Operation.course?]
    by_cases hother : name = other
    · subst hother
      rw [hbuses, Register.get?_put_self, Option.some.injEq] at hline
      subst hline
      refine ⟨stopNames, by simp, hlisted.flip.imp fun stop n hn => ?_⟩
      exact hkeeps.stopName? ((findStop_eq_some_iff hc.stops_distinct).1 hn)
    · rw [hbuses, Register.get?_put_of_ne _ (Ne.symm hother)] at hline
      rw [if_neg hother, Option.none_or]
      exact hr.exists_course_of_keepsNames hkeeps hline
  case recorded =>
    intro a b origin target ha hb
    rw [History.last?_concat_of_none rfl]
    exact hr.recorded_of_keepsNames (hc.addBus h).stops_distinct hkeeps hdistances ha hb
  case roads_eq =>
    rw [hdistances, History.roads, History.named_concat_of_none rfl]
    exact hr.roads_eq.imp fun _ _ => Joins.mono hkeeps

/-- Recording a length puts the call at the end of the history. -/
theorem setDistance (hr : Records history c) (hc : c.WellFormed) {origin target : String}
    {meters : α} (h : c.setDistance origin target meters = .value c') :
    Records (history ++ [.setDistance origin target meters]) c' := by
  obtain ⟨a, b, ha, hb, -, -, rfl⟩ := setDistance_eq_value_iff.1 h
  rw [findStop_eq_some_iff hc.stops_distinct] at ha hb
  have hjoins : c.Joins (a, b) (origin, target) := ⟨ha, hb⟩
  have hunique : Relator.BiUnique c.Joins := biUnique_joins hc.stops_distinct
  constructor
  case stopNames_eq =>
    rw [History.stopNames, History.named_concat_of_none rfl]
    exact hr.stopNames_eq
  case busNames_eq =>
    rw [History.busNames, History.named_concat_of_none rfl]
    exact hr.busNames_eq
  case coordinates?_eq =>
    intro stop other hother
    rw [History.last?_concat_of_none rfl]
    exact hr.coordinates?_eq hother
  case exists_course =>
    intro other line hline
    rw [History.last?_concat_of_none rfl]
    exact hr.exists_course hline
  case recorded =>
    intro p q first second hp hq
    have hjoins' : c.Joins (p, q) (first, second) := ⟨hp, hq⟩
    rw [History.last?_concat, Operation.length?]
    by_cases heq : (p, q) = (a, b)
    · have hroad : (origin, target) = (first, second) := hunique.2 hjoins (heq ▸ hjoins')
      rw [if_pos hroad, heq, Register.get?_put_self, Option.some_or]
    · have hroad : (origin, target) ≠ (first, second) := by
        intro hroad
        exact heq (hunique.1 hjoins' (hroad ▸ hjoins))
      rw [if_neg hroad, Register.get?_put_of_ne _ heq, Option.none_or]
      exact hr.recorded hp hq
  case roads_eq =>
    have hmem := List.rel_mem hunique hjoins hr.roads_eq
    have hname : Operation.road? (.setDistance origin target meters) = some (origin, target) := rfl
    rw [Register.keys_put, History.roads, History.named_concat_of_some hname, ← History.roads]
    by_cases hroad : (origin, target) ∈ History.roads history
    · rw [if_pos hroad, if_pos (hmem.2 hroad)]
      exact hr.roads_eq
    · rw [if_neg hroad, if_neg (mt hmem.1 hroad)]
      exact List.rel_append hr.roads_eq (.cons hjoins .nil)

/-- **A call that succeeds is put at the end of the history.** -/
theorem perform (hr : Records history c) (hc : c.WellFormed) {operation : Operation α}
    (h : c.perform operation = .value c') : Records (history ++ [operation]) c' := by
  cases operation with
  | addStop name coordinates =>
      obtain rfl : (c.addStop name coordinates).2 = c' := Outcome.value.inj h
      exact hr.addStop hc name coordinates
  | addBus name stopNames kind =>
      obtain ⟨⟨bus, c₁⟩, hadd, heq⟩ := bind_eq_value_iff.1 h
      obtain rfl : c₁ = c' := Outcome.value.inj heq
      exact hr.addBus hc hadd
  | setDistance origin target meters => exact hr.setDistance hc h

end Records

/-! ## What a catalogue answers -/

/-- What a catalogue answers is what its history says. -/
structure Summarizes (history : List (Operation α)) (c : Catalogue α) : Prop where
  /-- Stops are numbered in the order in which their names first came. -/
  stopName?_eq (stop : StopId) : c.stopName? stop = (History.stopNames history)[stop]?
  /-- Buses are numbered in the order in which their names first came. -/
  busName?_eq (bus : BusId) : c.busName? bus = (History.busNames history)[bus]?
  /-- A stop is found by its name. -/
  findStop_eq (name : String) : c.findStop name = (History.stopNames history).idxOf? name
  /-- A bus is found by its name. -/
  findBus_eq (name : String) : c.findBus name = (History.busNames history).idxOf? name
  /-- A stop stands where it was last put. -/
  coordinates?_eq {name : String} {stop : StopId} : c.findStop name = some stop →
    c.coordinates? stop = History.last? (Operation.place? name) history
  /-- A bus has the stops and the kind with which it was last registered. -/
  exists_line {name : String} {bus : BusId} : c.findBus name = some bus →
    ∃ line names, c.buses.at? bus = some (name, line) ∧
      History.last? (Operation.course? name) history = some (names, line.kind) ∧
      line.stops.mapM c.stopName? = some names
  /-- Between stops there is the length that was last recorded, in that direction if in any. -/
  distance_eq {origin target : String} {a b : StopId} : c.findStop origin = some a →
    c.findStop target = some b → c.distance a b = History.lengthBetween history origin target
  /-- So there is between names, and a name that never came is not found. -/
  distanceBetween_eq (origin target : String) : c.distanceBetween origin target =
    if origin ∈ History.stopNames history then
      if target ∈ History.stopNames history then History.lengthBetween history origin target
      else .failed (.stopNotFound target)
    else .failed (.stopNotFound origin)
  /-- There are as many lengths as directions in which any was recorded. -/
  size_distances : c.distances.size = (History.roads history).length

namespace Records

variable (hr : Records history c)
include hr

/-- The length between two stops is the one recorded last. -/
theorem distance_eq {origin target : String} {a b : StopId} (ha : c.stopName? a = some origin)
    (hb : c.stopName? b = some target) :
    c.distance a b = History.lengthBetween history origin target := by
  unfold Catalogue.distance distance? History.lengthBetween
  rw [hr.recorded ha hb, hr.recorded hb ha, ha, hb]
  rfl

/-- The length between two names is that between the stops found. -/
theorem distanceBetween_eq (hc : c.WellFormed) (origin target : String) :
    c.distanceBetween origin target =
      if origin ∈ History.stopNames history then
        if target ∈ History.stopNames history then History.lengthBetween history origin target
        else .failed (.stopNotFound target)
      else .failed (.stopNotFound origin) := by
  have hmem : ∀ name, name ∈ History.stopNames history ↔ ∃ stop, c.findStop name = some stop := by
    intro name
    rw [← hr.stopNames_eq, mem_registeredStops_iff hc.stops_distinct]
  unfold distanceBetween askedStop
  cases horigin : c.findStop origin with
  | none =>
      rw [if_neg (by simp [hmem, horigin])]
      rfl
  | some a =>
      rw [if_pos ((hmem origin).2 ⟨a, horigin⟩), value_bind]
      cases htarget : c.findStop target with
      | none =>
          rw [if_neg (by simp [hmem, htarget])]
          rfl
      | some b =>
          rw [if_pos ((hmem target).2 ⟨b, htarget⟩), value_bind]
          rw [findStop_eq_some_iff hc.stops_distinct] at horigin htarget
          exact hr.distance_eq horigin htarget

/-- **What a catalogue answers is what its history says.** -/
theorem summarizes (hc : c.WellFormed) : Summarizes history c where
  stopName?_eq stop := by rw [← hr.stopNames_eq, getElem?_registeredStops]
  busName?_eq bus := by rw [← hr.busNames_eq, getElem?_registeredBuses]
  findStop_eq name := by
    rw [← hr.stopNames_eq, Catalogue.findStop_eq]
    exact Register.position?_eq_idxOf? c.stops name
  findBus_eq name := by
    rw [← hr.busNames_eq, Catalogue.findBus_eq]
    exact Register.position?_eq_idxOf? c.buses name
  coordinates?_eq hstop := hr.coordinates?_eq ((findStop_eq_some_iff hc.stops_distinct).1 hstop)
  exists_line hbus := by
    obtain ⟨line, hline⟩ := (findBus_iff_at? hc.buses_distinct).1 hbus
    obtain ⟨names, hlast, hnames⟩ :=
      hr.exists_course ((Register.get?_eq_some_iff hc.buses_distinct).2 ⟨_, hline⟩)
    exact ⟨line, names, hline, hlast, mapM_eq_some_iff.2 hnames⟩
  distance_eq ha hb := by
    rw [findStop_eq_some_iff hc.stops_distinct] at ha hb
    exact hr.distance_eq ha hb
  distanceBetween_eq := hr.distanceBetween_eq hc
  size_distances := by
    rw [← hr.roads_eq.length_eq, List.length_map]
    rfl

end Records

/-! ## Runs -/

/-- A stop is found where its registration answers. -/
theorem findStop_addStop (hc : c.WellFormed) (name : String) (coordinates : Coordinates α) :
    (c.addStop name coordinates).2.findStop name = some (c.addStop name coordinates).1 := by
  have hdistinct := (hc.addStop name coordinates).stops_distinct
  rw [findStop_iff_at? hdistinct, (addStop_spec c name coordinates).2.2, if_pos rfl]
  exact ⟨_, rfl⟩

/-- A bus is found where its registration answers. -/
theorem findBus_addBus (hc : c.WellFormed) {stopNames : List String} {kind : RouteKind}
    {bus : BusId} (h : c.addBus name stopNames kind = .value (bus, c')) :
    c'.findBus name = some bus := by
  obtain ⟨listed, hnames, -⟩ := of_addBus hc h
  obtain ⟨c₁, hadd, hbuses, -⟩ := addBus_spec hc kind hnames
  obtain ⟨rfl, rfl⟩ := Prod.mk.inj (Outcome.value.inj (hadd.symm.trans h))
  rw [findBus_eq, hbuses]
  exact Register.position?_put_self hc.buses_distinct _

/-- The tables have the history of the calls that succeeded, and these calls alone lead there. -/
theorem exists_records (operations : List (Operation α)) :
    ∃ c, empty.run operations = some c ∧ c.Reachable ∧
      Records (History.accepted operations) c ∧
      empty.run (History.accepted operations) = some c := by
  induction operations using List.reverseRecOn with
  | nil => exact ⟨empty, rfl, .empty, records_empty, rfl⟩
  | append_singleton before operation ih =>
      obtain ⟨c, hrun, hc, hr, haccepted⟩ := ih
      obtain ⟨c', hattempt, hc', -⟩ := hc.exists_attempt operation
      refine ⟨c', run_concat.2 ⟨c, hrun, hattempt⟩, hc', ?_⟩
      rw [History.accepted_concat, ← hr.stopNames_eq]
      rcases hc.wellFormed.attempt_eq_some_iff.1 hattempt with
        ⟨hfault, rfl⟩ | ⟨hfault, hperform⟩
      · rw [if_neg hfault]
        exact ⟨hr, haccepted⟩
      · rw [if_pos hfault]
        exact ⟨hr.perform hc.wellFormed hperform, run_concat.2 ⟨c, haccepted, hattempt⟩⟩

/-- A call that fails might as well not have been made. -/
theorem run_of_failed {before : List (Operation α)} {operation : Operation α}
    {error : CatalogueError α} (hrun : empty.run before = some c)
    (h : c.perform operation = .failed error) (later : List (Operation α)) :
    empty.run (before ++ operation :: later) = empty.run (before ++ later) := by
  rw [run_append, run_append, hrun, Option.bind_some, Option.bind_some, run, List.foldlM_cons,
    attempt, h]
  rfl

/-- **A catalogue is the summary of its history.** After any calls it answers what the history of
those that succeeded says, and these alone would have led to it. A further call fails as that
history says, and then it might as well not be made; or it comes to the end of the history, and a
position that it hands out is where the name is found. What a position names it names ever after. -/
theorem summarizes_run (operations : List (Operation α)) :
    ∃ c, empty.run operations = some c ∧
      Summarizes (History.accepted operations) c ∧
      empty.run (History.accepted operations) = some c ∧
      (∀ operation, (c.perform operation).DecidedBy
        (operation.fault? (History.stopNames (History.accepted operations)))
        (Summarizes (History.accepted operations ++ [operation]))) ∧
      (∀ operation error, c.perform operation = .failed error →
        ∀ later, empty.run (operations ++ operation :: later) = empty.run (operations ++ later)) ∧
      (∀ name coordinates, (c.addStop name coordinates).2.findStop name =
        some (c.addStop name coordinates).1) ∧
      (∀ name stopNames kind bus c', c.addBus name stopNames kind = .value (bus, c') →
        c'.findBus name = some bus) ∧
      ∀ later, ∃ c', c.run later = some c' ∧ c.KeepsNames c' := by
  obtain ⟨c, hrun, hc, hr, haccepted⟩ := exists_records operations
  have hwell := hc.wellFormed
  refine ⟨c, hrun, hr.summarizes hwell, haccepted, ?_, ?_, ?_, ?_, ?_⟩
  · intro operation
    rw [← hr.stopNames_eq]
    refine (hwell.perform_decidedBy operation).imp fun c' h _ => ?_
    exact (hr.perform hwell h).summarizes (hc.perform h).wellFormed
  · intro operation error h later
    exact run_of_failed hrun h later
  · intro name coordinates
    exact findStop_addStop hwell name coordinates
  · intro name stopNames kind bus c' hadd
    exact findBus_addBus hwell hadd
  · intro later
    obtain ⟨c', hlater, -, hkeeps⟩ := hc.exists_run later
    exact ⟨c', hlater, hkeeps⟩

end Catalogue

end BusNetwork
