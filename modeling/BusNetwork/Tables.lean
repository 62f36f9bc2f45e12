import BusNetwork.Ascending
import BusNetwork.Bus
import BusNetwork.Coordinates
import BusNetwork.Outcome
import BusNetwork.Register

/-!
# Tables: what a catalogue is kept in

Stops and buses are kept in tables by position, with an index for each that finds the position of a
name, and the buses that serve a stop are listed in a table of their own, by the position of the
stop. The tables are filled by three operations, `addStop`, `addBus` and `setDistance`, and **a
position is always looked up as one that may be missing**: in the table itself, whether it comes
from an index or from the list of a bus.

`Tables.InStep` is what keeps the tables together: each index gives the names of its table their
positions, and every stop has a list of the buses that serve it. **Each operation keeps the tables
in step** (`InStep.addStop`, `InStep.addBus`, `InStep.setDistance`), and where they are in step
registering a stop finds what it changes (`InStep.isSome_addStop`).
-/

namespace BusNetwork

variable {α β : Type}

/-- Why a catalogue refuses an operation or has no answer. -/
inductive CatalogueError (α : Type) where
  /-- A bus or a distance names a stop that is not registered. -/
  | unknownStop (name : String)
  /-- A question names a bus that is not registered. -/
  | busNotFound (name : String)
  /-- A question names a stop that is not registered. -/
  | stopNotFound (name : String)
  /-- No road between two stops is recorded in either direction. -/
  | noDistanceData (origin target : String)
  /-- A road length is negative, infinite or undefined. -/
  | invalidDistance (origin target : String) (meters : α)
  deriving Repr, DecidableEq

namespace CatalogueError

/-- The error in words. -/
def message [Quantity α] : CatalogueError α → String
  | unknownStop name => "unknown stop: " ++ name
  | busNotFound name => "bus not found: " ++ name
  | stopNotFound name => "stop not found: " ++ name
  | noDistanceData origin target => "no distance data between " ++ origin ++ " and " ++ target
  | invalidDistance origin target meters =>
    "invalid distance " ++ Quantity.text meters ++ " from " ++ origin ++ " to " ++ target

/-- Whether a question asked for something that is not registered. -/
def isNotFound : CatalogueError α → Bool
  | busNotFound _ => true
  | stopNotFound _ => true
  | _ => false

end CatalogueError

/-! ## One table -/

/-- A table with the entry at a position changed. There is none if the position is outside. -/
def modifyAt? (change : β → β) (table : List β) (position : Nat) : Option (List β) := do
  let entry ← table[position]?
  some (table.set position (change entry))

/-- A position inside a table can be changed, and this changes nothing else. -/
theorem modifyAt?_eq (change : β → β) {table : List β} {position : Nat}
    (h : position < table.length) : modifyAt? change table position =
      some (table.mapIdx fun p entry => if p = position then change entry else entry) := by
  simp only [modifyAt?, List.getElem?_eq_getElem h, Option.bind_eq_bind, Option.bind_some,
    Option.some.injEq]
  apply List.ext_getElem?
  intro p
  rw [List.getElem?_mapIdx]
  by_cases hp : p = position
  · subst hp
    simp [h]
  · simp [hp, List.getElem?_set_ne (Ne.symm hp)]

/-- A change at a position leaves a table as long as it is. -/
theorem length_modifyAt? {change : β → β} {table table' : List β} {position : Nat}
    (h : modifyAt? change table position = some table') : table'.length = table.length := by
  simp only [modifyAt?, Option.bind_eq_bind, Option.bind_eq_some_iff, Option.some.injEq] at h
  obtain ⟨entry, -, rfl⟩ := h
  exact List.length_set

/-- Whether an index gives the names of a table their positions, in order. -/
def Indexes (index : Register String Nat) (table : List (String × β)) : Prop :=
  index.entries = (table.map Prod.fst).zipIdx

namespace Indexes

variable {index : Register String Nat} {table : List (String × β)} {name : String} {position : Nat}

/-- What an index finds of a name is an entry of that name. -/
theorem exists_getElem? (h : Indexes index table) (hget : index.get? name = some position) :
    ∃ x, table[position]? = some (name, x) := by
  obtain ⟨before, after, hentries, -⟩ := List.lookup_eq_some_iff.1 hget
  have hmem : (name, position) ∈ (table.map Prod.fst).zipIdx := by
    rw [← show index.entries = _ from h, hentries]
    simp
  have hname := List.mem_zipIdx_iff_getElem?.1 hmem
  simp only [List.getElem?_map, Option.map_eq_some_iff] at hname
  obtain ⟨⟨k, x⟩, hentry, rfl⟩ := hname
  exact ⟨x, hentry⟩

/-- What an index finds is a position of the table. -/
theorem lt_length (h : Indexes index table) (hget : index.get? name = some position) :
    position < table.length := by
  obtain ⟨x, hx⟩ := h.exists_getElem? hget
  obtain ⟨hlt, -⟩ := List.getElem?_eq_some_iff.1 hx
  exact hlt

/-- An entry may be replaced by another one of its name. -/
theorem set {x : β} (h : Indexes index table) (hentry : table[position]? = some (name, x)) (y : β) :
    Indexes index (table.set position (name, y)) := by
  obtain ⟨hlt, hvalue⟩ := List.getElem?_eq_some_iff.1 hentry
  have hlt' : position < (table.map Prod.fst).length := by simpa using hlt
  have hname : (table.map Prod.fst)[position] = name := by rw [List.getElem_map, hvalue]
  have hnames : (table.set position (name, y)).map Prod.fst = table.map Prod.fst := by
    rw [List.map_set, ← hname, List.set_getElem_self]
  unfold Indexes
  rw [hnames]
  exact h

/-- A new entry at the end of the table gets the next position in the index. -/
theorem push (h : Indexes index table) (hnew : index.get? name = none) (x : β) :
    Indexes (index.put name fun _ => table.length).2 (table ++ [(name, x)]) := by
  have hput : (index.put name fun _ => table.length).2.entries =
      index.entries ++ [(name, table.length)] :=
    Register.putEntry_of_lookup_eq_none hnew _
  unfold Indexes
  rw [hput, show index.entries = _ from h, List.map_append, List.zipIdx_append]
  simp

end Indexes

/-! ## The tables -/

/-- What is registered of a network, table by table. -/
structure Tables (α : Type) where
  /-- The stops, by name and with where they stand. -/
  stopTable : List (String × Coordinates α)
  /-- The position of each stop, by name. -/
  stopIndex : Register String StopId
  /-- The buses by name. -/
  busTable : List (String × Bus)
  /-- The position of each bus, by name. -/
  busIndex : Register String BusId
  /-- The recorded road lengths in meters, by origin and target. -/
  distances : Register (StopId × StopId) α
  /-- The names of the buses that serve each stop, ascending. -/
  busesAtStop : List (List String)
  deriving Repr, DecidableEq

namespace Tables

/-- The tables in which nothing is registered. -/
def empty : Tables α := ⟨[], .empty, [], .empty, .empty, []⟩

/-- The stop of a name. -/
def findStop (t : Tables α) (name : String) : Option StopId := t.stopIndex.get? name

/-- The bus of a name. -/
def findBus (t : Tables α) (name : String) : Option BusId := t.busIndex.get? name

/-- The stop of a name that an operation refers to. -/
def knownStop (t : Tables α) (name : String) : Outcome (CatalogueError α) StopId :=
  match t.findStop name with
  | some stop => .value stop
  | none => .failed (.unknownStop name)

/-- Put a stop at the end of the table. No bus serves it. -/
def pushStop (t : Tables α) (name : String) (coordinates : Coordinates α) : StopId × Tables α :=
  (t.stopTable.length,
    { t with
      stopTable := t.stopTable ++ [(name, coordinates)]
      stopIndex := (t.stopIndex.put name fun _ => t.stopTable.length).2
      busesAtStop := t.busesAtStop ++ [[]] })

/-- Register a stop, or move the stop of that name. -/
def addStop (t : Tables α) (name : String) (coordinates : Coordinates α) :
    Option (StopId × Tables α) :=
  match t.findStop name with
  | some stop => do
    let (known, _) ← t.stopTable[stop]?
    some (stop, { t with stopTable := t.stopTable.set stop (known, coordinates) })
  | none => some (t.pushStop name coordinates)

/-- The lists of buses at stops after a bus of a name was entered at a stop. -/
def serve? (name : String) (busesAtStop : List (List String)) (stop : StopId) :
    Option (List (List String)) :=
  modifyAt? (Ascending.insert id name) busesAtStop stop

/-- The lists of buses at stops after a bus of a name was entered at the stops that it lists. -/
def serveAll? (name : String) (busesAtStop : List (List String)) (listed : List StopId) :
    Option (List (List String)) :=
  listed.foldlM (serve? name) busesAtStop

/-- The lists of buses at stops after a bus of a name was struck off at a stop, which it is unless
its entry in the table lists the stop. -/
def leave? (busTable : List (String × Bus)) (bus : BusId) (name : String)
    (busesAtStop : List (List String)) (stop : StopId) : Option (List (List String)) := do
  let (_, line) ← busTable[bus]?
  if line.stops.contains stop then some busesAtStop
  else modifyAt? (·.filter (· != name)) busesAtStop stop

/-- Put a bus in the place of another, which leaves the stops that it alone listed. -/
def replaceBus (t : Tables α) (bus : BusId) (name : String) (line : Bus) : Option (Tables α) := do
  let (_, former) ← t.busTable[bus]?
  let busTable := t.busTable.set bus (name, line)
  let busesAtStop ← former.stops.foldlM (leave? busTable bus name) t.busesAtStop
  some { t with busTable, busesAtStop }

/-- Put a bus at the end of the table. -/
def pushBus (t : Tables α) (name : String) (line : Bus) : BusId × Tables α :=
  (t.busTable.length,
    { t with
      busTable := t.busTable ++ [(name, line)]
      busIndex := (t.busIndex.put name fun _ => t.busTable.length).2 })

/-- Register a bus over registered stops, or replace the bus of that name. -/
def addBus (t : Tables α) (name : String) (stopNames : List String) (kind : RouteKind) :
    Outcome (CatalogueError α) (BusId × Tables α) := do
  let listed ← stopNames.mapM t.knownStop
  let busesAtStop ← serveAll? name t.busesAtStop listed
  let serving := { t with busesAtStop }
  match t.findBus name with
  | some bus =>
    let replaced ← serving.replaceBus bus name ⟨listed, kind⟩
    pure (bus, replaced)
  | none => pure (serving.pushBus name ⟨listed, kind⟩)

/-- Record the road length from one stop to another, in place of a former one. -/
def setDistance [Quantity α] (t : Tables α) (origin target : String) (meters : α) :
    Outcome (CatalogueError α) (Tables α) := do
  let a ← t.knownStop origin
  let b ← t.knownStop target
  if Quantity.isFinite meters && !decide (meters < Quantity.zero) then
    pure { t with distances := (t.distances.put (a, b) fun _ => meters).2 }
  else
    .failed (.invalidDistance origin target meters)

/-! ## What the operations do -/

section

variable {t t' : Tables α} {name : String}

/-- A stop of a new name is put at the end. -/
theorem addStop_of_new (hnew : t.findStop name = none) (coordinates : Coordinates α) :
    t.addStop name coordinates = some (t.pushStop name coordinates) := by
  rw [addStop, hnew]

/-- A stop that an operation refers to is one that is found. -/
theorem knownStop_eq_value_iff {stop : StopId} :
    t.knownStop name = .value stop ↔ t.findStop name = some stop := by
  unfold knownStop
  split <;> simp_all

/-- Registering a bus enters it at the stops listed, and then it takes the place of the bus of that
name or comes last. -/
theorem addBus_eq_value_iff {stopNames : List String} {kind : RouteKind} {bus : BusId} :
    t.addBus name stopNames kind = .value (bus, t') ↔
      ∃ listed lists, stopNames.mapM t.knownStop = .value listed ∧
        serveAll? name t.busesAtStop listed = some lists ∧
        ((t.findBus name = some bus ∧ replaceBus { t with busesAtStop := lists } bus name
            ⟨listed, kind⟩ = some t') ∨
          (t.findBus name = none ∧
            pushBus { t with busesAtStop := lists } name ⟨listed, kind⟩ = (bus, t'))) := by
  simp only [addBus, Outcome.bind_eq_value_iff, Outcome.liftM_eq_value_iff, exists_and_left]
  refine exists_congr fun listed => and_congr_right fun _ =>
    exists_congr fun lists => and_congr_right fun _ => ?_
  cases t.findBus name with
  | none => simp
  | some known =>
      simp only [Outcome.bind_eq_value_iff, Outcome.liftM_eq_value_iff, Outcome.pure_eq,
        Outcome.value.injEq, Prod.mk.injEq, Option.some.injEq, reduceCtorEq, false_and, or_false]
      constructor
      · rintro ⟨replaced, hreplaced, rfl, rfl⟩
        exact ⟨rfl, hreplaced⟩
      · rintro ⟨rfl, hreplaced⟩
        exact ⟨t', hreplaced, rfl, rfl⟩

/-- Registering a bus of a new name. -/
theorem addBus_of_new {stopNames : List String} {listed : List StopId} {kind : RouteKind}
    {lists : List (List String)} (hlisted : stopNames.mapM t.knownStop = .value listed)
    (hserve : serveAll? name t.busesAtStop listed = some lists) (hnew : t.findBus name = none) :
    t.addBus name stopNames kind =
      .value (pushBus { t with busesAtStop := lists } name ⟨listed, kind⟩) :=
  addBus_eq_value_iff.2 ⟨listed, lists, hlisted, hserve, .inr ⟨hnew, rfl⟩⟩

/-- Registering a bus of a known name. -/
theorem addBus_of_known {stopNames : List String} {listed : List StopId} {kind : RouteKind}
    {lists lists' : List (List String)} {bus : BusId} {known : String} {former : Bus}
    (hlisted : stopNames.mapM t.knownStop = .value listed)
    (hserve : serveAll? name t.busesAtStop listed = some lists)
    (hknown : t.findBus name = some bus) (hformer : t.busTable[bus]? = some (known, former))
    (hleave : former.stops.foldlM (leave? (t.busTable.set bus (name, ⟨listed, kind⟩)) bus name)
      lists = some lists') :
    t.addBus name stopNames kind = .value (bus, { t with
      busTable := t.busTable.set bus (name, ⟨listed, kind⟩)
      busesAtStop := lists' }) :=
  addBus_eq_value_iff.2 ⟨listed, lists, hlisted, hserve,
    .inl ⟨hknown, by simp [replaceBus, hformer, hleave]⟩⟩

/-- Recording a length gives it to a pair of registered stops, if it is a length at all. -/
theorem setDistance_eq_value_iff [Quantity α] {origin target : String} {meters : α} :
    t.setDistance origin target meters = .value t' ↔ ∃ a b, t.findStop origin = some a ∧
      t.findStop target = some b ∧ Quantity.isFinite meters = true ∧ ¬ meters < Quantity.zero ∧
      t' = { t with distances := (t.distances.put (a, b) fun _ => meters).2 } := by
  simp only [setDistance, Outcome.bind_eq_value_iff, knownStop_eq_value_iff]
  constructor
  · rintro ⟨a, ha, b, hb, h⟩
    split at h
    · rename_i hcheck
      simp only [Bool.and_eq_true, Bool.not_eq_true', decide_eq_false_iff_not] at hcheck
      simp only [Outcome.pure_eq, Outcome.value.injEq] at h
      exact ⟨a, b, ha, hb, hcheck.1, hcheck.2, h.symm⟩
    · cases h
  · rintro ⟨a, b, ha, hb, hfinite, hnot, rfl⟩
    exact ⟨a, ha, b, hb, by simp [hfinite, hnot]⟩

end

/-! ## Tables in step -/

/-- Each index gives the names of its table their positions, and every stop has a list of the buses
that serve it. -/
def InStep (t : Tables α) : Prop :=
  Indexes t.stopIndex t.stopTable ∧ Indexes t.busIndex t.busTable ∧
    t.busesAtStop.length = t.stopTable.length

namespace InStep

variable {t t' : Tables α} {name : String}

/-- The index of the stops gives them their positions. -/
theorem indexes_stops (h : t.InStep) : Indexes t.stopIndex t.stopTable := h.1

/-- The index of the buses gives them their positions. -/
theorem indexes_buses (h : t.InStep) : Indexes t.busIndex t.busTable := h.2.1

/-- There is a list of buses for each stop. -/
theorem length_busesAtStop (h : t.InStep) : t.busesAtStop.length = t.stopTable.length := h.2.2

/-- Tables without entries are in step. -/
theorem empty : (Tables.empty : Tables α).InStep := ⟨rfl, rfl, rfl⟩

/-- Where a stop is found by its name it is moved in its place. -/
theorem addStop_of_findStop (h : t.InStep) {stop : StopId} (hfind : t.findStop name = some stop)
    (coordinates : Coordinates α) : t.addStop name coordinates =
      some (stop, { t with stopTable := t.stopTable.set stop (name, coordinates) }) := by
  obtain ⟨x, hx⟩ := h.indexes_stops.exists_getElem? hfind
  simp [Tables.addStop, hfind, hx]

/-- **Registering a stop finds what it changes.** -/
theorem isSome_addStop (h : t.InStep) (name : String) (coordinates : Coordinates α) :
    (t.addStop name coordinates).isSome = true := by
  cases hfind : t.findStop name with
  | none => rw [addStop_of_new hfind, Option.isSome_some]
  | some stop => rw [h.addStop_of_findStop hfind, Option.isSome_some]

/-- **Registering a stop keeps the tables in step.** -/
theorem addStop (h : t.InStep) {coordinates : Coordinates α} {stop : StopId}
    (hadd : t.addStop name coordinates = some (stop, t')) : t'.InStep := by
  cases hfind : t.findStop name with
  | none =>
      rw [addStop_of_new hfind, Option.some.injEq, pushStop, Prod.mk.injEq] at hadd
      obtain ⟨-, rfl⟩ := hadd
      exact ⟨h.indexes_stops.push hfind coordinates, h.indexes_buses,
        by simp [h.length_busesAtStop]⟩
  | some known =>
      rw [h.addStop_of_findStop hfind, Option.some.injEq, Prod.mk.injEq] at hadd
      obtain ⟨-, rfl⟩ := hadd
      obtain ⟨x, hx⟩ := h.indexes_stops.exists_getElem? hfind
      exact ⟨h.indexes_stops.set hx coordinates, h.indexes_buses, by simp [h.length_busesAtStop]⟩

/-- Going through stops to change their lists of buses leaves as many lists. -/
theorem length_foldlM {step : List (List String) → StopId → Option (List (List String))}
    (hstep : ∀ {lists stop lists'}, step lists stop = some lists' → lists'.length = lists.length)
    {stops : List StopId} {lists lists' : List (List String)}
    (h : stops.foldlM step lists = some lists') : lists'.length = lists.length := by
  induction stops generalizing lists with
  | nil =>
      obtain rfl : lists = lists' := by simpa using h
      rfl
  | cons stop rest ih =>
      rw [List.foldlM_cons, Option.bind_eq_bind, Option.bind_eq_some_iff] at h
      obtain ⟨next, hnext, hrest⟩ := h
      rw [ih hrest, hstep hnext]

/-- Striking a bus off at a stop leaves as many lists. -/
theorem length_leave? {busTable : List (String × Bus)} {bus : BusId} {stop : StopId}
    {lists lists' : List (List String)} (h : leave? busTable bus name lists stop = some lists') :
    lists'.length = lists.length := by
  simp only [leave?, Option.bind_eq_bind, Option.bind_eq_some_iff] at h
  obtain ⟨⟨k, line⟩, -, h⟩ := h
  split at h
  · obtain rfl := Option.some.inj h
    rfl
  · exact length_modifyAt? h

/-- Replacing a bus where its name has its position keeps the tables in step. -/
theorem replaceBus (h : t.InStep) {bus : BusId} {line : Bus} (hbus : t.findBus name = some bus)
    (hreplace : t.replaceBus bus name line = some t') : t'.InStep := by
  simp only [Tables.replaceBus, Option.bind_eq_bind, Option.bind_eq_some_iff,
    Option.some.injEq] at hreplace
  obtain ⟨⟨k, former⟩, hformer, lists, hlists, rfl⟩ := hreplace
  obtain ⟨x, hx⟩ := h.indexes_buses.exists_getElem? hbus
  obtain ⟨rfl, -⟩ := Prod.mk.inj (Option.some.inj (hformer.symm.trans hx))
  exact ⟨h.indexes_stops, h.indexes_buses.set hformer line,
    (length_foldlM length_leave? hlists).trans h.length_busesAtStop⟩

/-- **Registering a bus keeps the tables in step.** -/
theorem addBus (h : t.InStep) {stopNames : List String} {kind : RouteKind} {bus : BusId}
    (hadd : t.addBus name stopNames kind = .value (bus, t')) : t'.InStep := by
  obtain ⟨listed, lists, -, hserving, hadd⟩ := addBus_eq_value_iff.1 hadd
  have hstep : Tables.InStep { t with busesAtStop := lists } :=
    ⟨h.indexes_stops, h.indexes_buses,
      (length_foldlM length_modifyAt? hserving).trans h.length_busesAtStop⟩
  rcases hadd with ⟨hknown, hreplace⟩ | ⟨hnew, hpush⟩
  · exact hstep.replaceBus hknown hreplace
  · obtain ⟨-, rfl⟩ := Prod.mk.inj hpush
    exact ⟨hstep.indexes_stops, h.indexes_buses.push hnew _, hstep.length_busesAtStop⟩

/-- **Recording a length keeps the tables in step.** -/
theorem setDistance [Quantity α] (h : t.InStep) {origin target : String} {meters : α}
    (hset : t.setDistance origin target meters = .value t') : t'.InStep := by
  obtain ⟨a, b, -, -, -, -, rfl⟩ := setDistance_eq_value_iff.1 hset
  exact h

end InStep

end Tables

end BusNetwork
