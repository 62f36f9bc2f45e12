import BusNetwork.Proofs.Catalogue
import BusNetwork.Proofs.Outcome.Faults

/-!
# Runs: one operation after the other

An `Operation` is a call of `addStop`, `addBus` or `setDistance`, and `Catalogue.run c operations`
is what becomes of a catalogue when they are called in turn, a call that fails leaving it as it is.

* A call is decided by the names that are registered (`WellFormed.perform_decidedBy`): it fails by
  its `Operation.fault?`, and where it has none it gives a catalogue.
* **Every run goes through** (`Reachable.exists_run`), and what it leads to from the empty catalogue
  is exactly what can come about (`reachable_iff_exists_run`).
* **No operation renames or renumbers anything**: `KeepsNames` holds of the two ends of a run.
-/

set_option linter.unusedSectionVars false

namespace BusNetwork

open Outcome

/-- A call of an operation that fills a catalogue. -/
inductive Operation (α : Type) where
  /-- Register or move a stop. -/
  | addStop (name : String) (coordinates : Coordinates α)
  /-- Register or replace a bus. -/
  | addBus (name : String) (stopNames : List String) (kind : RouteKind)
  /-- Record a road length. -/
  | setDistance (origin target : String) (meters : α)
  deriving Repr, DecidableEq

variable {α : Type}

/-! ## What a call comes to -/

namespace Operation

/-- What is wrong with a reference to a stop, if these are the names registered. -/
def unknown? (known : List String) (name : String) : Option (CatalogueError α) :=
  if name ∈ known then none else some (.unknownStop name)

/-- What is wrong with a call, if these are the names of the stops registered: the first stop on the
list of a bus that is not among them, or the first end of a road, or that the length is none. -/
def fault? [Quantity α] (known : List String) : Operation α → Option (CatalogueError α)
  | addStop _ _ => none
  | addBus _ stopNames _ => stopNames.findSome? (unknown? known)
  | setDistance origin target meters =>
    (unknown? known origin).or <| (unknown? known target).or <|
      if Quantity.isFinite meters = true ∧ ¬ meters < Quantity.zero then none
      else some (.invalidDistance origin target meters)

end Operation

namespace Catalogue

variable {c c' c'' : Catalogue α} {name : String} {operation : Operation α}
  {operations : List (Operation α)}

/-- The names of the stops, by position. -/
def registeredStops (c : Catalogue α) : List String := c.stops.entries.map Prod.fst

/-- The names of the buses, by position. -/
def registeredBuses (c : Catalogue α) : List String := c.buses.entries.map Prod.fst

/-- The registered stops are listed by their numbers. -/
theorem getElem?_registeredStops (stop : StopId) : c.registeredStops[stop]? = c.stopName? stop := by
  rw [registeredStops, List.getElem?_map, stopName?_eq]
  rfl

/-- The registered buses are listed by their numbers. -/
theorem getElem?_registeredBuses (bus : BusId) : c.registeredBuses[bus]? = c.busName? bus := by
  rw [registeredBuses, List.getElem?_map]
  rfl

/-- The names of the stops are those that are found. -/
theorem mem_registeredStops_iff (hc : c.stops.Distinct) :
    name ∈ c.registeredStops ↔ ∃ stop, c.findStop name = some stop := by
  simp only [List.mem_iff_getElem?, getElem?_registeredStops, findStop_eq_some_iff hc]

variable [Quantity α]

/-- The catalogue that a call gives. -/
def perform (c : Catalogue α) : Operation α → Outcome (CatalogueError α) (Catalogue α)
  | .addStop name coordinates => .value (c.addStop name coordinates).2
  | .addBus name stopNames kind => do
    let (_, c') ← c.addBus name stopNames kind
    pure c'
  | .setDistance origin target meters => c.setDistance origin target meters

/-- The catalogue after a call, the same as before if the call fails. There is none if the call
looks up a position outside its table. -/
def attempt (c : Catalogue α) (operation : Operation α) : Option (Catalogue α) :=
  match c.perform operation with
  | .value c' => some c'
  | .failed _ => some c
  | .outOfRange => none

/-- The catalogue after calls that are made in turn. -/
def run (c : Catalogue α) (operations : List (Operation α)) : Option (Catalogue α) :=
  operations.foldlM attempt c

/-- A run of one operation more ends with an attempt at it. -/
theorem run_concat : c.run (operations ++ [operation]) = some c'' ↔
    ∃ c', c.run operations = some c' ∧ c'.attempt operation = some c'' := by
  simp [run, List.foldlM_append, Option.bind_eq_some_iff]

/-- A run of some operations and then others is the second run from where the first one ended. -/
theorem run_append (before after : List (Operation α)) :
    c.run (before ++ after) = (c.run before).bind fun c' => c'.run after :=
  List.foldlM_append

/-! ## What a call leaves as it is -/

/-- Stops and buses have the names that they had, where they had them. -/
structure KeepsNames (c c' : Catalogue α) : Prop where
  /-- A stop has its name. -/
  stopName? {stop : StopId} {name : String} :
    c.stopName? stop = some name → c'.stopName? stop = some name
  /-- A bus has its name. -/
  busName? {bus : BusId} {name : String} :
    c.busName? bus = some name → c'.busName? bus = some name

namespace KeepsNames

/-- A catalogue keeps its own names. -/
theorem refl (c : Catalogue α) : c.KeepsNames c := ⟨id, id⟩

/-- Names kept from a first catalogue to a second and on to a third are kept to the third. -/
theorem trans (h : c.KeepsNames c') (h' : c'.KeepsNames c'') : c.KeepsNames c'' :=
  ⟨h'.stopName? ∘ h.stopName?, h'.busName? ∘ h.busName?⟩

/-- Registering a stop keeps the names there are. -/
theorem addStop (c : Catalogue α) (name : String) (coordinates : Coordinates α) :
    c.KeepsNames (c.addStop name coordinates).2 := by
  refine ⟨?_, fun hbus => ?_⟩
  swap
  · rw [busName?_eq, (buses_addStop c name coordinates).1, ← busName?_eq]
    exact hbus
  intro stop other hstop
  obtain ⟨s, hs⟩ := stopName?_eq_some_iff.1 hstop
  have hkept : ∃ s', (c.addStop name coordinates).2.stops.at? stop = some (other, s') := by
    rw [stops_addStop]
    exact Register.at?_put_fst hs _
  exact stopName?_eq_some_iff.2 hkept

/-- Registering a bus keeps the names there are. -/
theorem addBus (hc : c.WellFormed) {stopNames : List String} {kind : RouteKind} {bus : BusId}
    (h : c.addBus name stopNames kind = .value (bus, c')) : c.KeepsNames c' := by
  obtain ⟨listed, -, hbuses, -⟩ := of_addBus hc h
  refine ⟨fun hstop => ?_, ?_⟩
  · rw [(stopName?_addBus hc h _).1]
    exact hstop
  · intro b other hb
    rw [busName?_eq] at hb
    obtain ⟨⟨k, line⟩, hline, rfl⟩ := Option.map_eq_some_iff.1 hb
    obtain ⟨line', hline'⟩ := Register.at?_put_fst hline fun _ => ⟨listed, kind⟩
    rw [busName?_eq, hbuses, hline']
    rfl

/-- Recording a distance keeps the names there are. -/
theorem setDistance {origin target : String} {meters : α}
    (h : c.setDistance origin target meters = .value c') : c.KeepsNames c' := by
  obtain ⟨a, b, -, -, -, -, rfl⟩ := setDistance_eq_value_iff.1 h
  exact ⟨id, id⟩

end KeepsNames

/-! ## How a call is decided -/

/-- A stop is known if its name is. -/
theorem knownStop_decidedBy (hc : c.stops.Distinct) (name : String) :
    (c.knownStop name).DecidedBy (Operation.unknown? c.registeredStops name)
      fun stop => c.findStop name = some stop := by
  have hmem : name ∈ c.registeredStops ↔ ∃ stop, c.findStop name = some stop :=
    mem_registeredStops_iff hc
  unfold Tables.knownStop Operation.unknown?
  cases hfind : c.findStop name with
  | none =>
      rw [hfind] at hmem
      rw [if_neg (by simpa using hmem)]
      exact decidedBy_failed _
  | some stop =>
      rw [hfind] at hmem
      rw [if_pos (hmem.2 ⟨stop, rfl⟩)]
      exact decidedBy_value rfl

/-- Registering a bus is decided by the first of its stops that has a fault. -/
theorem WellFormed.addBus_decidedBy (hc : c.WellFormed)
    {fault : String → Option (CatalogueError α)}
    (hknown : ∀ n, (c.knownStop n).DecidedBy (fault n) fun stop => c.findStop n = some stop)
    (name : String) (stopNames : List String) (kind : RouteKind) :
    (c.addBus name stopNames kind).DecidedBy (stopNames.findSome? fault) fun _ => True := by
  have hlisted : (stopNames.mapM c.knownStop).DecidedBy (stopNames.findSome? fault)
      (List.Forall₂ (fun n s => c.findStop n = some s) stopNames) :=
    DecidedBy.mapM fun n _ => hknown n
  cases hfault : stopNames.findSome? fault with
  | some e =>
      refine attach_eq_failed_iff.2 ?_
      rw [Tables.addBus, hlisted.eq_failed_iff.2 hfault, failed_bind]
  | none =>
      obtain ⟨listed, hmap⟩ := hlisted.exists_value_iff.2 hfault
      obtain ⟨c', hadd, -⟩ := addBus_spec hc kind (hlisted.of_value hmap).2
      exact ⟨_, hadd, trivial⟩

/-- Recording a length is decided by the first end that has a fault, or by the length. -/
theorem setDistance_decidedBy {fault : String → Option (CatalogueError α)}
    (hknown : ∀ n, (c.knownStop n).DecidedBy (fault n) fun stop => c.findStop n = some stop)
    (origin target : String) (meters : α) :
    (c.setDistance origin target meters).DecidedBy ((fault origin).or <| (fault target).or <|
      if Quantity.isFinite meters = true ∧ ¬ meters < Quantity.zero then none
      else some (.invalidDistance origin target meters)) fun c' => c'.stops = c.stops := by
  refine DecidedBy.imp (P := fun _ => True) ?_ fun c' h _ => ?_
  · refine DecidedBy.attach (P := fun _ => True) ?_ fun _ _ _ => trivial
    refine (hknown origin).bind fun a _ => (hknown target).bind fun b _ => ?_
    by_cases hmeters : Quantity.isFinite meters = true ∧ ¬ meters < Quantity.zero
    · simpa [hmeters] using decidedBy_value trivial
    · have hcheck : (Quantity.isFinite meters && !decide (meters < Quantity.zero)) = false := by
        simpa using hmeters
      simpa [hmeters, hcheck] using decidedBy_failed _
  · obtain ⟨a, b, -, -, -, -, rfl⟩ := setDistance_eq_value_iff.1 h
    rfl

/-- **A call fails by its fault, and where it has none it gives a catalogue**, which has the names
that were there. -/
theorem WellFormed.perform_decidedBy (hc : c.WellFormed) (operation : Operation α) :
    (c.perform operation).DecidedBy (operation.fault? c.registeredStops) c.KeepsNames := by
  have hknown := knownStop_decidedBy hc.stops_distinct
  cases operation with
  | addStop name coordinates => exact decidedBy_value (.addStop c name coordinates)
  | addBus name stopNames kind =>
      have hadd := (hc.addBus_decidedBy hknown name stopNames kind).imp
        (Q := fun filled => c.addBus name stopNames kind = .value filled) fun _ h _ => h
      exact hadd.bind_value fun filled h => ⟨filled.2, rfl, .addBus hc h⟩
  | setDistance origin target meters =>
      exact (setDistance_decidedBy hknown origin target meters).imp fun c' h _ => .setDistance h

/-- What a call gives can come about. -/
theorem Reachable.perform (hc : c.Reachable) (h : c.perform operation = .value c') :
    c'.Reachable := by
  cases operation with
  | addStop name coordinates =>
      obtain rfl : (c.addStop name coordinates).2 = c' := Outcome.value.inj h
      exact hc.addStop name coordinates
  | addBus name stopNames kind =>
      obtain ⟨⟨bus, c₁⟩, hadd, heq⟩ := bind_eq_value_iff.1 h
      obtain rfl : c₁ = c' := Outcome.value.inj heq
      exact hc.addBus hadd
  | setDistance origin target meters => exact hc.setDistance h

/-- A call that has a fault leaves the catalogue as it is, another one gives what it gives. -/
theorem WellFormed.attempt_eq_some_iff (hc : c.WellFormed) :
    c.attempt operation = some c' ↔ (operation.fault? c.registeredStops ≠ none ∧ c' = c) ∨
      (operation.fault? c.registeredStops = none ∧ c.perform operation = .value c') := by
  have hdecided := hc.perform_decidedBy operation
  unfold attempt
  cases hfault : operation.fault? c.registeredStops with
  | some e =>
      rw [hdecided.eq_failed_iff.2 hfault]
      simp [eq_comm]
  | none =>
      obtain ⟨c₁, h₁⟩ := hdecided.exists_value_iff.2 hfault
      simp [h₁]

/-! ## Runs -/

/-- A call leads from what can come about to what can come about, and names stay. -/
theorem Reachable.exists_attempt (hc : c.Reachable) (operation : Operation α) :
    ∃ c', c.attempt operation = some c' ∧ c'.Reachable ∧ c.KeepsNames c' := by
  simp only [hc.wellFormed.attempt_eq_some_iff]
  have hdecided := hc.wellFormed.perform_decidedBy operation
  cases hfault : operation.fault? c.registeredStops with
  | some e => exact ⟨c, .inl ⟨by simp, rfl⟩, hc, .refl c⟩
  | none =>
      obtain ⟨c', hc'⟩ := hdecided.exists_value_iff.2 hfault
      exact ⟨c', .inr ⟨rfl, hc'⟩, hc.perform hc', (hdecided.of_value hc').2⟩

/-- **Every run goes through**, to a catalogue that can come about, and names stay. -/
theorem Reachable.exists_run (hc : c.Reachable) (operations : List (Operation α)) :
    ∃ c', c.run operations = some c' ∧ c'.Reachable ∧ c.KeepsNames c' := by
  induction operations generalizing c with
  | nil => exact ⟨c, rfl, hc, .refl c⟩
  | cons operation later ih =>
      obtain ⟨c₁, hattempt, hc₁, hkeeps⟩ := hc.exists_attempt operation
      obtain ⟨c', hrun, hc', hkeeps'⟩ := ih hc₁
      refine ⟨c', ?_, hc', hkeeps.trans hkeeps'⟩
      rw [run, List.foldlM_cons, hattempt]
      exact hrun

/-- What a run leads to can come about, and names stay. -/
theorem Reachable.of_run (hc : c.Reachable) (h : c.run operations = some c') :
    c'.Reachable ∧ c.KeepsNames c' := by
  obtain ⟨c₁, hrun, hc₁⟩ := hc.exists_run operations
  obtain rfl : c₁ = c' := Option.some.inj (hrun.symm.trans h)
  exact hc₁

/-- **What can come about is what runs lead to.** -/
theorem reachable_iff_exists_run :
    c.Reachable ↔ ∃ operations, Catalogue.empty.run operations = some c := by
  constructor
  · have hperform : ∀ {c c' : Catalogue α} (operation : Operation α),
        c.perform operation = .value c' → (∃ operations, empty.run operations = some c) →
        ∃ operations, empty.run operations = some c' := by
      rintro c c' operation h ⟨operations, hrun⟩
      refine ⟨operations ++ [operation], run_concat.2 ⟨c, hrun, ?_⟩⟩
      rw [attempt, h]
    intro h
    induction h with
    | empty => exact ⟨[], rfl⟩
    | addStop name coordinates _ ih => exact hperform (.addStop name coordinates) rfl ih
    | @addBus c c' name stopNames kind bus _ hadd ih =>
        refine hperform (.addBus name stopNames kind) ?_ ih
        rw [perform, hadd]
        rfl
    | @setDistance c c' origin target meters _ hset ih =>
        exact hperform (.setDistance origin target meters) hset ih
  · rintro ⟨operations, hrun⟩
    exact (Reachable.empty.of_run hrun).1

end Catalogue

end BusNetwork
