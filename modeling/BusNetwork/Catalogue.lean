import BusNetwork.Tables

/-!
# The catalogue: stops, buses and road distances

A catalogue is filled by three operations, `addStop`, `addBus` and `setDistance`, and answers
questions about what was filled in. It is kept in tables that are in step, so that registering a
stop cannot fail and every name that is found stands for an entry.

* **The last word counts and the first position stays.** A stop, a bus or a distance that comes
  again replaces the former one and keeps its position in registration order.
* **Distances are recorded by direction and read in either.** The road from `a` to `b` is the one
  recorded from `a` to `b`, or failing that the one recorded from `b` to `a`.
* **A stop knows the buses that serve it**, by name and in ascending order; `addBus` keeps that
  index when a bus is replaced.
* **An operation that fails changes nothing**: it gives no new catalogue.
-/

namespace BusNetwork

variable {α : Type}

/-- The network as registered. -/
structure Catalogue (α : Type) extends Tables α where
  /-- The tables go together. -/
  inStep : toTables.InStep
  deriving Repr, DecidableEq

/-- A stop, apart from its name. -/
structure Stop (α : Type) where
  /-- Where it stands. -/
  coordinates : Coordinates α
  /-- The names of the buses that serve it, ascending. -/
  buses : List String
  deriving Repr, DecidableEq

namespace Catalogue

/-- The catalogue in which nothing is registered. -/
def empty : Catalogue α := ⟨.empty, .empty⟩

/-- The stops by name, each with the buses that serve it. -/
def stops (c : Catalogue α) : Register String (Stop α) :=
  ⟨(c.stopTable.zip c.busesAtStop).map fun ((name, coordinates), buses) =>
    (name, ⟨coordinates, buses⟩)⟩

/-- The buses by name. -/
def buses (c : Catalogue α) : Register String Bus := ⟨c.busTable⟩

/-- The name of a stop. -/
def stopName? (c : Catalogue α) (stop : StopId) : Option String := c.stopTable[stop]?.map (·.1)

/-- The name of a bus. -/
def busName? (c : Catalogue α) (bus : BusId) : Option String := c.busTable[bus]?.map (·.1)

/-- The coordinates of a stop. -/
def coordinates? (c : Catalogue α) (stop : StopId) : Option (Coordinates α) :=
  c.stopTable[stop]?.map (·.2)

/-- The stop of a name that a question asks about. -/
def askedStop (c : Catalogue α) (name : String) : Outcome (CatalogueError α) StopId :=
  match c.findStop name with
  | some stop => .value stop
  | none => .failed (.stopNotFound name)

/-! ## Filling -/

/-- Register a stop, or move the stop of that name. -/
def addStop (c : Catalogue α) (name : String) (coordinates : Coordinates α) :
    StopId × Catalogue α :=
  let filled := (c.toTables.addStop name coordinates).get (c.inStep.isSome_addStop name coordinates)
  (filled.1, ⟨filled.2, c.inStep.addStop (Option.some_get _).symm⟩)

/-- Register a bus over registered stops, or replace the bus of that name. -/
def addBus (c : Catalogue α) (name : String) (stopNames : List String) (kind : RouteKind) :
    Outcome (CatalogueError α) (BusId × Catalogue α) :=
  (c.toTables.addBus name stopNames kind).attach fun filled h =>
    (filled.1, ⟨filled.2, c.inStep.addBus h⟩)

/-- Record the road length from one stop to another, in place of a former one. -/
def setDistance [Quantity α] (c : Catalogue α) (origin target : String) (meters : α) :
    Outcome (CatalogueError α) (Catalogue α) :=
  (c.toTables.setDistance origin target meters).attach fun filled h =>
    ⟨filled, c.inStep.setDistance h⟩

/-! ## Asking -/

/-- The road length from one stop to another, recorded in that or failing that in the opposite
direction. -/
def distance? (c : Catalogue α) (a b : StopId) : Option α :=
  (c.distances.get? (a, b)).or (c.distances.get? (b, a))

/-- The road length from one stop to another, or the two names between which there is none. -/
def distance (c : Catalogue α) (a b : StopId) : Outcome (CatalogueError α) α :=
  match c.distance? a b with
  | some meters => .value meters
  | none => do
    let origin ← c.stopName? a
    let target ← c.stopName? b
    .failed (.noDistanceData origin target)

/-- The road length between two stops by name. -/
def distanceBetween (c : Catalogue α) (origin target : String) :
    Outcome (CatalogueError α) α := do
  let a ← c.askedStop origin
  let b ← c.askedStop target
  c.distance a b

/-- The names of the buses that serve a stop, ascending. -/
def stopInfo (c : Catalogue α) (name : String) : Outcome (CatalogueError α) (List String) := do
  let stop ← c.askedStop name
  let buses ← c.busesAtStop[stop]?
  pure buses

end Catalogue

end BusNetwork
