import BusNetwork.Catalogue

/-!
# Statistics: what is known of a bus as a whole

The length of a bus is summed over its traversal twice, once by road and once as the crow flies.
**Their quotient is the bus's curvature**, which is zero for a bus whose stops all share one place.
A bus with a hop that has no recorded road has no statistics.
-/

namespace BusNetwork

variable {α : Type} [Trigonometry α]

/-- What is known of a bus as a whole. -/
structure BusStatistics (α : Type) where
  /-- The stops served, repeats counted. -/
  stopCount : Nat
  /-- The different stops served. -/
  uniqueStopCount : Nat
  /-- The length by road in meters. -/
  routeLength : α
  /-- The length by road over the length as the crow flies. -/
  curvature : α
  deriving Repr, DecidableEq

namespace Catalogue

/-- The sum over hops of what a function says of each, taken from left to right. -/
def sumHops {ε : Type} (length : StopId → StopId → Outcome ε α) (hops : List (StopId × StopId)) :
    Outcome ε α :=
  hops.foldlM (fun total (a, b) => return total + (← length a b)) Quantity.emptySum

/-- The length of a bus by road. -/
def routeLength (c : Catalogue α) (bus : Bus) : Outcome (CatalogueError α) α :=
  sumHops c.distance bus.hops

/-- The distance between two stops as the crow flies. -/
def straightDistance {ε : Type} (c : Catalogue α) (a b : StopId) : Outcome ε α := do
  let p ← c.coordinates? a
  let q ← c.coordinates? b
  pure (p.distance q)

/-- The length of a bus as the crow flies. -/
def geographicLength {ε : Type} (c : Catalogue α) (bus : Bus) : Outcome ε α :=
  sumHops c.straightDistance bus.hops

/-- The length by road over the length as the crow flies, and zero where the latter is not
positive. -/
def curvature (road straight : α) : α :=
  if Quantity.zero < straight then road / straight else Quantity.zero

/-- The statistics of a bus. -/
def statistics (c : Catalogue α) (bus : Bus) : Outcome (CatalogueError α) (BusStatistics α) := do
  let road ← c.routeLength bus
  let straight ← c.geographicLength bus
  pure ⟨bus.stopCount, bus.uniqueStopCount, road, curvature road straight⟩

/-- The statistics of the bus of a name. -/
def busInfo (c : Catalogue α) (name : String) : Outcome (CatalogueError α) (BusStatistics α) :=
  match c.findBus name with
  | some bus => do
    let (_, line) ← c.busTable[bus]?
    c.statistics line
  | none => .failed (.busNotFound name)

end Catalogue

end BusNetwork
