/-!
# Buses: the stops of a line and the order in which they are served

A bus is registered with a list of stops and a kind. **A circular bus serves the list as it stands,
a there-and-back bus serves it and then returns over the same stops**, its far end being served
once. The full sequence is the bus's `traversal`; positions on it, not stops, are what a passenger
boards and leaves at, since a stop can occur more than once.
-/

namespace BusNetwork

/-- A stop, known by its position in registration order. -/
abbrev StopId := Nat

/-- A bus, known by its position in registration order. -/
abbrev BusId := Nat

/-- How a bus runs along its stops. -/
inductive RouteKind where
  /-- Along the stops in order, as listed. -/
  | circular
  /-- Along the stops in order and back again. -/
  | thereAndBack
  deriving Repr, DecidableEq

/-- The kind of a bus that is, or is not, a round trip. -/
def RouteKind.ofRoundTrip (roundTrip : Bool) : RouteKind :=
  if roundTrip then circular else thereAndBack

/-- A bus line. -/
structure Bus where
  /-- The stops as registered. -/
  stops : List StopId
  /-- How they are run along. -/
  kind : RouteKind
  deriving Repr, DecidableEq

namespace Bus

/-- All stops in the order in which the bus serves them. -/
def traversal (bus : Bus) : List StopId :=
  match bus.kind with
  | .circular => bus.stops
  | .thereAndBack => bus.stops ++ bus.stops.reverse.tail

/-- The hops of the bus: each served stop with the one served next. -/
def hops (bus : Bus) : List (StopId × StopId) := bus.traversal.zip bus.traversal.tail

/-- The number of stops served, repeats counted. -/
def stopCount (bus : Bus) : Nat :=
  match bus.kind with
  | .circular => bus.stops.length
  | .thereAndBack => 2 * bus.stops.length - 1

/-- The number of different stops served. -/
def uniqueStopCount (bus : Bus) : Nat := bus.stops.eraseDups.length

/-- The number of stops served is the length of the traversal. -/
theorem length_traversal (bus : Bus) : bus.traversal.length = bus.stopCount := by
  cases hk : bus.kind with
  | circular => simp [traversal, stopCount, hk]
  | thereAndBack =>
    simp only [traversal, stopCount, hk, List.length_append, List.length_tail, List.length_reverse]
    omega

/-- A bus serves exactly the stops that it was registered with. -/
theorem mem_traversal {bus : Bus} {stop : StopId} :
    stop ∈ bus.traversal ↔ stop ∈ bus.stops := by
  cases hk : bus.kind with
  | circular => simp [traversal, hk]
  | thereAndBack =>
    simp only [traversal, hk, List.mem_append]
    exact ⟨fun h => h.elim id fun back => List.mem_reverse.1 (List.mem_of_mem_tail back), .inl⟩

end Bus

end BusNetwork
