import BusNetwork.JourneyGraph
import BusNetwork.Search

/-!
# Routes: the fastest journey between two stops

A route is a way through the journey graph told in the network's words: **each edge becomes one
item, a wait at a stop or a ride on a bus**, and the total is the search's total. A stop is reached
from itself in no time and with no items, whether any bus serves it or not.
-/

namespace BusNetwork

variable {α : Type}

/-- One step of a journey. -/
inductive RouteItem (α : Type) where
  /-- Wait at a stop. -/
  | wait (stop : String) (time : α)
  /-- Ride a bus over a number of hops. -/
  | ride (bus : String) (span : Nat) (time : α)
  deriving Repr, DecidableEq

/-- A journey. -/
structure Route (α : Type) where
  /-- The minutes that it takes. -/
  totalTime : α
  /-- Its steps in order. -/
  items : List (RouteItem α)
  deriving Repr, DecidableEq

/-- The minutes that a step takes. -/
def RouteItem.time : RouteItem α → α
  | wait _ time => time
  | ride _ _ time => time

variable [Quantity α]

/-- The journey from a stop to itself. -/
def Route.stay : Route α := ⟨Quantity.zero, []⟩

namespace JourneyGraph

/-- What an edge is called in the catalogue. -/
def item (g : JourneyGraph α) (c : Catalogue α) (id : EdgeId) : Option (RouteItem α) := do
  let edge ← g.graph.edges[id]?
  match ← g.labels[id]? with
  | .wait stop => return .wait (← c.stopName? stop) edge.weight
  | .ride bus span => return .ride (← c.busName? bus) span edge.weight

/-- The fastest journey from one stop to another. -/
def shortestRoute (g : JourneyGraph α) (c : Catalogue α) (origin target : StopId) :
    Outcome Search.Unreachable (Route α) :=
  if origin == target then
    pure .stay
  else
    match g.vertices? origin, g.vertices? target with
    | some o, some t => do
      let (totalTime, way) ← Search.shortest g.graph o.wait t.wait
      let items ← Outcome.ofLookup (way.mapM (g.item c))
      pure ⟨totalTime, items⟩
    | _, _ => .failed .unreachable

end JourneyGraph

end BusNetwork
