import BusNetwork.Catalogue
import BusNetwork.Graph
import BusNetwork.Settings

/-!
# The journey graph: waits and rides as edges

A journey is a sequence of waits and rides, and **the journey graph has one edge for every wait and
one for every ride that can be part of one**. A served stop has two vertices: at the first a
passenger has just arrived, at the second a bus can be boarded.

* A wait leads from the first to the second vertex of its stop and takes the waiting time.
* A ride leads from the second vertex of a stop to the first vertex of any stop that the same bus
  serves later on its traversal, and takes the time for the road between the two positions.

Vertices are given out to stops in the order in which buses first serve them. Edges come in the
order: waits by stop, then rides by bus, by the position of boarding, by the position of leaving.
The rides of a bus are found without looking at any other bus, so they might as well be found for
all buses at the same time; they are joined in the order of the buses.
-/

namespace BusNetwork

variable {α : Type}

/-- Why a journey graph cannot be built. -/
inductive RoutingError (α : Type) where
  /-- A bus has a hop without a recorded road. -/
  | catalogue (error : CatalogueError α)
  /-- The settings cannot be used. -/
  | settings (error : SettingsError)
  deriving Repr, DecidableEq

/-- The error in words. -/
def RoutingError.message [Quantity α] : RoutingError α → String
  | catalogue error => error.message
  | settings error => error.message

/-- The two vertices of a served stop. -/
structure StopVertices where
  /-- Where a passenger arrives and waits. -/
  wait : VertexId
  /-- Where a passenger boards. -/
  ride : VertexId
  deriving Repr, DecidableEq

/-- What an edge stands for. -/
inductive EdgeLabel where
  /-- Waiting at a stop. -/
  | wait (stop : StopId)
  /-- Riding a bus over a number of hops. -/
  | ride (bus : BusId) (span : Nat)
  deriving Repr, DecidableEq

/-- The waits and rides of a network. -/
structure JourneyGraph (α : Type) where
  /-- The vertices and edges. -/
  graph : Graph α
  /-- What each edge stands for. -/
  labels : Array EdgeLabel
  /-- The vertices of each stop, as far as it is served. -/
  vertices : Array (Option StopVertices)
  deriving Repr, DecidableEq

/-! ## Vertices -/

/-- The vertices given out so far. -/
structure Allocation where
  /-- The vertices of each stop. -/
  vertices : Array (Option StopVertices)
  /-- The stops that have vertices, in the order in which they got them. -/
  served : List StopId
  deriving Repr, DecidableEq

namespace Allocation

/-- No vertices yet, for a number of stops. -/
def start (stopCount : Nat) : Allocation := ⟨Array.replicate stopCount none, []⟩

/-- Give the next two vertices to a stop that has none. -/
def visit (a : Allocation) (stop : StopId) : Option Allocation := do
  match ← a.vertices[stop]? with
  | some _ => some a
  | none =>
    let base := 2 * a.served.length
    some ⟨a.vertices.setIfInBounds stop (some ⟨base, base + 1⟩), a.served ++ [stop]⟩

/-- The vertices for all stops that the buses of a catalogue serve. -/
def ofCatalogue (c : Catalogue α) : Option Allocation :=
  (c.buses.entries.flatMap fun (_, bus) => bus.traversal).foldlM visit (start c.stopTable.length)

end Allocation

/-! ## Edges -/

/-- A position on a traversal: the stop, and the road from the traversal's start to it. -/
structure Milestone (α : Type) where
  /-- The stop at the position. -/
  stop : StopId
  /-- The road from the start in meters. -/
  covered : α
  deriving Repr, DecidableEq

/-- An edge together with what it stands for. -/
structure Leg (α : Type) where
  /-- The edge. -/
  edge : Edge α
  /-- What it stands for. -/
  label : EdgeLabel
  deriving Repr, DecidableEq

variable [Quantity α]

namespace Milestone

/-- The milestones from a stop on, `covered` meters after the start. -/
def follow (c : Catalogue α) (covered : α) (stop : StopId) :
    List StopId → Outcome (CatalogueError α) (List (Milestone α))
  | [] => pure [⟨stop, covered⟩]
  | next :: rest => do
    let meters ← c.distance stop next
    let later ← follow c (covered + meters) next rest
    pure (⟨stop, covered⟩ :: later)

/-- The milestones of a traversal. -/
def ofTraversal (c : Catalogue α) :
    List StopId → Outcome (CatalogueError α) (List (Milestone α))
  | [] => pure []
  | first :: rest => follow c Quantity.zero first rest

end Milestone

namespace Leg

/-- The wait at a stop, if the stop is served. -/
def waitAt (settings : Settings α) (vertices : Array (Option StopVertices)) (stop : StopId) :
    Option (Option (Leg α)) := do
  let found ← vertices[stop]?
  pure (found.map fun v => ⟨⟨v.wait, v.ride, settings.waitMinutes⟩, .wait stop⟩)

/-- The ride of a bus from one milestone to a later one, `span` hops on, if both stops are
served. -/
def rideBetween (settings : Settings α) (vertices : Array (Option StopVertices)) (bus : BusId)
    (boarding leaving : Milestone α) (span : Nat) : Option (Option (Leg α)) := do
  let origin ← vertices[boarding.stop]?
  let target ← vertices[leaving.stop]?
  pure do
    let o ← origin
    let t ← target
    some ⟨⟨o.ride, t.wait, settings.rideMinutes (leaving.covered - boarding.covered)⟩,
      .ride bus span⟩

/-- The rides of a bus over the given milestones, by boarding and then by leaving position. -/
def ridesOver (settings : Settings α) (vertices : Array (Option StopVertices)) (bus : BusId) :
    List (Milestone α) → Option (List (Leg α))
  | [] => some []
  | boarding :: later => do
    let here ← (later.zipIdx 1).mapM fun (leaving, span) =>
      rideBetween settings vertices bus boarding leaving span
    let rest ← ridesOver settings vertices bus later
    some (here.filterMap id ++ rest)

/-- All rides of a bus. -/
def ridesOf (settings : Settings α) (c : Catalogue α) (vertices : Array (Option StopVertices))
    (id : BusId) (bus : Bus) : Outcome (RoutingError α) (List (Leg α)) := do
  let milestones ← (Milestone.ofTraversal c bus.traversal).mapFailure .catalogue
  let rides ← ridesOver settings vertices id milestones
  pure rides

end Leg

namespace JourneyGraph

/-- The graph without edges over the allocated vertices. -/
def ofAllocation (a : Allocation) : JourneyGraph α :=
  ⟨.ofVertexCount (2 * a.served.length), #[], a.vertices⟩

/-- A graph with one more leg. -/
def add? (g : JourneyGraph α) (leg : Leg α) : Option (JourneyGraph α) := do
  let (_, graph) ← g.graph.add? leg.edge
  some { g with graph, labels := g.labels.push leg.label }

/-- A graph with more legs. -/
def addAll? (g : JourneyGraph α) (legs : List (Leg α)) : Option (JourneyGraph α) :=
  legs.foldlM add? g

/-- The journey graph of a catalogue. -/
def build (settings : Settings α) (c : Catalogue α) :
    Outcome (RoutingError α) (JourneyGraph α) := do
  (Outcome.ofExcept settings.check).mapFailure .settings
  let allocation ← Allocation.ofCatalogue c
  let waits ← Outcome.ofLookup <|
    allocation.served.mapM (Leg.waitAt settings allocation.vertices)
  let rides ← (c.buses.entries.zipIdx).mapM fun ((_, bus), id) =>
    Leg.ridesOf settings c allocation.vertices id bus
  let graph ← (ofAllocation allocation).addAll? (waits.filterMap id ++ rides.flatten)
  pure graph

/-- The vertices of a stop. A stop that no bus served when the graph was built has none, and
neither has one that was registered later. -/
def vertices? (g : JourneyGraph α) (stop : StopId) : Option StopVertices :=
  g.vertices[stop]?.join

end JourneyGraph

end BusNetwork
