/-!
# Graphs: directed edges with weights

Vertices are `0, 1, …` up to a fixed count and edges get their ids in the order in which they are
added. **Each vertex keeps the ids of the edges that leave it, in that same order.** Nothing is
asked of the weights.
-/

namespace BusNetwork

variable {α : Type}

/-- A vertex of a graph. -/
abbrev VertexId := Nat

/-- An edge of a graph, known by its position in the order of adding. -/
abbrev EdgeId := Nat

/-- A directed edge. -/
structure Edge (α : Type) where
  /-- The vertex that it leaves. -/
  source : VertexId
  /-- The vertex that it enters. -/
  target : VertexId
  /-- What it costs to follow. -/
  weight : α
  deriving Repr, DecidableEq

/-- A directed graph with weighted edges. -/
structure Graph (α : Type) where
  /-- The edges in the order of adding. -/
  edges : Array (Edge α)
  /-- The ids of the edges that leave each vertex, in the order of adding. -/
  incidence : Array (Array EdgeId)
  deriving Repr, DecidableEq

namespace Graph

/-- The graph of a number of vertices without edges. -/
def ofVertexCount (n : Nat) : Graph α := ⟨#[], Array.replicate n #[]⟩

/-- The number of vertices. -/
def vertexCount (g : Graph α) : Nat := g.incidence.size

/-- The number of edges. -/
def edgeCount (g : Graph α) : Nat := g.edges.size

/-- A graph with one more edge, and its id. The edge has to leave a vertex of the graph. Debug
builds also assert here that its weight is not negative and that it enters a vertex of the graph;
release builds, which are what is modelled, look at neither. -/
def add? (g : Graph α) (edge : Edge α) : Option (EdgeId × Graph α) := do
  let leaving ← g.incidence[edge.source]?
  some (g.edges.size,
    ⟨g.edges.push edge, g.incidence.setIfInBounds edge.source (leaving.push g.edges.size)⟩)

end Graph

end BusNetwork
