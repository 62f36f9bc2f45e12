import BusNetwork.Outcome
import BusNetwork.Search.Queue

/-!
# Search: the least total weight between two vertices

The search settles vertices one after the other in the order of the queue and relaxes the edges
that leave them, until the target is settled or nothing is left. **Among equally cheap ways to
reach a vertex the one whose last edge was added first wins.** Settled vertices are never touched
again; a vertex whose arrival is bettered is queued anew, and its older entries are passed over
when they come out.

Each edge is relaxed at most once and then queues at most one entry, so with the start no more than
`edgeCount + 1` entries ever come out, and that is how many the search is given to take.
-/

namespace BusNetwork.Search

variable {α : Type}

/-- How a vertex was reached. -/
structure Arrival (α : Type) where
  /-- The total weight of the way. -/
  time : α
  /-- The last edge of the way; the start of the search is reached by none. -/
  via : Option EdgeId
  deriving Repr, DecidableEq

/-- How far a search has come. -/
structure State (α : Type) where
  /-- The best known arrival at each vertex, as far as it was reached. -/
  arrivals : Array (Option (Arrival α))
  /-- Whether each vertex is settled. -/
  settled : Array Bool
  /-- The reached vertices, older entries of bettered arrivals included. -/
  queue : Queue α
  deriving Repr, DecidableEq

/-- There is no way to the target whose weight is finite. -/
inductive Unreachable where
  | unreachable
  deriving Repr, DecidableEq

variable [Quantity α]

/-- Before the first step only the start is reached, at no cost. -/
def State.start (vertexCount : Nat) (source : VertexId) : State α :=
  ⟨(Array.replicate vertexCount none).setIfInBounds source (some ⟨Quantity.zero, none⟩),
    Array.replicate vertexCount false, .single ⟨Quantity.zero, none, source⟩⟩

/-- Whether arriving at a time by an edge betters what is known of a vertex: it is reached for the
first time, which counts as reaching it before the infinite time, or earlier, or at the same time by
an edge that was added before. -/
def betters (time : α) (edge : EdgeId) : Option (Arrival α) → Bool
  | none => Quantity.isBelowInfinity time
  | some known =>
    time < known.time || (time == known.time && known.via.any fun via => edge < via)

/-- Offer a vertex a way that arrives at a time by an edge; it is taken and the vertex queued if the
way betters what is known. -/
def State.offer (s : State α) (vertex : VertexId) (known : Option (Arrival α)) (time : α)
    (edge : EdgeId) : State α :=
  if betters time edge known then
    { s with
      arrivals := s.arrivals.setIfInBounds vertex (some ⟨time, some edge⟩)
      queue := s.queue.push ⟨time, some edge, vertex⟩ }
  else s

/-- Mark a vertex as settled. -/
def State.close (s : State α) (vertex : VertexId) : State α :=
  { s with settled := s.settled.setIfInBounds vertex true }

/-- Follow one edge out of a vertex that was just settled, unless it enters a settled one. -/
def relax (g : Graph α) (vertex : VertexId) (s : State α) (id : EdgeId) : Option (State α) := do
  let edge ← g.edges[id]?
  let isSettled ← s.settled[edge.target]?
  let here ← s.arrivals[vertex]?
  let known ← s.arrivals[edge.target]?
  match isSettled, here with
  | false, some here => some (s.offer edge.target known (here.time + edge.weight) id)
  | _, _ => some s

/-- Settle a vertex and follow the edges that leave it. -/
def settle (g : Graph α) (s : State α) (vertex : VertexId) : Option (State α) := do
  let leaving ← g.incidence[vertex]?
  leaving.toList.foldlM (relax g vertex) (s.close vertex)

/-- What an entry that has come out of the queue leads to: nothing if its vertex is settled, and
otherwise its vertex is settled. The edges that leave the target are not followed. -/
def visit (g : Graph α) (target vertex : VertexId) (s : State α) : Option (State α) := do
  let isSettled ← s.settled[vertex]?
  if isSettled then some s
  else if vertex == target then some (s.close vertex)
  else settle g s vertex

/-- Take entries from the queue, `limit` at most, until the target is settled or nothing is
left. -/
def explore (g : Graph α) (target : VertexId) : Nat → State α → Option (State α)
  | 0, s => some s
  | limit + 1, s => do
    let isDone ← s.settled[target]?
    match isDone, s.queue.pop? with
    | false, some (entry, queue) =>
      explore g target limit (← visit g target entry.vertex { s with queue })
    | _, _ => some s

/-- The edges of the way to a vertex, in front of the edges of the way on from it. At most `limit`
vertices are passed. -/
def wayTo (g : Graph α) (s : State α) : Nat → VertexId → List EdgeId → Option (List EdgeId)
  | 0, _, _ => none
  | limit + 1, vertex, onward => do
    let arrival ← s.arrivals[vertex]?
    match arrival.bind (·.via) with
    | none => some onward
    | some id =>
      let edge ← g.edges[id]?
      wayTo g s limit edge.source (id :: onward)

/-- The least total weight of a way from one vertex to another, and the edges of such a way. -/
def shortest (g : Graph α) (source target : VertexId) :
    Outcome Unreachable (α × List EdgeId) := do
  let _ ← g.incidence[source]?
  let s ← explore g target (g.edgeCount + 1) (.start g.vertexCount source)
  let isReached ← s.settled[target]?
  if isReached then
    let arrival ← s.arrivals[target]?.join
    let way ← wayTo g s g.vertexCount target []
    pure (arrival.time, way)
  else
    .failed .unreachable

end BusNetwork.Search
