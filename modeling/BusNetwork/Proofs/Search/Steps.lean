import BusNetwork.Search
import BusNetwork.Proofs.Graph

/-!
# The steps of a search

A search changes its state in three ways only: an entry is taken from the queue, a vertex is closed,
and a vertex is reached anew. **Each operation of a search is told here as one equation over these
steps** (`relax_eq`, `visit_eq`), valid where the tables have the size of the graph, and no other
module opens the operations.

* `State.arrival?`, `State.IsSettled` — what a state says of a vertex.
* `exists_explore` — **the search ends**: each entry taken makes the `load` smaller, the number of
  queued entries and of edges that leave no settled vertex.
-/

set_option linter.unusedSectionVars false

namespace BusNetwork.Search

variable {α : Type}

/-! ## What a state says of a vertex -/

namespace State

/-- How a vertex was reached, if it was. -/
def arrival? (s : State α) (vertex : VertexId) : Option (Arrival α) := s.arrivals[vertex]?.join

/-- Whether a vertex is settled. -/
def IsSettled (s : State α) (vertex : VertexId) : Prop := s.settled[vertex]? = some true

/-- Whether a vertex is settled is read off its mark. -/
instance (s : State α) (vertex : VertexId) : Decidable (s.IsSettled vertex) :=
  inferInstanceAs (Decidable (s.settled[vertex]? = some true))

/-- The tables of a state have an entry for every vertex of the graph. -/
structure Fits (g : Graph α) (s : State α) : Prop where
  /-- There is an arrival, or none, for every vertex. -/
  size_arrivals : s.arrivals.size = g.vertexCount
  /-- Every vertex is marked as settled or not. -/
  size_settled : s.settled.size = g.vertexCount

variable {g : Graph α} {s : State α} {vertex other : VertexId}

/-- A settled vertex is one of the graph. -/
theorem Fits.lt_of_isSettled (hs : s.Fits g) (h : s.IsSettled vertex) : vertex < g.vertexCount := by
  obtain ⟨hlt, -⟩ := Array.getElem?_eq_some_iff.1 h
  rwa [hs.size_settled] at hlt

/-- A vertex with an arrival is one of the graph. -/
theorem Fits.lt_of_arrival? (hs : s.Fits g) {a : Arrival α} (h : s.arrival? vertex = some a) :
    vertex < g.vertexCount := by
  obtain ⟨hlt, -⟩ := Array.getElem?_eq_some_iff.1 (Option.join_eq_some_iff.1 h)
  rwa [hs.size_arrivals] at hlt

/-- Every vertex of the graph has a mark that tells whether it is settled. -/
theorem Fits.getElem?_settled (hs : s.Fits g) (h : vertex < g.vertexCount) :
    s.settled[vertex]? = some (decide (s.IsSettled vertex)) := by
  rw [← hs.size_settled] at h
  simp [IsSettled, Array.getElem?_eq_getElem h]

/-- Every vertex of the graph has a place for its arrival. -/
theorem Fits.getElem?_arrivals (hs : s.Fits g) (h : vertex < g.vertexCount) :
    s.arrivals[vertex]? = some (s.arrival? vertex) := by
  rw [← hs.size_arrivals] at h
  unfold arrival?
  rw [Array.getElem?_eq_getElem h]
  rfl

/-! ## The three ways to change a state -/

/-- The state in which a vertex was reached anew. -/
def reach [Quantity α] (s : State α) (vertex : VertexId) (time : α) (edge : EdgeId) : State α :=
  { s with
    arrivals := s.arrivals.setIfInBounds vertex (some ⟨time, some edge⟩)
    queue := s.queue.push ⟨time, some edge, vertex⟩ }

/-- Closing a vertex leaves the queue as it is. -/
@[simp] theorem queue_close : (s.close vertex).queue = s.queue := rfl

/-- The tables of a state fit the graph whatever its queue is. -/
theorem Fits.withQueue (hs : s.Fits g) (queue : Queue α) : State.Fits g { s with queue } :=
  ⟨hs.size_arrivals, hs.size_settled⟩

/-- Closing a vertex keeps the sizes of the tables. -/
theorem Fits.close (hs : s.Fits g) : (s.close vertex).Fits g :=
  ⟨hs.size_arrivals, by simp [State.close, hs.size_settled]⟩

/-- Closing a vertex settles it and no other. -/
theorem Fits.isSettled_close (hs : s.Fits g) (h : vertex < g.vertexCount) :
    (s.close vertex).IsSettled other ↔ other = vertex ∨ s.IsSettled other := by
  rw [← hs.size_settled] at h
  unfold IsSettled State.close
  rw [Array.getElem?_setIfInBounds]
  by_cases hv : vertex = other
  · simp [hv, hv ▸ h]
  · simp [hv, Ne.symm hv]

/-- What is settled does not depend on the queue. -/
@[simp] theorem isSettled_withQueue {queue : Queue α} :
    ({ s with queue } : State α).IsSettled other ↔ s.IsSettled other := Iff.rfl

variable [Quantity α] {time : α} {edge : EdgeId}

/-- Reaching a vertex keeps the sizes of the tables. -/
theorem Fits.reach (hs : s.Fits g) : (s.reach vertex time edge).Fits g :=
  ⟨by simp [State.reach, hs.size_arrivals], hs.size_settled⟩

/-- Reaching a vertex writes down its arrival and leaves those of the others. -/
theorem Fits.arrival?_reach (hs : s.Fits g) (h : vertex < g.vertexCount) :
    (s.reach vertex time edge).arrival? other =
      if other = vertex then some ⟨time, some edge⟩ else s.arrival? other := by
  rw [← hs.size_arrivals] at h
  unfold arrival? State.reach
  rw [Array.getElem?_setIfInBounds]
  by_cases hv : vertex = other
  · simp [hv, hv ▸ h]
  · simp [hv, Ne.symm hv]

/-- Reaching a vertex that is not settled changes nothing for one that is. -/
theorem Fits.arrival?_reach_of_isSettled (hs : s.Fits g) (h : vertex < g.vertexCount)
    (hv : ¬ s.IsSettled vertex) (hu : s.IsSettled other) :
    (s.reach vertex time edge).arrival? other = s.arrival? other := by
  rw [hs.arrival?_reach h, if_neg]
  rintro rfl
  exact hv hu

/-- Reaching a vertex queues an entry for it. -/
theorem mem_queue_reach {entry : Entry α} :
    entry ∈ (s.reach vertex time edge).queue.toList ↔
      entry = ⟨time, some edge, vertex⟩ ∨ entry ∈ s.queue.toList := by
  unfold State.reach
  rw [(Queue.toList_push _ _).mem_iff, List.mem_cons]

/-- Reaching a vertex makes the queue longer by one. -/
theorem length_queue_reach :
    (s.reach vertex time edge).queue.toList.length = s.queue.toList.length + 1 := by
  unfold State.reach
  rw [(Queue.toList_push _ _).length_eq, List.length_cons]

end State

/-! ## The operations as steps -/

variable [Quantity α] {g : Graph α} {s : State α} {vertex target : VertexId}

/-- An offer that is better reaches the vertex, and any other leaves the state as it is. -/
theorem offer_eq {known : Option (Arrival α)} {time : α} {edge : EdgeId} :
    s.offer vertex known time edge =
      if betters time edge known then s.reach vertex time edge else s := rfl

/-- Following an edge reaches its end anew if the end is not settled and the way there betters what
is known. -/
theorem relax_eq (hs : s.Fits g) {id : EdgeId} {edge : Edge α} {here : Arrival α}
    (hedge : g.edges[id]? = some edge) (ht : edge.target < g.vertexCount)
    (hhere : s.arrival? vertex = some here) :
    relax g vertex s id = some
      (if ¬ s.IsSettled edge.target ∧
          betters (here.time + edge.weight) id (s.arrival? edge.target) = true then
        s.reach edge.target (here.time + edge.weight) id
      else s) := by
  have hv : vertex < g.vertexCount := hs.lt_of_arrival? hhere
  simp only [relax, hedge, hs.getElem?_settled ht, hs.getElem?_arrivals hv,
    hs.getElem?_arrivals ht, hhere, Option.bind_eq_bind, Option.bind_some, offer_eq]
  by_cases h : s.IsSettled edge.target <;> simp [h]

/-- Visiting a vertex does nothing if it is settled, closes it if it is the target, and otherwise
closes it and follows the edges that leave it. -/
theorem visit_eq (hs : s.Fits g) {ids : Array EdgeId} (hids : g.incidence[vertex]? = some ids) :
    visit g target vertex s =
      if s.IsSettled vertex then some s
      else if vertex = target then some (s.close vertex)
      else ids.toList.foldlM (relax g vertex) (s.close vertex) := by
  obtain ⟨hv, -⟩ := Array.getElem?_eq_some_iff.1 hids
  simp only [visit, hs.getElem?_settled hv, Option.bind_eq_bind, Option.bind_some, settle, hids,
    decide_eq_true_eq, beq_iff_eq]

/-! ## The end of a search -/

/-- Whether an edge leaves a vertex that is not settled. -/
def State.leavesOpen (g : Graph α) (s : State α) (id : EdgeId) : Bool :=
  g.edges[id]?.any fun edge => !decide (s.IsSettled edge.source)

/-- The number of edges that leave no settled vertex, each of which can still queue an entry. -/
def State.untried (g : Graph α) (s : State α) : Nat :=
  (List.range g.edgeCount).countP (s.leavesOpen g)

/-- The most entries that can still come out of the queue. -/
def State.load (g : Graph α) (s : State α) : Nat := s.queue.toList.length + s.untried g

/-- The edges still untried depend only on what is settled. -/
theorem untried_congr {s' : State α} (h : ∀ v, s'.IsSettled v ↔ s.IsSettled v) :
    s'.untried g = s.untried g := by
  have hopen : s'.leavesOpen g = s.leavesOpen g := by
    funext id
    simp [State.leavesOpen, h]
  unfold State.untried
  rw [hopen]

/-- Closing a vertex uses up the edges that leave it. -/
theorem untried_close (hg : g.WellFormed) (hs : s.Fits g) {ids : Array EdgeId}
    (hids : g.incidence[vertex]? = some ids) (hv : ¬ s.IsSettled vertex) :
    (s.close vertex).untried g + ids.toList.length = s.untried g := by
  obtain ⟨hlt, -⟩ := Array.getElem?_eq_some_iff.1 hids
  have hleaving : ((List.range g.edgeCount).filter (g.leaves vertex)).countP (s.leavesOpen g) =
      ids.toList.length := by
    rw [hg.toList_incidence hids, List.countP_eq_length]
    intro id hid
    obtain ⟨edge, hedge, rfl⟩ := Graph.leaves_iff.1 (List.mem_filter.1 hid).2
    simp [State.leavesOpen, hedge, hv]
  have hothers : ((List.range g.edgeCount).filter fun id => !g.leaves vertex id).countP
      (s.leavesOpen g) = (s.close vertex).untried g := by
    unfold State.untried
    rw [List.countP_filter]
    apply List.countP_congr
    intro id hid
    have hid : id < g.edges.size := List.mem_range.1 hid
    simp [State.leavesOpen, Graph.leaves, Array.getElem?_eq_getElem hid, hs.isSettled_close hlt,
      and_comm]
  rw [← hothers, ← hleaving, Nat.add_comm, State.untried,
    ← List.countP_eq_countP_filter_add _ (s.leavesOpen g) (g.leaves vertex)]

/-- **A search ends** with the target settled or nothing queued, if every entry taken makes the load
smaller, and what every visit keeps holds of its last state. -/
theorem exists_explore {P : State α → Prop}
    (hfits : ∀ s, P s → target < s.settled.size)
    (step : ∀ s entry queue, P s → ¬ s.IsSettled target → s.queue.pop? = some (entry, queue) →
      ∃ s', visit g target entry.vertex { s with queue } = some s' ∧ P s' ∧ s'.load g < s.load g)
    (limit : Nat) (s : State α) (h : P s) (hlimit : s.load g ≤ limit) :
    ∃ s', explore g target limit s = some s' ∧ P s' ∧
      (s'.IsSettled target ∨ s'.queue.toList = []) := by
  induction limit generalizing s with
  | zero =>
      have hempty : s.queue.toList.length = 0 := by
        unfold State.load at hlimit
        omega
      exact ⟨s, rfl, h, .inr (List.length_eq_zero_iff.1 hempty)⟩
  | succ limit ih =>
      simp only [explore, Array.getElem?_eq_getElem (hfits s h), Option.bind_eq_bind,
        Option.bind_some]
      have hlt : target < s.settled.size := hfits s h
      by_cases ht : s.IsSettled target
      · have htrue : s.settled[target] = true := (Array.getElem?_eq_some_iff.1 ht).2
        exact ⟨s, by simp [htrue], h, .inl ht⟩
      · have hfalse : s.settled[target] = false := by
          rw [← Bool.not_eq_true]
          exact fun htrue => ht (Array.getElem?_eq_some_iff.2 ⟨hlt, htrue⟩)
        cases hpop : s.queue.pop? with
        | none => exact ⟨s, by simp [hfalse], h, .inr (Queue.pop?_eq_none_iff.1 hpop)⟩
        | some popped =>
            obtain ⟨entry, queue⟩ := popped
            obtain ⟨next, hnext, hP, hload⟩ := step s entry queue h ht hpop
            obtain ⟨last, hlast, hlastP⟩ := ih next hP (by omega)
            exact ⟨last, by simp [hfalse, hnext, hlast], hlastP⟩

end BusNetwork.Search
