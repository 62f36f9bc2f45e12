import BusNetwork.Graph
import BusNetwork.Proofs.Quantity.Order

/-!
# Graphs that are well formed, and the ways through them

* `Graph.WellFormed g` — the ends of every edge are vertices, and **the list of each vertex holds
  exactly the ids of the edges that leave it, ascending**. A graph without edges is well formed and
  adding an edge between its vertices keeps it so (`WellFormed.add?`).
* `Graph.Way g source vertex total way` — the edges `way` lead from `source` to `vertex`, and their
  weights sum up to `total`, taken from left to right and starting from zero. The order of the
  additions is part of the definition, since they may round.
* `Graph.visited` — the vertices that a way passes, its start included.
-/

namespace BusNetwork.Graph

variable {α : Type} {g : Graph α}

/-! ## Well-formed graphs -/

/-- Whether an edge leaves a vertex. -/
def leaves (g : Graph α) (vertex : VertexId) (id : EdgeId) : Bool :=
  g.edges[id]?.any fun edge => edge.source == vertex

/-- The ends of every edge are vertices, and each vertex lists the edges that leave it. -/
structure WellFormed (g : Graph α) : Prop where
  /-- Every edge leaves a vertex of the graph. -/
  source_lt {id : EdgeId} {edge : Edge α} : g.edges[id]? = some edge → edge.source < g.vertexCount
  /-- Every edge enters a vertex of the graph. -/
  target_lt {id : EdgeId} {edge : Edge α} : g.edges[id]? = some edge → edge.target < g.vertexCount
  /-- A vertex lists the edges that leave it, in the order of adding. -/
  toList_incidence {vertex : VertexId} {ids : Array EdgeId} : g.incidence[vertex]? = some ids →
    ids.toList = (List.range g.edgeCount).filter (g.leaves vertex)

/-- An edge leaves a vertex exactly if it is there and the vertex is its source. -/
theorem leaves_iff {vertex : VertexId} {id : EdgeId} :
    g.leaves vertex id = true ↔ ∃ edge, g.edges[id]? = some edge ∧ edge.source = vertex := by
  simp [leaves, Option.any_eq_true]

/-- An edge that is there has an id below the number of edges. -/
theorem lt_edgeCount_of_getElem? {id : EdgeId} {edge : Edge α} (h : g.edges[id]? = some edge) :
    id < g.edgeCount := by
  obtain ⟨hid, -⟩ := Array.getElem?_eq_some_iff.1 h
  exact hid

/-- The vertices are those that have a list. -/
theorem exists_incidence {vertex : VertexId} (h : vertex < g.vertexCount) :
    ∃ ids, g.incidence[vertex]? = some ids :=
  ⟨_, Array.getElem?_eq_getElem h⟩

namespace WellFormed

/-- A listed edge leaves the vertex, and every edge that leaves it is listed. -/
theorem mem_incidence (hg : g.WellFormed) {vertex : VertexId} {ids : Array EdgeId}
    (h : g.incidence[vertex]? = some ids) {id : EdgeId} :
    id ∈ ids.toList ↔ ∃ edge, g.edges[id]? = some edge ∧ edge.source = vertex := by
  rw [hg.toList_incidence h, List.mem_filter, leaves_iff, List.mem_range]
  constructor
  · exact fun ⟨_, hedge⟩ => hedge
  · rintro ⟨edge, hedge, hsource⟩
    exact ⟨lt_edgeCount_of_getElem? hedge, edge, hedge, hsource⟩

/-- No edge is listed twice. -/
theorem nodup_incidence (hg : g.WellFormed) {vertex : VertexId} {ids : Array EdgeId}
    (h : g.incidence[vertex]? = some ids) : ids.toList.Nodup := by
  rw [hg.toList_incidence h]
  exact List.nodup_range.filter _

/-- The graph without edges is well formed. -/
theorem ofVertexCount (n : Nat) : (Graph.ofVertexCount n : Graph α).WellFormed where
  source_lt h := by simp [Graph.ofVertexCount] at h
  target_lt h := by simp [Graph.ofVertexCount] at h
  toList_incidence h := by
    obtain ⟨hlt, rfl⟩ := Array.getElem?_eq_some_iff.1 h
    simp [Graph.ofVertexCount, edgeCount]

end WellFormed

/-- A graph made for `n` vertices has `n` of them. -/
@[simp] theorem vertexCount_ofVertexCount (n : Nat) :
    (ofVertexCount n : Graph α).vertexCount = n := by
  simp [ofVertexCount, vertexCount]

/-- What adding an edge does: it becomes the last edge and is listed last at its source. -/
theorem add?_spec {edge : Edge α} (h : edge.source < g.vertexCount) :
    ∃ g', g.add? edge = some (g.edgeCount, g') ∧ g'.edges = g.edges.push edge ∧
      g'.vertexCount = g.vertexCount ∧
      ∀ {vertex : VertexId} {ids : Array EdgeId}, g'.incidence[vertex]? = some ids →
        ∃ former, g.incidence[vertex]? = some former ∧
          ids.toList = former.toList ++ if edge.source = vertex then [g.edgeCount] else [] := by
  obtain ⟨leaving, hleaving⟩ := exists_incidence h
  refine ⟨_, by simp only [add?, hleaving, edgeCount]; rfl, rfl, by simp [vertexCount], ?_⟩
  intro vertex ids hids
  rw [Array.getElem?_setIfInBounds] at hids
  by_cases hv : edge.source = vertex
  · subst hv
    have hlt : edge.source < g.incidence.size := h
    simp only [hlt, if_true, Option.some.injEq] at hids
    exact ⟨leaving, hleaving, by simp [← hids, edgeCount]⟩
  · rw [if_neg hv] at hids
    exact ⟨ids, hids, by simp [hv]⟩

/-- The edge that is pushed takes the next id, and every other id stays as it was. -/
theorem getElem?_edges_push {g' : Graph α} {edge : Edge α} (h : g'.edges = g.edges.push edge)
    {id : EdgeId} : g'.edges[id]? = if id = g.edgeCount then some edge else g.edges[id]? := by
  rw [h, Array.getElem?_push, edgeCount]

/-- The edges that leave a vertex, after one was added. -/
theorem filter_leaves_push {g' : Graph α} {edge : Edge α} (h : g'.edges = g.edges.push edge)
    (vertex : VertexId) :
    (List.range g'.edgeCount).filter (g'.leaves vertex) =
      (List.range g.edgeCount).filter (g.leaves vertex) ++
        if edge.source = vertex then [g.edgeCount] else [] := by
  have hcount : g'.edgeCount = g.edgeCount + 1 := by simp [edgeCount, h]
  rw [hcount, List.range_succ, List.filter_append]
  congr 1
  · apply List.filter_congr
    intro id hid
    rw [List.mem_range] at hid
    simp [leaves, getElem?_edges_push h, Nat.ne_of_lt hid]
  · by_cases hv : edge.source = vertex <;> simp [leaves, getElem?_edges_push h, hv]

/-- Adding an edge between vertices gives it the next id and keeps the graph well formed. -/
theorem WellFormed.add? (hg : g.WellFormed) {edge : Edge α} (hs : edge.source < g.vertexCount)
    (ht : edge.target < g.vertexCount) :
    ∃ g', g.add? edge = some (g.edgeCount, g') ∧ g'.WellFormed ∧
      g'.edges = g.edges.push edge ∧ g'.vertexCount = g.vertexCount := by
  obtain ⟨g', hadd, hedges, hcount, hincidence⟩ := add?_spec hs
  have hend : ∀ {id : EdgeId} {e : Edge α}, g'.edges[id]? = some e →
      e.source < g'.vertexCount ∧ e.target < g'.vertexCount := by
    intro id e he
    rw [getElem?_edges_push hedges] at he
    rw [hcount]
    split at he
    · cases he
      exact ⟨hs, ht⟩
    · exact ⟨hg.source_lt he, hg.target_lt he⟩
  refine ⟨g', hadd, ⟨fun he => (hend he).1, fun he => (hend he).2, ?_⟩, hedges, hcount⟩
  intro vertex ids hids
  obtain ⟨former, hformer, hlist⟩ := hincidence hids
  rw [hlist, hg.toList_incidence hformer, filter_leaves_push hedges]

/-! ## Ways -/

/-- The vertices that the edges of a way pass, the start first. -/
def visited (g : Graph α) (source : VertexId) (way : List EdgeId) : List VertexId :=
  source :: way.filterMap fun id => g.edges[id]?.map (·.target)

/-- A way of no edges visits its source alone. -/
@[simp] theorem visited_nil (source : VertexId) : g.visited source [] = [source] := rfl

/-- A way of one edge more visits the target of that edge last. -/
theorem visited_concat {source : VertexId} {way : List EdgeId} {id : EdgeId} {edge : Edge α}
    (h : g.edges[id]? = some edge) :
    g.visited source (way ++ [id]) = g.visited source way ++ [edge.target] := by
  simp [visited, h]

/-- A way that goes on to a vertex that it has not passed passes no vertex twice. -/
theorem nodup_visited_concat {source : VertexId} {way : List EdgeId} {id : EdgeId} {edge : Edge α}
    (h : g.edges[id]? = some edge) (hnodup : (g.visited source way).Nodup)
    (hnew : edge.target ∉ g.visited source way) : (g.visited source (way ++ [id])).Nodup := by
  rw [visited_concat h, List.nodup_append]
  refine ⟨hnodup, List.pairwise_singleton _ _, ?_⟩
  intro u hu v hv
  rintro rfl
  exact hnew (List.mem_singleton.1 hv ▸ hu)

variable [Quantity α]

/-- The edges `way` lead from a source to a vertex, with the given total of their weights, summed
up from left to right. -/
inductive Way (g : Graph α) (source : VertexId) : VertexId → α → List EdgeId → Prop where
  /-- No edges lead from a vertex to itself. -/
  | start : Way g source source Quantity.zero []
  /-- A way goes on along an edge that leaves the vertex it leads to. -/
  | follow {vertex : VertexId} {total : α} {way : List EdgeId} {id : EdgeId} {edge : Edge α} :
    Way g source vertex total way → g.edges[id]? = some edge → edge.source = vertex →
    Way g source edge.target (total + edge.weight) (way ++ [id])

namespace Way

variable {source vertex other : VertexId} {total total' : α} {way : List EdgeId} {id : EdgeId}

/-- A way that has a last edge goes on along it. -/
theorem exists_of_concat (h : g.Way source vertex total (way ++ [id])) :
    ∃ edge spent, g.edges[id]? = some edge ∧ edge.target = vertex ∧
      g.Way source edge.source spent way ∧ total = spent + edge.weight := by
  generalize hwhole : way ++ [id] = whole at h
  cases h with
  | start => simp at hwhole
  | follow hway hedge hsource =>
      obtain ⟨rfl, hlast⟩ := List.append_inj' hwhole rfl
      obtain rfl := List.singleton_inj.1 hlast
      subst hsource
      exact ⟨_, _, hedge, rfl, hway, rfl⟩

/-- Edges lead from a source to one vertex only, with one total. -/
theorem unique (h : g.Way source vertex total way) (h' : g.Way source other total' way) :
    vertex = other ∧ total = total' := by
  induction h generalizing other total' with
  | start =>
      generalize hempty : ([] : List EdgeId) = empty at h'
      cases h' with
      | start => exact ⟨rfl, rfl⟩
      | follow => simp at hempty
  | follow _ hedge hsource ih =>
      obtain ⟨edge, spent, hedge', htarget, hway, rfl⟩ := h'.exists_of_concat
      obtain rfl := Option.some.inj (hedge.symm.trans hedge')
      exact ⟨htarget, by rw [(ih hway).2]⟩

end Way

/-- No weight that is a number is negative. -/
def NoNegativeWeight (g : Graph α) : Prop :=
  ∀ {id : EdgeId} {edge : Edge α}, g.edges[id]? = some edge →
    Quantity.IsNumber edge.weight → Quantity.AtMost Quantity.zero edge.weight

end BusNetwork.Graph
