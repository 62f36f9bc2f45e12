import BusNetwork.Proofs.Quantity.Binary64
import BusNetwork.Proofs.Search.Least

/-!
# Searches of graphs that are put together edge by edge

`Graph.ofEdges? n edges` is the graph of `n` vertices to which the edges were added one after the
other. Self loops, parallel edges, cycles of weight zero and infinite weights may be among them.
**Between any two vertices of such a graph the search gives a way of least total, or says that no
way has a finite total** (`Search.shortest_isLeast`).

Totals are sums from left to right, and the laws of `OrderedQuantity` are all that is asked of them.
-/

set_option linter.unusedSectionVars false

namespace BusNetwork

open Quantity

variable {α : Type}

namespace Graph

/-! ## Putting a graph together -/

/-- A graph to which edges were added one after the other. -/
def addEdges? (g : Graph α) (edges : List (Edge α)) : Option (Graph α) :=
  edges.foldlM (fun g edge => (g.add? edge).map Prod.snd) g

/-- The graph of `n` vertices with the given edges, in the order of adding. -/
def ofEdges? (n : Nat) (edges : List (Edge α)) : Option (Graph α) :=
  (ofVertexCount n).addEdges? edges

/-- Edges between vertices of a well-formed graph are added one after the other. -/
theorem WellFormed.addEdges? {g : Graph α} (hg : g.WellFormed) {edges : List (Edge α)}
    (h : ∀ edge ∈ edges, edge.source < g.vertexCount ∧ edge.target < g.vertexCount) :
    ∃ g', g.addEdges? edges = some g' ∧ g'.WellFormed ∧ g'.vertexCount = g.vertexCount ∧
      g'.edges.toList = g.edges.toList ++ edges := by
  induction edges generalizing g with
  | nil => exact ⟨g, rfl, hg, rfl, (List.append_nil _).symm⟩
  | cons edge rest ih =>
      rw [List.forall_mem_cons] at h
      obtain ⟨g₁, hadd, hg₁, hedges, hcount⟩ := hg.add? h.1.1 h.1.2
      obtain ⟨g', hrest, hg', hcount', hedges'⟩ := ih hg₁ (hcount ▸ h.2)
      refine ⟨g', ?_, hg', hcount'.trans hcount, ?_⟩
      · rw [Graph.addEdges?, List.foldlM_cons, hadd]
        exact hrest
      · rw [hedges', hedges]
        simp

/-- Edges between `n` vertices make a well-formed graph that has these edges. -/
theorem exists_ofEdges? {n : Nat} {edges : List (Edge α)}
    (h : ∀ edge ∈ edges, edge.source < n ∧ edge.target < n) :
    ∃ g, ofEdges? n edges = some g ∧ g.WellFormed ∧ g.vertexCount = n ∧
      g.edges.toList = edges := by
  have hempty : (ofVertexCount n : Graph α).vertexCount = n := vertexCount_ofVertexCount n
  have hends : ∀ edge ∈ edges, edge.source < (ofVertexCount n : Graph α).vertexCount ∧
      edge.target < (ofVertexCount n : Graph α).vertexCount := by
    simpa only [hempty] using h
  obtain ⟨g, hadd, hg, hcount, hedges⟩ := (WellFormed.ofVertexCount n).addEdges? hends
  exact ⟨g, hadd, hg, hcount.trans hempty, by simpa [ofVertexCount] using hedges⟩

/-! ## Least ways -/

variable [Quantity α] {g : Graph α} {source target : VertexId} {total : α} {way : List EdgeId}

/-- A way whose total is at most that of every way between the same vertices. -/
structure LeastWay (g : Graph α) (source target : VertexId) (total : α) (way : List EdgeId) :
    Prop where
  /-- The edges lead from the one vertex to the other, and their weights sum up to the total. -/
  isWay : g.Way source target total way
  /-- No other way has a smaller total. -/
  atMost {total' : α} {way' : List EdgeId} : g.Way source target total' way' → AtMost total total'

/-- Where all weights are amounts, so are all totals. -/
theorem Way.zero_atMost [OrderedQuantity α]
    (hw : ∀ {id : EdgeId} {edge : Edge α}, g.edges[id]? = some edge → AtMost zero edge.weight)
    (h : g.Way source target total way) : AtMost zero total := by
  induction h with
  | start => exact zero_atMost_zero
  | follow _ hedge _ ih => exact zero_atMost_add ih (hw hedge)

end Graph

namespace Search

variable [Quantity α] [OrderedQuantity α]

/-- **The search is right about every graph.** Between two of `n` vertices joined by edges whose
weights are amounts, finite or not, it gives a way of least total, which is finite, if any way has a
finite total; and otherwise it says that the target cannot be reached. -/
theorem shortest_isLeast {n : Nat} {edges : List (Edge α)}
    (hedges : ∀ edge ∈ edges, edge.source < n ∧ edge.target < n ∧ AtMost zero edge.weight)
    {source target : VertexId} (hsource : source < n) (htarget : target < n) :
    ∃ g, Graph.ofEdges? n edges = some g ∧ g.vertexCount = n ∧ g.edges.toList = edges ∧
      (((∃ total way, g.Way source target total way ∧ isFinite total = true) ∧
        ∃ total way, shortest g source target = .value (total, way) ∧ isFinite total = true ∧
          g.LeastWay source target total way) ∨
      ((¬ ∃ total way, g.Way source target total way ∧ isFinite total = true) ∧
        shortest g source target = .failed .unreachable)) := by
  obtain ⟨g, hbuilt, hg, hcount, hlist⟩ :=
    Graph.exists_ofEdges? fun edge hedge => ⟨(hedges edge hedge).1, (hedges edge hedge).2.1⟩
  refine ⟨g, hbuilt, hcount, hlist, ?_⟩
  rw [← hcount] at hsource htarget
  have hweight : ∀ {id : EdgeId} {edge : Edge α}, g.edges[id]? = some edge →
      AtMost zero edge.weight := by
    intro id edge hedge
    rw [← Array.getElem?_toList, hlist] at hedge
    exact (hedges edge (List.mem_of_getElem? hedge)).2.2
  have hnegative : g.NoNegativeWeight := fun hedge _ => hweight hedge
  rcases shortest_cases hg hnegative hsource htarget with
    ⟨total, way, hshortest, hway, -, -, hfinite, hleast⟩ | ⟨hshortest, hnone⟩
  · refine .inl ⟨⟨total, way, hway, hfinite⟩, total, way, hshortest, hfinite, hway, ?_⟩
    intro total' way' hway'
    exact hleast total' way' hway' (hway'.zero_atMost hweight).right
  · refine .inr ⟨?_, hshortest⟩
    rintro ⟨total, way, hway, hfinite⟩
    rw [hnone total way hway] at hfinite
    cases hfinite

/-- A self loop, two parallel edges, a cycle of weight zero and an endless edge. -/
def tangle : List (Edge Float) :=
  [⟨0, 0, 1⟩, ⟨0, 1, 2⟩, ⟨0, 1, 2⟩, ⟨1, 2, 0⟩, ⟨2, 1, 0⟩, ⟨2, 3, 1.0 / 0.0⟩]

/-- The tangle is passed by the first of its parallel edges and half of its cycle. -/
theorem shortest_isLeast_tangle : ∃ g, Graph.ofEdges? 4 tangle = some g ∧
    shortest g 0 2 = .value (2, [1, 3]) ∧ g.LeastWay 0 2 2 [1, 3] := by
  have hedges : ∀ edge ∈ tangle, edge.source < 4 ∧ edge.target < 4 ∧ AtMost zero edge.weight := by
    decide +kernel
  have hsource : 0 < 4 := by decide
  have htarget : 2 < 4 := by decide
  obtain ⟨g, hg, -, -, h⟩ := shortest_isLeast hedges hsource htarget
  have hfound : (Graph.ofEdges? 4 tangle).map (fun g => shortest g 0 2) =
      some (.value (2, [1, 3])) := by decide +kernel
  have hshortest : shortest g 0 2 = .value (2, [1, 3]) := by simpa [hg] using hfound
  rcases h with ⟨-, total, way, hvalue, -, hleast⟩ | ⟨-, hnone⟩
  · rw [hshortest, Outcome.value.injEq, Prod.mk.injEq] at hvalue
    obtain ⟨rfl, rfl⟩ := hvalue
    exact ⟨g, hg, hshortest, hleast⟩
  · rw [hshortest] at hnone
    cases hnone

end Search

end BusNetwork
