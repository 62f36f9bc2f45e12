import BusNetwork.Proofs.Search.Least

/-!
# The entries of a queue

A vertex is queued anew whenever its arrival is bettered, and its older entries stay in the queue.
That does no harm: **the entry that tells the arrival of a vertex as it is comes out before all
others of that vertex** (`Live.arrival?_of_pop?`), which then find the vertex settled and are passed
over.

* `Live` — the invariant. Each reached and unsettled vertex is queued as it was reached, and its
  other entries come after that one; each edge has queued one entry at most, and none before it was
  followed.
* `Live.pairwise` — so no two entries are alike in the order of the queue, and how the queue
  arranges them makes no difference to what comes out.
-/

set_option linter.unusedSectionVars false

namespace BusNetwork.Search

open Quantity

variable {α : Type} [Quantity α] {g : Graph α} {s s' : State α} {source target : VertexId}

/-- The entry of a vertex that was reached in a given way. -/
def Arrival.entry (a : Arrival α) (vertex : VertexId) : Entry α := ⟨a.time, a.via, vertex⟩

/-- How the entries of a queue stand to the arrivals, but for the edges that wait to be followed. -/
structure Live (g : Graph α) (waiting : List EdgeId) (s : State α) : Prop where
  /-- No two entries were queued by the same edge. -/
  nodup_vias : (s.queue.toList.map (·.via)).Nodup
  /-- An edge that has queued an entry was followed. -/
  followed {entry : Entry α} {id : EdgeId} : entry ∈ s.queue.toList → entry.via = some id →
    id ∉ waiting ∧ ∃ edge, g.edges[id]? = some edge ∧ s.IsSettled edge.source
  /-- What is reached and not settled is queued as it was reached. -/
  queued {v : VertexId} {a : Arrival α} : s.arrival? v = some a → ¬ s.IsSettled v →
    a.entry v ∈ s.queue.toList
  /-- All other entries of it come after that one. -/
  first {entry : Entry α} {a : Arrival α} : entry ∈ s.queue.toList →
    s.arrival? entry.vertex = some a → ¬ s.IsSettled entry.vertex →
    entry = a.entry entry.vertex ∨ (a.entry entry.vertex).before entry = true

namespace Live

variable {id : EdgeId} {waiting : List EdgeId} {entry : Entry α} {queue : Queue α}

/-! ## The invariant is kept -/

/-- At the start the one entry of the queue is that of the source. -/
theorem start (hsource : source < g.vertexCount) :
    Live g [] (State.start g.vertexCount source : State α) := by
  refine ⟨by simp [State.start, Queue.single, Queue.toList], ?_, ?_, ?_⟩
  · intro entry id he hvia
    obtain rfl := mem_queue_start.1 he
    cases hvia
  · intro v a ha _
    rw [arrival?_start hsource] at ha
    split at ha
    · subst v
      obtain rfl := Option.some.inj ha
      exact mem_queue_start.2 rfl
    · cases ha
  · intro entry a he ha _
    obtain rfl := mem_queue_start.1 he
    rw [arrival?_start hsource, if_pos rfl] at ha
    obtain rfl := Option.some.inj ha
    exact .inl rfl

/-- An entry can be taken from the queue if its vertex is settled then. -/
theorem of_pop? (h : Live g [] s) (hpop : s.queue.pop? = some (entry, queue))
    (hqueue : s'.queue = queue) (harrival : ∀ v, s'.arrival? v = s.arrival? v)
    (hsettled : ∀ v, s'.IsSettled v ↔ v = entry.vertex ∨ s.IsSettled v)
    (hwaiting : ∀ id ∈ waiting, ∀ edge, g.edges[id]? = some edge → ¬ s.IsSettled edge.source) :
    Live g waiting s' := by
  subst hqueue
  have hperm := Queue.toList_of_pop? hpop
  have hmem : ∀ {e}, e ∈ s'.queue.toList → e ∈ s.queue.toList := fun he =>
    hperm.mem_iff.2 (List.mem_cons_of_mem _ he)
  refine ⟨?_, ?_, ?_, ?_⟩
  · exact (List.nodup_cons.1 ((hperm.map _).nodup_iff.1 h.nodup_vias)).2
  · intro e id he hvia
    obtain ⟨-, edge, hedge, hsource⟩ := h.followed (hmem he) hvia
    exact ⟨fun hid => hwaiting id hid edge hedge hsource, edge, hedge,
      (hsettled _).2 (.inr hsource)⟩
  · intro v a ha hv
    rw [harrival] at ha
    rw [hsettled, not_or] at hv
    rcases List.mem_cons.1 (hperm.mem_iff.1 (h.queued ha hv.2)) with heq | he
    · exact absurd (heq ▸ rfl) hv.1
    · exact he
  · intro e a he ha hv
    rw [harrival] at ha
    rw [hsettled, not_or] at hv
    exact h.first (hmem he) ha hv.2

/-- The entries can be arranged in another way. -/
theorem perm (h : Live g waiting s) (hperm : queue.toList.Perm s.queue.toList) :
    Live g waiting { s with queue } :=
  ⟨(hperm.map _).nodup_iff.2 h.nodup_vias, fun he => h.followed (hperm.mem_iff.1 he),
    fun ha hv => hperm.mem_iff.2 (h.queued ha hv), fun he => h.first (hperm.mem_iff.1 he)⟩

/-- An edge does not have to wait any longer. -/
theorem tail (h : Live g (id :: waiting) s) : Live g waiting s :=
  ⟨h.nodup_vias, fun he hvia => (h.followed he hvia).imp_left (mt (List.mem_cons_of_mem _)),
    h.queued, h.first⟩

variable [OrderedQuantity α]

/-- What betters an arrival comes before it. -/
theorem before_of_betters {known : Arrival α} {time : α} {vertex : VertexId}
    (h : betters time id (some known) = true) :
    Entry.before ⟨time, some id, vertex⟩ (known.entry vertex) = true := by
  simp only [betters, Bool.or_eq_true, decide_eq_true_eq, Bool.and_eq_true] at h
  rw [Entry.before_iff]
  rcases h with hless | ⟨htime, hvia⟩
  · exact .inl hless
  · obtain ⟨via, hknown, hlt⟩ := Option.any_eq_true _ _ |>.1 hvia
    refine .inr ⟨htime, .inl ?_⟩
    simpa [Entry.place, Arrival.entry, hknown] using hlt

/-- A vertex can be reached anew by an edge that waits. -/
theorem reach (hw : g.NoNegativeWeight) (hs : Coherent g source s)
    (ht : Timely g target (id :: waiting) s) (h : Live g (id :: waiting) s)
    (hnodup : (id :: waiting).Nodup) {edge : Edge α} {here : Arrival α}
    (hedge : g.edges[id]? = some edge) (hlt : edge.target < g.vertexCount)
    (hsource : s.IsSettled edge.source) (hhere : s.arrival? edge.source = some here)
    (hbetters : betters (here.time + edge.weight) id (s.arrival? edge.target) = true) :
    Live g waiting (s.reach edge.target (here.time + edge.weight) id) := by
  obtain ⟨-, hfinite⟩ := ht.amount_of_betters hw hedge hhere hbetters
  have hnumber := OrderedQuantity.isNumber_of_isFinite hfinite
  have hperm :=
    Queue.toList_push (⟨here.time + edge.weight, some id, edge.target⟩ : Entry α) s.queue
  refine ⟨?_, ?_, ?_, ?_⟩
  · refine (hperm.map _).nodup_iff.2 (List.nodup_cons.2 ⟨fun hmem => ?_, h.nodup_vias⟩)
    obtain ⟨e, he, hvia⟩ := List.mem_map.1 hmem
    exact (h.followed he hvia).1 List.mem_cons_self
  · intro e id' he hvia
    rcases State.mem_queue_reach.1 he with rfl | he
    · obtain rfl := Option.some.inj hvia
      exact ⟨(List.nodup_cons.1 hnodup).1, edge, hedge, hsource⟩
    · exact h.tail.followed he hvia
  · intro v a ha hv
    rw [hs.arrival?_reach hlt] at ha
    split at ha
    · subst v
      obtain rfl := Option.some.inj ha
      exact State.mem_queue_reach.2 (.inl rfl)
    · exact State.mem_queue_reach.2 (.inr (h.queued ha hv))
  · intro e a he ha hv
    rw [hs.arrival?_reach hlt] at ha
    rcases State.mem_queue_reach.1 he with rfl | he
    · rw [if_pos rfl] at ha
      obtain rfl := Option.some.inj ha
      exact .inl rfl
    split at ha
    · rename_i hvertex
      obtain rfl := Option.some.inj ha
      -- the new arrival comes before the known one, and that one before its older entries
      obtain ⟨known, hknown⟩ := hs.queued he
      have hnew : Entry.before ⟨here.time + edge.weight, some id, e.vertex⟩
          (known.entry e.vertex) = true := by
        rw [← hvertex, hknown] at hbetters
        exact before_of_betters hbetters
      refine .inr ?_
      rcases h.first he hknown hv with heq | hbefore
      · rw [heq]
        exact hnew
      · exact Entry.before_trans hnumber (ht.amount hknown).1.right (ht.timed hs e he) hnew hbefore
    · exact h.first he ha hv

/-- Following an edge keeps the invariant, and the edge does not wait any longer. -/
theorem relax (hg : g.WellFormed) (hw : g.NoNegativeWeight) (hs : Coherent g source s)
    (ht : Timely g target (id :: waiting) s) (h : Live g (id :: waiting) s)
    (hnodup : (id :: waiting).Nodup) {edge : Edge α} (hedge : g.edges[id]? = some edge)
    (hsource : s.IsSettled edge.source)
    (hrelax : Search.relax g edge.source s id = some s') : Live g waiting s' := by
  obtain ⟨here, hhere⟩ := hs.reached hsource
  have hlt : edge.target < g.vertexCount := hg.target_lt hedge
  rw [relax_eq hs.toFits hedge hlt hhere, Option.some.injEq] at hrelax
  subst hrelax
  split
  · obtain ⟨-, hbetters⟩ := ‹_ ∧ _›
    exact h.reach hw hs ht hnodup hedge hlt hsource hhere hbetters
  · exact h.tail

/-! ## What comes out -/

/-- **What comes out of the queue tells the arrival at its vertex as it is**, unless the vertex is
settled. -/
theorem arrival?_of_pop? (hs : Coherent g source s) (ht : Timely g target waiting s)
    (h : Live g waiting s) (hpop : s.queue.pop? = some (entry, queue))
    (hv : ¬ s.IsSettled entry.vertex) :
    s.arrival? entry.vertex = some ⟨entry.time, entry.via⟩ := by
  have hperm := Queue.toList_of_pop? hpop
  have hfirst : entry ∈ s.queue.toList := hperm.mem_iff.2 List.mem_cons_self
  obtain ⟨a, ha⟩ := hs.queued hfirst
  have hlive : a.entry entry.vertex = entry := by
    rcases List.mem_cons.1 (hperm.mem_iff.1 (h.queued ha hv)) with heq | hrest
    · exact heq
    rcases h.first hfirst ha hv with heq | hbefore
    · exact heq.symm
    · -- what came before would have come out
      have hnot := (ht.ordered.of_pop? (ht.timed hs) hpop).2 _ hrest
      rw [Entry.NotAfter, hbefore] at hnot
      cases hnot
  rw [ha]
  exact congrArg (fun e : Entry α => some (⟨e.time, e.via⟩ : Arrival α)) hlive

/-- **No two entries are alike**: of any two, one comes out before the other. -/
theorem pairwise (hs : Coherent g source s) (ht : Timely g target waiting s)
    (h : Live g waiting s) :
    s.queue.toList.Pairwise fun a b => a.before b = true ∨ b.before a = true := by
  have htimed := ht.timed hs
  refine (List.pairwise_map.1 h.nodup_vias).imp_of_mem fun ha hb hvia => ?_
  exact Entry.before_or_before (htimed _ ha) (htimed _ hb) hvia

end Live

end BusNetwork.Search
