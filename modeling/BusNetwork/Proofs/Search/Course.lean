import BusNetwork.Proofs.Search.Assembled
import BusNetwork.Proofs.Search.Trace

/-!
# The course of a search: what is taken, what is settled, and when it ends

`Course g source target taken order s` keeps books on a search: which entries have come out of its
queue and which vertices have been settled until it came to the state `s`, the last ones first. It
lets the queue be arranged anew at any time, so **which of the queued entries comes out next is left
open**.

No law of the numbers is used. Weights may be negative, infinite or undefined, and comparing them
may tell anything or nothing, yet both loops of a search end (`shortest_ends`):

* `Account` — the invariant behind the books. An entry is queued by an edge that leaves a settled
  vertex and has been followed, and **no two entries ever queued came by the same edge** (`Booked`).
  So no more entries come out than there are edges, and one.
* `Traced.sublist` — the vertices passed in following last edges backwards stand in the order in
  which vertices were settled. So no vertex is passed twice, and there are fewer steps than
  vertices.
-/

namespace BusNetwork.Search

open Quantity

variable {α : Type} {g : Graph α} {s s' last : State α} {source target vertex : VertexId}
  {taken : List (Entry α)} {order : List VertexId} {way waiting : List EdgeId}

/-! ## Following last edges backwards in the order of settling -/

/-- A way passes one vertex more than it has edges. -/
theorem Traced.length_visited (h : Traced g s vertex way) :
    (g.visited source way).length = way.length + 1 := by
  induction h with
  | start => rfl
  | follow _ hedge _ _ _ ih => simp [Graph.visited_concat hedge, ih]

/-- **What leads to a vertex passes vertices in the order in which they were settled.** -/
theorem Traced.sublist (h : Traced g s vertex way) (horder : Sequence g s order)
    (hfirst : ∀ {v a}, s.arrival? v = some a → a.via = none → v = source) (hv : vertex ∈ order) :
    (g.visited source way).reverse.Sublist order := by
  induction h generalizing order with
  | start ha hvia =>
      obtain rfl := hfirst ha hvia
      simpa using hv
  | @follow vertex way id edge a _ hedge htarget ha hvia ih =>
      subst htarget
      rw [Graph.visited_concat hedge, List.reverse_append, List.reverse_singleton,
        List.singleton_append]
      induction order with
      | nil => cases hv
      | cons latest earlier ihorder =>
          obtain ⟨hlatest, hlast, hearlier⟩ := horder
          rcases List.mem_cons.1 hv with rfl | hv
          · exact (ih hearlier (hlast a id edge ha hvia hedge)).cons_cons _
          · exact (ihorder hearlier hv).cons _

/-! ## The books -/

/-- The entries that were ever queued, while some edges out of the vertex just settled are still
waiting to be followed. -/
structure Booked (g : Graph α) (taken : List (Entry α)) (waiting : List EdgeId) (s : State α) :
    Prop where
  /-- No two of them came by the same edge. -/
  once : ((taken ++ s.queue.toList).map Entry.via).Nodup
  /-- They came by edges that have been followed, out of settled vertices. -/
  followed {entry : Entry α} {id : EdgeId} : entry ∈ taken ++ s.queue.toList →
    entry.via = some id → id ∉ waiting ∧
      ∃ edge, g.edges[id]? = some edge ∧ s.IsSettled edge.source
  /-- No edge is waiting twice. -/
  nodup_waiting : waiting.Nodup

namespace Booked

/-- The books hold of the same entries in another order, where nothing was unsettled and the edges
now waiting leave vertices that were open. -/
theorem congr {taken' : List (Entry α)} {waiting' : List EdgeId} (h : Booked g taken waiting s)
    (hperm : (taken' ++ s'.queue.toList).Perm (taken ++ s.queue.toList))
    (hsettled : ∀ v, s.IsSettled v → s'.IsSettled v) (hnodup : waiting'.Nodup)
    (hopen : ∀ id ∈ waiting', ∀ edge, g.edges[id]? = some edge → ¬ s.IsSettled edge.source) :
    Booked g taken' waiting' s' where
  once := ((hperm.map Entry.via).nodup_iff).2 h.once
  followed he hvia := by
    obtain ⟨-, edge, hedge, hsource⟩ := h.followed (hperm.mem_iff.1 he) hvia
    exact ⟨fun hid => hopen _ hid edge hedge hsource, edge, hedge, hsettled _ hsource⟩
  nodup_waiting := hnodup

/-- An edge that is passed over is no longer waiting. -/
theorem skip {id : EdgeId} (h : Booked g taken (id :: waiting) s) : Booked g taken waiting s where
  once := h.once
  followed he hvia := by
    obtain ⟨hid, hfollowed⟩ := h.followed he hvia
    exact ⟨fun hmem => hid (List.mem_cons_of_mem _ hmem), hfollowed⟩
  nodup_waiting := (List.nodup_cons.1 h.nodup_waiting).2

/-- **No more entries are ever queued than there are edges, and one for the start.** -/
theorem length_le (h : Booked g taken waiting s) :
    (taken ++ s.queue.toList).length ≤ g.edgeCount + 1 := by
  have hsub : (taken ++ s.queue.toList).map Entry.via ⊆
      none :: (List.range g.edgeCount).map some := by
    intro via hvia
    obtain ⟨entry, he, rfl⟩ := List.mem_map.1 hvia
    cases hid : entry.via with
    | none => exact List.mem_cons_self
    | some id =>
        obtain ⟨-, edge, hedge, -⟩ := h.followed he hid
        have hlt : id < g.edgeCount := Graph.lt_edgeCount_of_getElem? hedge
        exact List.mem_cons_of_mem _ (List.mem_map_of_mem (List.mem_range.2 hlt))
  simpa using (List.subperm_of_subset h.once hsub).length_le

end Booked

variable [Quantity α]

/-- The course of a search up to a state: the entries that have been taken from the queue and the
vertices that have been settled, the last ones first. -/
inductive Course (g : Graph α) (source target : VertexId) :
    List (Entry α) → List VertexId → State α → Prop where
  /-- A search starts at its source. -/
  | start : Course g source target [] [] (.start g.vertexCount source)
  /-- The queue is arranged in another way. -/
  | rearrange {taken : List (Entry α)} {order : List VertexId} {s : State α} {queue : Queue α} :
    Course g source target taken order s → queue.toList.Perm s.queue.toList →
    Course g source target taken order { s with queue }
  /-- What comes out of the queue is visited, as long as the target is not settled. Its vertex is
  settled by that, unless it was before. -/
  | visit {taken : List (Entry α)} {order : List VertexId} {s s' : State α} {entry : Entry α}
    {queue : Queue α} : Course g source target taken order s → ¬ s.IsSettled target →
    s.queue.pop? = some (entry, queue) →
    visit g target entry.vertex { s with queue } = some s' →
    Course g source target (entry :: taken)
      (if s.IsSettled entry.vertex then order else entry.vertex :: order) s'

namespace Booked

/-- An edge that reaches a vertex anew is the first that an entry is queued by. -/
theorem reach {id : EdgeId} {edge : Edge α} {time : α} (h : Booked g taken (id :: waiting) s)
    (hedge : g.edges[id]? = some edge) (hsource : s.IsSettled edge.source) :
    Booked g taken waiting (s.reach vertex time id) := by
  have hperm : (taken ++ (s.reach vertex time id).queue.toList).Perm
      (⟨time, some id, vertex⟩ :: (taken ++ s.queue.toList)) :=
    ((Queue.toList_push _ _).append_left taken).trans List.perm_middle
  obtain ⟨hid, hrest⟩ := List.nodup_cons.1 h.nodup_waiting
  refine ⟨?_, ?_, hrest⟩
  · rw [(hperm.map Entry.via).nodup_iff, List.map_cons, List.nodup_cons]
    refine ⟨fun hmem => ?_, h.once⟩
    obtain ⟨entry, he, hvia⟩ := List.mem_map.1 hmem
    exact (h.followed he hvia).1 List.mem_cons_self
  · intro entry id' he hvia
    rcases List.mem_cons.1 (hperm.mem_iff.1 he) with rfl | he
    · obtain rfl := Option.some.inj hvia
      exact ⟨hid, edge, hedge, hsource⟩
    · exact h.skip.followed he hvia

/-- **A visit keeps the books.** It settles the vertex of its entry and no other. -/
theorem exists_visit (hg : g.WellFormed) (hs : Coherent g source s) (h : Booked g taken [] s)
    {entry : Entry α} {queue : Queue α} (hpop : s.queue.pop? = some (entry, queue))
    (target : VertexId) :
    ∃ s', Search.visit g target entry.vertex { s with queue } = some s' ∧
      Booked g (entry :: taken) [] s' ∧ ∀ v, s'.IsSettled v ↔ v = entry.vertex ∨ s.IsSettled v := by
  have hperm : (entry :: taken ++ queue.toList).Perm (taken ++ s.queue.toList) :=
    List.perm_middle.symm.trans ((Queue.toList_of_pop? hpop).symm.append_left taken)
  have hclose : ∀ {v}, (State.close { s with queue } entry.vertex).IsSettled v ↔
      v = entry.vertex ∨ s.IsSettled v := hs.isSettled_closeTaken hpop
  have hclosed : ∀ ids, g.incidence[entry.vertex]? = some ids → ¬ s.IsSettled entry.vertex →
      Booked g (entry :: taken) (if entry.vertex = target then [] else ids.toList)
        (State.close { s with queue } entry.vertex) := by
    intro ids hids hopen
    refine h.congr hperm (fun v hv => hclose.2 (.inr hv)) ?_ ?_
    · split
      · exact List.nodup_nil
      · exact hg.nodup_incidence hids
    · split
      · exact nofun
      · intro id hid edge hedge
        obtain ⟨edge', hedge', hsource⟩ := (hg.mem_incidence hids).1 hid
        obtain rfl := Option.some.inj (hedge.symm.trans hedge')
        rwa [hsource]
  obtain ⟨s', hvisit, -, -, -, hbooked, hsettled⟩ := hs.visit hg hpop
    (fun waiting s' => Booked g (entry :: taken) waiting s' ∧
      ∀ v, s'.IsSettled v ↔ v = entry.vertex ∨ s.IsSettled v)
    (fun hstale => ⟨h.congr hperm (fun _ hv => hv) List.nodup_nil nofun,
      fun v => (or_iff_right_of_imp fun hv => hv ▸ hstale).symm⟩)
    (fun hopen ids hids => ⟨hclosed ids hids hopen, fun _ => hclose⟩)
    (fun id rest s₁ s₂ edge hedge hsource hs₁ hv hbooked hrelax => by
      obtain ⟨here, hhere⟩ := hs₁.reached hv
      rw [relax_eq hs₁.toFits hedge (hg.target_lt hedge) hhere] at hrelax
      obtain rfl := Option.some.inj hrelax
      split
      · exact ⟨hbooked.1.reach hedge (hsource ▸ hv), hbooked.2⟩
      · exact ⟨hbooked.1.skip, hbooked.2⟩)
  exact ⟨s', hvisit, hbooked, hsettled⟩

end Booked

/-- The invariant of a course: its state is coherent, and the books tell what is settled, in which
order, and what was queued. -/
structure Account (g : Graph α) (source : VertexId) (taken : List (Entry α))
    (order : List VertexId) (s : State α) : Prop where
  /-- The state is coherent. -/
  coherent : Coherent g source s
  /-- The last edge of each settled vertex leaves one that was settled before. -/
  sequence : Sequence g s order
  /-- What has been settled is settled. -/
  mem_order {vertex : VertexId} : vertex ∈ order ↔ s.IsSettled vertex
  /-- No edge is waiting to be followed. -/
  booked : Booked g taken [] s

namespace Account

/-- At the start nothing is settled, and the source alone was queued. -/
theorem start (hsource : source < g.vertexCount) :
    Account g source [] [] (.start g.vertexCount source : State α) where
  coherent := .start hsource
  sequence := trivial
  mem_order := by simp [not_isSettled_start]
  booked := by
    refine ⟨by simp [State.start, Queue.single, Queue.toList], fun {entry id} he hvia => ?_,
      List.nodup_nil⟩
    obtain rfl := (mem_queue_start (n := g.vertexCount)).1 he
    cases hvia

/-- How the queue is arranged makes no difference. -/
theorem rearrange (h : Account g source taken order s) {queue : Queue α}
    (hperm : queue.toList.Perm s.queue.toList) :
    Account g source taken order { s with queue } where
  coherent := h.coherent.withQueue fun _ he => hperm.mem_iff.1 he
  sequence := h.sequence.congr fun _ _ => rfl
  mem_order := h.mem_order
  booked := h.booked.congr (hperm.append_left taken) (fun _ hv => hv) List.nodup_nil nofun

/-- **A visit succeeds and keeps the account.** -/
theorem exists_visit (hg : g.WellFormed) (h : Account g source taken order s) {entry : Entry α}
    {queue : Queue α} (hpop : s.queue.pop? = some (entry, queue)) (target : VertexId) :
    ∃ s', Search.visit g target entry.vertex { s with queue } = some s' ∧
      Account g source (entry :: taken)
        (if s.IsSettled entry.vertex then order else entry.vertex :: order) s' := by
  obtain ⟨s', hvisit, hco, hlater, -, hfrom⟩ := h.coherent.exists_visit hg hpop target
  obtain ⟨s'', hvisit', hbooked, hsettled⟩ := h.booked.exists_visit hg h.coherent hpop target
  obtain rfl := Option.some.inj (hvisit.symm.trans hvisit')
  have hearlier : Sequence g s' order :=
    h.sequence.congr fun v hv => hlater.arrival? (h.mem_order.1 hv)
  refine ⟨s', hvisit, hco, ?_, ?_, hbooked⟩
  · split
    · exact hearlier
    · next hopen =>
      refine ⟨fun hmem => hopen (h.mem_order.1 hmem), fun a id edge ha hvia hedge => ?_, hearlier⟩
      -- the vertex is settled with the arrival that it had before
      rw [(hfrom hopen).arrival? ((h.coherent.isSettled_closeTaken hpop).2 (.inl rfl))] at ha
      obtain ⟨edge', -, hedge', -, hsource, -⟩ := h.coherent.via ha hvia
      obtain rfl := Option.some.inj (hedge.symm.trans hedge')
      exact h.mem_order.2 hsource
  · intro v
    rw [hsettled]
    split
    · next hstale => rw [h.mem_order, or_iff_right_of_imp fun hv => hv ▸ hstale]
    · rw [List.mem_cons, h.mem_order]

end Account

/-- An account holds all along a course. -/
theorem Course.account (hg : g.WellFormed) (hsource : source < g.vertexCount)
    (h : Course g source target taken order s) : Account g source taken order s := by
  induction h with
  | start => exact .start hsource
  | rearrange _ hperm ih => exact ih.rearrange hperm
  | visit _ _ hpop hvisit ih =>
      obtain ⟨s', hvisit', haccount⟩ := ih.exists_visit hg hpop target
      obtain rfl := Option.some.inj (hvisit'.symm.trans hvisit)
      exact haccount

/-- What a search does is a course of it. -/
theorem Course.exists_of_explore (hg : g.WellFormed) (hsource : source < g.vertexCount)
    (htarget : target < g.vertexCount) (h : Course g source target taken order s) {limit : Nat}
    (hexplore : explore g target limit s = some last) :
    ∃ taken order, Course g source target taken order last := by
  induction limit generalizing taken order s with
  | zero =>
      obtain rfl := Option.some.inj hexplore
      exact ⟨taken, order, h⟩
  | succ limit ih =>
      have hs : s.Fits g := (h.account hg hsource).coherent.toFits
      by_cases ht : s.IsSettled target
      · rw [explore_of_isSettled ht] at hexplore
        obtain rfl := Option.some.inj hexplore
        exact ⟨taken, order, h⟩
      cases hpop : s.queue.pop? with
      | none =>
          rw [explore_of_pop?_eq_none hs htarget hpop] at hexplore
          obtain rfl := Option.some.inj hexplore
          exact ⟨taken, order, h⟩
      | some popped =>
          rw [explore_of_pop? hs htarget ht hpop, Option.bind_eq_some_iff] at hexplore
          obtain ⟨next, hnext, hexplore⟩ := hexplore
          exact ih (h.visit ht hpop hnext) hexplore

/-! ## Both loops end -/

/-- What holds of a search at every point of its course. -/
structure InBounds (g : Graph α) (source target : VertexId) (taken : List (Entry α))
    (order : List VertexId) (s : State α) : Prop where
  /-- No vertex is settled twice. -/
  settled_once : order.Nodup
  /-- What has been settled is settled. -/
  mem_order {vertex : VertexId} : vertex ∈ order ↔ s.IsSettled vertex
  /-- No edge queues two entries, those that have been taken included. -/
  queued_once : ((taken ++ s.queue.toList).map Entry.via).Nodup
  /-- No more entries are taken than there are edges, and one for the start. -/
  length_taken_le : taken.length ≤ g.edgeCount + 1
  /-- The source is reached by no edge. -/
  arrival_source : s.arrival? source = some ⟨zero, none⟩
  /-- What comes out of the queue next can be visited. -/
  exists_visit {entry : Entry α} {queue : Queue α} : s.queue.pop? = some (entry, queue) →
    ∃ s', visit g target entry.vertex { s with queue } = some s'
  /-- Followed backwards from a settled vertex, last edges lead to the source in fewer steps than
  there are vertices. They pass no vertex twice, and pass vertices in the order of settling, the
  last one first. -/
  exists_way {vertex : VertexId} : s.IsSettled vertex → ∃ a way, s.arrival? vertex = some a ∧
    g.Way source vertex a.time way ∧ Traced g s vertex way ∧
    wayTo g s g.vertexCount vertex [] = some way ∧ way.length ≤ g.vertexCount - 1 ∧
    (g.visited source way).Nodup ∧ (g.visited source way).reverse.Sublist order

/-- The bounds hold all along a course. -/
theorem Account.inBounds (hg : g.WellFormed) (h : Account g source taken order s)
    (target : VertexId) : InBounds g source target taken order s where
  settled_once := h.sequence.nodup
  mem_order := h.mem_order
  queued_once := h.booked.once
  length_taken_le := by
    have hle := h.booked.length_le
    rw [List.length_append] at hle
    omega
  arrival_source := h.coherent.arrival_source
  exists_visit hpop := by
    obtain ⟨s', hvisit, -⟩ := h.exists_visit hg hpop target
    exact ⟨s', hvisit⟩
  exists_way {vertex} hv := by
    obtain ⟨a, way, ha, hway, hto, hnodup⟩ := h.coherent.exists_wayTo hv
    obtain ⟨way', hsame, htraced⟩ := h.coherent.exists_traced_of_wayTo ha hway
    obtain rfl : way = way' := by simpa using hsame
    have hsub : (g.visited source way).reverse.Sublist order :=
      htraced.sublist h.sequence h.coherent.eq_source (h.mem_order.2 hv)
    refine ⟨a, way, ha, hto, htraced, hway, ?_, hnodup, hsub⟩
    -- the vertices passed are different vertices of the graph
    have hrange : g.visited source way ⊆ List.range g.vertexCount := by
      intro u hu
      have hu : u ∈ order := hsub.subset (List.mem_reverse.2 hu)
      exact List.mem_range.2 (h.coherent.lt_of_isSettled (h.mem_order.1 hu))
    have hle := (List.subperm_of_subset hnodup hrange).length_le
    rw [htraced.length_visited, List.length_range] at hle
    omega

/-- **Both loops of a search end**, whatever the weights are. Between two of `n` vertices joined by
any edges, and however the queue is arranged on the way, a search stays in bounds: no vertex is
settled twice, no edge queues two entries, no more entries are taken than there are edges and one,
and from a settled vertex last edges lead back to the source in fewer than `n` steps. The program's
own course is over with its target settled or nothing queued, and it answers. -/
theorem shortest_ends {n : Nat} {edges : List (Edge α)}
    (hedges : ∀ edge ∈ edges, edge.source < n ∧ edge.target < n) {source target : VertexId}
    (hsource : source < n) (htarget : target < n) :
    ∃ g, Graph.ofEdges? n edges = some g ∧ g.vertexCount = n ∧ g.edges.toList = edges ∧
      (∀ taken order s, Course g source target taken order s →
        InBounds g source target taken order s) ∧
      ∃ taken order s, Course g source target taken order s ∧
        explore g target (edges.length + 1) (.start n source) = some s ∧
        ((s.IsSettled target ∧ ∃ a way, s.arrival? target = some a ∧
            wayTo g s n target [] = some way ∧ shortest g source target = .value (a.time, way)) ∨
          (s.queue.pop? = none ∧ ¬ s.IsSettled target ∧
            shortest g source target = .failed .unreachable)) := by
  obtain ⟨g, hbuilt, hg, hcount, hlist⟩ := Graph.exists_ofEdges? hedges
  have hedgeCount : g.edgeCount = edges.length := by rw [← hlist]; rfl
  subst hcount
  refine ⟨g, hbuilt, rfl, hlist,
    fun taken order s hcourse => (hcourse.account hg hsource).inBounds hg target, ?_⟩
  obtain ⟨s, hlast, hs, -, hend⟩ := exists_last hsource htarget (Q := fun _ => True) trivial
    fun s entry queue hs _ _ hpop => by
      obtain ⟨s', hvisit, hs', -, hload, -⟩ := hs.exists_visit hg hpop target
      exact ⟨s', hvisit, hs', hload, trivial⟩
  obtain ⟨taken, order, hcourse⟩ := Course.start.exists_of_explore hg hsource htarget hlast
  refine ⟨taken, order, s, hcourse, hedgeCount ▸ hlast, ?_⟩
  by_cases ht : s.IsSettled target
  · obtain ⟨a, way, ha, hway, -, -⟩ := hs.exists_wayTo ht
    exact .inl ⟨ht, a, way, ha, hway, shortest_of_wayTo hsource hlast ht ha hway⟩
  · exact .inr ⟨Queue.pop?_eq_none_iff.2 (hend.resolve_left ht), ht,
      shortest_of_not_isSettled hsource htarget hlast hs ht⟩

/-- A tangle with an edge whose weight compares to nothing. -/
def snarl : List (Edge Float) := tangle ++ [⟨0, 3, 0.0 / 0.0⟩]

/-- Around a self loop and a cycle of weight zero, and past weights that are infinite or undefined,
a search comes to its target and back to its source. -/
theorem shortest_ends_snarl : ∃ g taken order s, Graph.ofEdges? 4 snarl = some g ∧
    Course g 0 2 taken order s ∧ InBounds g 0 2 taken order s ∧ s.IsSettled 2 ∧
    wayTo g s 4 2 [] = some [1, 3] := by
  have hedges : ∀ edge ∈ snarl, edge.source < 4 ∧ edge.target < 4 := by decide +kernel
  have hsource : 0 < 4 := by decide
  have htarget : 2 < 4 := by decide
  obtain ⟨g, hg, -, -, hbounds, taken, order, s, hcourse, -, hend⟩ :=
    shortest_ends hedges hsource htarget
  have hfound : (Graph.ofEdges? 4 snarl).map (fun g => shortest g 0 2) =
      some (.value (2, [1, 3])) := by decide +kernel
  have hshortest : shortest g 0 2 = .value (2, [1, 3]) := by simpa [hg] using hfound
  refine ⟨g, taken, order, s, hg, hcourse, hbounds _ _ _ hcourse, ?_⟩
  rcases hend with ⟨ht, a, way, -, hway, hvalue⟩ | ⟨-, -, hnone⟩
  · rw [hshortest, Outcome.value.injEq, Prod.mk.injEq] at hvalue
    exact ⟨ht, hvalue.2 ▸ hway⟩
  · rw [hshortest] at hnone
    cases hnone

end BusNetwork.Search
