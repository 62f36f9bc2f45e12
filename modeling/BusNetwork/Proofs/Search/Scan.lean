import BusNetwork.Proofs.Search.Assembled
import BusNetwork.Proofs.Search.Live
import Mathlib.Logic.Function.Iterate

/-!
# A search without a queue

What is settled next can be found without a queue: of all vertices that are reached and not settled
it is the first, by time, then by last edge, then by vertex. `Labels.scan` searches in this way, one
vertex to a round, with a scan over all vertices in each. **The search with a queue answers exactly
what it does** (`shortest_eq_scan`), the same way with the same total, whatever the graph is and
however the queue arranges its entries.

* `Labels`, `Labels.round` — what is known of the vertices, and one round of the scanning search.
* `Run` — the states that a search can come to if the queue is rearranged at will.
* `InStep` — the invariant: what a state knows is what some rounds of the scanning search know, as
  many as there are settled vertices. A stale entry takes no round, any other entry takes one
  (`InStep.visit`).
-/

set_option linter.unusedSectionVars false

namespace BusNetwork.Search

open Quantity

variable {α : Type}

/-! ## Searching by scans -/

/-- What is known of each vertex. -/
@[ext]
structure Labels (α : Type) where
  /-- The best known arrival. -/
  arrival : VertexId → Option (Arrival α)
  /-- Whether the vertex is settled. -/
  settled : VertexId → Bool

/-- The entry of a vertex that is reached and not settled. -/
def Labels.open? (l : Labels α) (vertex : VertexId) : Option (Entry α) :=
  if l.settled vertex then none else (l.arrival vertex).map (·.entry vertex)

/-- Mark a vertex as settled. -/
def Labels.close (l : Labels α) (vertex : VertexId) : Labels α :=
  { l with settled := Function.update l.settled vertex true }

variable [Quantity α]

/-- The first of some entries. -/
def Entry.least? : List (Entry α) → Option (Entry α)
  | [] => none
  | entry :: rest =>
    match least? rest with
    | none => some entry
    | some best => if entry.before best then some entry else some best

namespace Labels

/-- In the beginning only the source is reached. -/
def start (source : VertexId) : Labels α :=
  ⟨fun vertex => if vertex = source then some ⟨zero, none⟩ else none, fun _ => false⟩

/-- The first of the vertices that are reached and not settled. -/
def next? (g : Graph α) (l : Labels α) : Option (Entry α) :=
  Entry.least? ((List.range g.vertexCount).filterMap l.open?)

/-- Follow an edge out of a vertex: the other end is reached anew if it is not settled and the way
there betters what is known. -/
def relax (g : Graph α) (vertex : VertexId) (l : Labels α) (id : EdgeId) : Labels α :=
  match g.edges[id]?, l.arrival vertex with
  | some edge, some here =>
    if !l.settled edge.target && betters (here.time + edge.weight) id (l.arrival edge.target) then
      { l with arrival :=
          Function.update l.arrival edge.target (some ⟨here.time + edge.weight, some id⟩) }
    else l
  | _, _ => l

/-- Settle a vertex and follow the edges that leave it, unless it is the target. -/
def settle (g : Graph α) (target : VertexId) (l : Labels α) (vertex : VertexId) : Labels α :=
  if vertex = target then l.close vertex
  else ((List.range g.edgeCount).filter (g.leaves vertex)).foldl (relax g vertex) (l.close vertex)

/-- Settle the first of the vertices that are reached and not settled. -/
def round (g : Graph α) (target : VertexId) (l : Labels α) : Labels α :=
  if l.settled target then l
  else
    match l.next? g with
    | none => l
    | some entry => l.settle g target entry.vertex

/-- Search by scans, in as many rounds as there are vertices. -/
def scan (g : Graph α) (source target : VertexId) : Labels α :=
  (round g target)^[g.vertexCount] (start source)

/-- The edges of the way to a vertex, in front of those of the way on from it. -/
def wayTo (g : Graph α) (l : Labels α) : Nat → VertexId → List EdgeId → List EdgeId
  | 0, _, onward => onward
  | limit + 1, vertex, onward =>
    match (l.arrival vertex).bind (·.via) with
    | none => onward
    | some id =>
      match g.edges[id]? with
      | none => onward
      | some edge => wayTo g l limit edge.source (id :: onward)

/-- What is known of the target in the end: the total and the edges of a way, if it is settled. -/
def answer (g : Graph α) (l : Labels α) (target : VertexId) : Option (α × List EdgeId) :=
  if l.settled target then
    (l.arrival target).map fun a => (a.time, l.wayTo g g.vertexCount target [])
  else none

end Labels

/-! ## The first of some entries -/

variable [OrderedQuantity α]

/-- A number comes not after itself. -/
theorem Entry.notAfter_self {entry : Entry α} (h : IsNumber entry.time) : entry.NotAfter entry :=
  (notAfter_iff h h).2 (.inr ⟨h, .inr ⟨rfl, Nat.le_refl _⟩⟩)

/-- If there are entries one of them is the first, and comes not after any. -/
theorem Entry.exists_least? {entries : List (Entry α)} (hne : entries ≠ [])
    (hnumber : ∀ entry ∈ entries, IsNumber entry.time) :
    ∃ best, least? entries = some best ∧ best ∈ entries ∧
      ∀ entry ∈ entries, best.NotAfter entry := by
  induction entries with
  | nil => exact absurd rfl hne
  | cons entry rest ih =>
      rw [List.forall_mem_cons] at hnumber
      obtain ⟨hentry, hrest⟩ := hnumber
      cases rest with
      | nil => exact ⟨entry, rfl, List.mem_cons_self, by simpa using notAfter_self hentry⟩
      | cons second rest =>
          obtain ⟨best, hbest, hmem, hfirst⟩ := ih (List.cons_ne_nil _ _) hrest
          have hnum : IsNumber best.time := hrest best hmem
          rw [least?, hbest]
          by_cases hbefore : entry.before best = true
          · refine ⟨entry, if_pos hbefore, List.mem_cons_self, ?_⟩
            rw [List.forall_mem_cons]
            exact ⟨notAfter_self hentry, fun other hother => notAfter_trans hentry hnum
              (hrest other hother) (notAfter_of_before hentry hnum hbefore) (hfirst other hother)⟩
          · refine ⟨best, if_neg hbefore, List.mem_cons_of_mem _ hmem, ?_⟩
            rw [List.forall_mem_cons]
            exact ⟨by rwa [Bool.not_eq_true] at hbefore, hfirst⟩

/-! ## Searching in step -/

variable {g : Graph α} {s s' : State α} {source target vertex : VertexId}

/-- What a state knows of the vertices. -/
def State.labels (s : State α) : Labels α := ⟨s.arrival?, fun vertex => decide (s.IsSettled vertex)⟩

/-- A search and a scan start with the same labels. -/
theorem labels_start (hsource : source < g.vertexCount) :
    (State.start g.vertexCount source : State α).labels = .start source := by
  refine Labels.ext (funext fun v => arrival?_start hsource v) (funext fun v => ?_)
  exact decide_eq_false (not_isSettled_start v)

/-- Closing a vertex closes it among the labels too. -/
theorem labels_close (hs : s.Fits g) (hv : vertex < g.vertexCount) :
    (s.close vertex).labels = s.labels.close vertex := by
  refine Labels.ext rfl (funext fun u => ?_)
  simp only [State.labels, Labels.close, Function.update_apply, hs.isSettled_close hv]
  by_cases hu : u = vertex <;> simp [hu]

/-- Following an edge is the same with a queue as without. -/
theorem labels_relax (hg : g.WellFormed) (hs : Coherent g source s) {id : EdgeId} {edge : Edge α}
    (hedge : g.edges[id]? = some edge) (hsource : s.IsSettled edge.source)
    (hrelax : relax g edge.source s id = some s') :
    s'.labels = s.labels.relax g edge.source id := by
  obtain ⟨here, hhere⟩ := hs.reached hsource
  have ht : edge.target < g.vertexCount := hg.target_lt hedge
  rw [relax_eq hs.toFits hedge ht hhere, Option.some.injEq] at hrelax
  subst hrelax
  have hlabels : s.labels.arrival edge.source = some here := hhere
  simp only [Labels.relax, hedge, hlabels]
  by_cases h : ¬ s.IsSettled edge.target ∧
      betters (here.time + edge.weight) id (s.arrival? edge.target) = true
  · rw [if_pos h, if_pos (by simpa [State.labels] using h)]
    refine Labels.ext (funext fun u => ?_) rfl
    simp only [State.labels, Function.update_apply]
    exact hs.arrival?_reach ht
  · rw [if_neg h, if_neg (by simpa [State.labels] using h)]

/-- A way is looked up with the same result. -/
theorem wayTo_labels {limit : Nat} {onward way : List EdgeId}
    (h : wayTo g s limit vertex onward = some way) :
    s.labels.wayTo g limit vertex onward = way := by
  induction limit generalizing vertex onward with
  | zero => cases h
  | succ limit ih =>
      obtain ⟨arrival, harrival, hrest⟩ := Option.bind_eq_some_iff.1 h
      have hlabel : s.labels.arrival vertex = arrival := by
        simp [State.labels, State.arrival?, harrival]
      simp only [Labels.wayTo, hlabel]
      cases hvia : arrival.bind (·.via) with
      | none =>
          rw [hvia] at hrest
          exact Option.some.inj hrest
      | some id =>
          rw [hvia] at hrest
          obtain ⟨edge, hedge, hway⟩ := Option.bind_eq_some_iff.1 hrest
          simp only [hedge]
          exact ih hway

/-- The scan goes over the arrivals at all vertices that are not settled. -/
theorem mem_open_iff (hs : s.Fits g) {entry : Entry α} :
    entry ∈ (List.range g.vertexCount).filterMap s.labels.open? ↔
      ∃ a, s.arrival? entry.vertex = some a ∧ ¬ s.IsSettled entry.vertex ∧
        a.entry entry.vertex = entry := by
  simp only [List.mem_filterMap, List.mem_range, Labels.open?, State.labels, decide_eq_true_eq]
  constructor
  · rintro ⟨v, -, h⟩
    split at h
    · cases h
    · obtain ⟨a, ha, rfl⟩ := Option.map_eq_some_iff.1 h
      exact ⟨a, ha, ‹_›, rfl⟩
  · rintro ⟨a, ha, hopen, heq⟩
    exact ⟨entry.vertex, hs.lt_of_arrival? ha, by rw [if_neg hopen, ha, Option.map_some, heq]⟩

/-- What the scan goes over is queued. -/
theorem Live.mem_queue_of_open (h : Live g [] s) (hs : s.Fits g) {entry : Entry α}
    (hentry : entry ∈ (List.range g.vertexCount).filterMap s.labels.open?) :
    entry ∈ s.queue.toList := by
  obtain ⟨a, ha, hopen, heq⟩ := (mem_open_iff hs).1 hentry
  exact heq ▸ h.queued ha hopen

/-- **What comes out of the queue is what a scan finds**, unless its vertex is settled. -/
theorem next?_labels (hs : Coherent g source s) (ht : Timely g target [] s) (h : Live g [] s)
    {entry : Entry α} {queue : Queue α} (hpop : s.queue.pop? = some (entry, queue))
    (hv : ¬ s.IsSettled entry.vertex) : s.labels.next? g = some entry := by
  have hperm := Queue.toList_of_pop? hpop
  have htimed := ht.timed hs
  have hqueued : ∀ e ∈ (List.range g.vertexCount).filterMap s.labels.open?,
      e ∈ s.queue.toList := fun _ => h.mem_queue_of_open hs.toFits
  have hentry : entry ∈ (List.range g.vertexCount).filterMap s.labels.open? :=
    (mem_open_iff hs.toFits).2 ⟨_, h.arrival?_of_pop? hs ht hpop hv, hv, rfl⟩
  obtain ⟨best, hbest, hin, hfirst⟩ :=
    Entry.exists_least? (List.ne_nil_of_mem hentry) fun e he => htimed e (hqueued e he)
  rw [Labels.next?, hbest]
  rcases List.mem_cons.1 (hperm.mem_iff.1 (hqueued best hin)) with rfl | hrest
  · rfl
  · -- neither comes before the other, although they were queued by different edges
    exfalso
    have hnodup := (hperm.map (·.via)).nodup_iff.1 h.nodup_vias
    have hvia : best.via ≠ entry.via := fun heq =>
      (List.nodup_cons.1 hnodup).1 (List.mem_map.2 ⟨best, hrest, heq⟩)
    have hnot := (ht.ordered.of_pop? htimed hpop).2 best hrest
    have hnot' := hfirst entry hentry
    rw [Entry.NotAfter] at hnot hnot'
    rcases Entry.before_or_before (htimed _ (hqueued best hin)) (htimed _ (hqueued entry hentry))
      hvia with hbefore | hbefore
    · rw [hnot] at hbefore
      cases hbefore
    · rw [hnot'] at hbefore
      cases hbefore

/-! ## Rounds -/

/-- A state that knows what some rounds of scanning know, as many as there are settled vertices. -/
structure InStep (g : Graph α) (source target : VertexId) (s : State α) : Prop where
  /-- The last edges make a tree. -/
  coherent : Coherent g source s
  /-- Times are in order, and no edge waits to be followed. -/
  timely : Timely g target [] s
  /-- The arrivals are queued as they are. -/
  live : Live g [] s
  /-- What is known is known after as many rounds as there are settled vertices. -/
  rounds : ∃ order : List VertexId, order.Nodup ∧ (∀ v, v ∈ order ↔ s.IsSettled v) ∧
    s.labels = (Labels.round g target)^[order.length] (.start source)

namespace InStep

/-- A search and a scan start in step. -/
theorem start (hsource : source < g.vertexCount) :
    InStep g source target (State.start g.vertexCount source : State α) :=
  ⟨.start hsource, .start hsource, .start hsource,
    [], List.nodup_nil, by simp [not_isSettled_start], labels_start hsource⟩

/-- The entries can be arranged in another order. -/
theorem rearrange (h : InStep g source target s) {queue : Queue α}
    (hperm : queue.toList.Perm s.queue.toList) (hordered : queue.Ordered) :
    InStep g source target { s with queue } := by
  obtain ⟨hco, ht, hlive, hrounds⟩ := h
  refine ⟨hco.withQueue fun e he => hperm.mem_iff.1 he, ?_, hlive.perm hperm, hrounds⟩
  refine ⟨hordered, ht.amount, fun ha hv => ?_, fun he => ht.late (hperm.mem_iff.1 he),
    ht.settledFirst, ht.followed⟩
  obtain ⟨e, he, hentry⟩ := ht.queued ha hv
  exact ⟨e, hperm.mem_iff.2 he, hentry⟩

end InStep

/-- How far a visit to a vertex has come in following the edges that leave it. -/
structure Midway (g : Graph α) (target : VertexId) (before : State α) (vertex : VertexId)
    (waiting : List EdgeId) (s : State α) : Prop where
  /-- No edge waits twice. -/
  nodup : waiting.Nodup
  /-- The arrivals are queued as they are. -/
  live : Live g waiting s
  /-- The vertex was settled in addition. -/
  isSettled_iff (v : VertexId) : s.IsSettled v ↔ v = vertex ∨ before.IsSettled v
  /-- Following the edges that wait leads to what the scanning search knows after settling the
  vertex, or to what was known if it was settled before. -/
  labels : waiting.foldl (Labels.relax g vertex) s.labels =
    if before.IsSettled vertex then before.labels else before.labels.settle g target vertex

namespace Midway

variable {entry : Entry α} {queue : Queue α} {before : State α} {id : EdgeId}
  {waiting : List EdgeId}

/-- An entry of a settled vertex is dropped, and nothing else has to be done for it. -/
theorem stale (h : Live g [] s) (hpop : s.queue.pop? = some (entry, queue))
    (hstale : s.IsSettled entry.vertex) :
    Midway g target s entry.vertex [] { s with queue } := by
  have hsettled : ∀ v, s.IsSettled v ↔ v = entry.vertex ∨ s.IsSettled v := fun v =>
    ⟨.inr, fun hv => hv.elim (fun heq => heq ▸ hstale) fun hv => hv⟩
  exact ⟨List.nodup_nil, h.of_pop? hpop rfl (fun _ => rfl) hsettled (by simp), hsettled,
    (if_pos hstale).symm⟩

/-- A vertex that was taken from the queue is closed, and the edges that leave it wait to be
followed. -/
theorem closed (hg : g.WellFormed) (hs : Coherent g source s) (h : Live g [] s)
    (hpop : s.queue.pop? = some (entry, queue)) (hopen : ¬ s.IsSettled entry.vertex)
    {ids : Array EdgeId} (hids : g.incidence[entry.vertex]? = some ids) :
    Midway g target s entry.vertex (if entry.vertex = target then [] else ids.toList)
      (State.close { s with queue } entry.vertex) := by
  obtain ⟨hlt, -⟩ := Array.getElem?_eq_some_iff.1 hids
  have hsettled : ∀ v, (State.close { s with queue } entry.vertex).IsSettled v ↔
      v = entry.vertex ∨ s.IsSettled v := fun _ => hs.isSettled_closeTaken hpop
  have hlabels : (State.close { s with queue } entry.vertex).labels =
      s.labels.close entry.vertex := labels_close (hs.toFits.withQueue queue) hlt
  refine ⟨?_, h.of_pop? hpop rfl (fun _ => rfl) hsettled ?_, hsettled, ?_⟩
  · split
    · exact List.nodup_nil
    · exact hg.nodup_incidence hids
  · intro id hid edge hedge
    split at hid
    · cases hid
    · obtain ⟨edge', hedge', hsource⟩ := (hg.mem_incidence hids).1 hid
      obtain rfl := Option.some.inj (hedge.symm.trans hedge')
      exact hsource ▸ hopen
  · rw [if_neg hopen, hlabels, Labels.settle, ← hg.toList_incidence hids]
    split <;> rfl

/-- Following one of the edges that wait leaves the others waiting. -/
theorem relax (hg : g.WellFormed) (hw : g.NoNegativeWeight) (hs : Coherent g source s)
    (ht : Timely g target (id :: waiting) s) (h : Midway g target before vertex (id :: waiting) s)
    {edge : Edge α} (hedge : g.edges[id]? = some edge) (hvertex : edge.source = vertex)
    (hsource : s.IsSettled edge.source)
    (hrelax : Search.relax g edge.source s id = some s') :
    Midway g target before vertex waiting s' := by
  subst hvertex
  obtain ⟨next, hnext, -, -, hsame, -⟩ := hs.relax hg hedge hsource
  obtain rfl := Option.some.inj (hnext.symm.trans hrelax)
  refine ⟨(List.nodup_cons.1 h.nodup).2, h.live.relax hg hw hs ht h.nodup hedge hsource hrelax,
    fun v => (hsame v).trans (h.isSettled_iff v), ?_⟩
  rw [labels_relax hg hs hedge hsource hrelax, ← h.labels, List.foldl_cons]

end Midway

namespace InStep

variable {entry : Entry α} {queue : Queue α}

/-- **A visit keeps the search in step.** It takes no round if its vertex is settled, and otherwise
one. -/
theorem exists_visit (hg : g.WellFormed) (hw : g.NoNegativeWeight) (h : InStep g source target s)
    (ht : ¬ s.IsSettled target) (hpop : s.queue.pop? = some (entry, queue)) :
    ∃ s', visit g target entry.vertex { s with queue } = some s' ∧ s'.load g < s.load g ∧
      InStep g source target s' := by
  obtain ⟨hs, htimely, hlive, order, hnodup, hmem, hrounds⟩ := h
  obtain ⟨s', hvisit, hs', hload, htimely', hmid⟩ := htimely.visitWith hg hw hs hpop
    (Midway g target s entry.vertex) (Midway.stale hlive hpop)
    (fun hopen ids hids => Midway.closed hg hs hlive hpop hopen hids)
    (fun id rest s₁ s₂ edge hedge hsource hs₁ hopen ht₁ _ hmid hrelax =>
      hmid.relax hg hw hs₁ ht₁ hedge hsource hopen hrelax)
  refine ⟨s', hvisit, hload, hs', htimely', hmid.live, ?_⟩
  have hlabels : s'.labels = _ := hmid.labels
  by_cases hstale : s.IsSettled entry.vertex
  · rw [if_pos hstale] at hlabels
    refine ⟨order, hnodup, fun v => ?_, hlabels.trans hrounds⟩
    rw [hmem, hmid.isSettled_iff]
    exact ⟨.inr, fun hv => hv.elim (fun heq => heq ▸ hstale) fun hv => hv⟩
  · rw [if_neg hstale] at hlabels
    have hnew : entry.vertex ∉ order := fun hin => hstale ((hmem _).1 hin)
    refine ⟨entry.vertex :: order, List.nodup_cons.2 ⟨hnew, hnodup⟩, fun v => ?_, ?_⟩
    · rw [List.mem_cons, hmem, hmid.isSettled_iff]
    · have htarget : ¬ s.labels.settled target = true := by simpa [State.labels] using ht
      rw [List.length_cons, Function.iterate_succ_apply', ← hrounds, Labels.round, if_neg htarget,
        next?_labels hs htimely hlive hpop hstale]
      exact hlabels

/-- When a search is over no further round changes what is known. -/
theorem labels_eq (h : InStep g source target s)
    (hend : s.IsSettled target ∨ s.queue.toList = []) : s.labels = .scan g source target := by
  obtain ⟨hs, -, hlive, order, hnodup, hmem, hrounds⟩ := h
  have hfixed : Labels.round g target s.labels = s.labels := by
    rw [Labels.round]
    split
    · rfl
    · rename_i ht
      have hempty : s.queue.toList = [] := hend.resolve_left fun hsettled => ht (by
        simpa [State.labels] using hsettled)
      have hnone : (List.range g.vertexCount).filterMap s.labels.open? = [] := by
        refine List.eq_nil_iff_forall_not_mem.2 fun e he => ?_
        have hqueued := hlive.mem_queue_of_open hs.toFits he
        rw [hempty] at hqueued
        cases hqueued
      rw [Labels.next?, hnone, Entry.least?]
  have hsub : order ⊆ List.range g.vertexCount := fun v hv =>
    List.mem_range.2 (hs.lt_of_isSettled ((hmem v).1 hv))
  have hle : order.length ≤ g.vertexCount := by
    simpa using (List.subperm_of_subset hnodup hsub).length_le
  obtain ⟨more, hmore⟩ := Nat.exists_eq_add_of_le hle
  rw [Labels.scan, hmore, Nat.add_comm, Function.iterate_add_apply, ← hrounds,
    Function.iterate_fixed hfixed]

end InStep

/-! ## Whatever the queue looks like -/

/-- The states that a search can come to if between two visits the entries of the queue can be
arranged in another way. -/
inductive Run (g : Graph α) (source target : VertexId) : State α → Prop where
  /-- A search starts at its source. -/
  | start : Run g source target (.start g.vertexCount source)
  /-- The queue is arranged in another way, in which it is ordered as well. -/
  | rearrange {s : State α} {queue : Queue α} : Run g source target s →
    queue.toList.Perm s.queue.toList → queue.Ordered → Run g source target { s with queue }
  /-- What comes out of the queue is visited, as long as the target is not settled. -/
  | visit {s s' : State α} {entry : Entry α} {queue : Queue α} : Run g source target s →
    ¬ s.IsSettled target → s.queue.pop? = some (entry, queue) →
    visit g target entry.vertex { s with queue } = some s' → Run g source target s'

/-- However its queue is arranged, a search is in step. -/
theorem Run.inStep (hg : g.WellFormed) (hw : g.NoNegativeWeight) (hsource : source < g.vertexCount)
    (h : Run g source target s) : InStep g source target s := by
  induction h with
  | start => exact .start hsource
  | rearrange _ hperm hordered ih => exact ih.rearrange hperm hordered
  | visit _ ht hpop hvisit ih =>
      obtain ⟨s', hvisit', -, hstep⟩ := ih.exists_visit hg hw ht hpop
      obtain rfl := Option.some.inj (hvisit'.symm.trans hvisit)
      exact hstep

/-- A search with a queue answers what the scanning search does. -/
theorem shortest_eq_answer (hg : g.WellFormed) (hw : g.NoNegativeWeight)
    (hsource : source < g.vertexCount) (htarget : target < g.vertexCount) :
    shortest g source target =
      match (Labels.scan g source target).answer g target with
      | some found => .value found
      | none => .failed .unreachable := by
  obtain ⟨s, hlast, hs, hstep, hend⟩ := exists_last hsource htarget
    (Q := InStep g source target) (.start hsource)
    (fun s entry queue _ hstep ht hpop => by
      obtain ⟨s', hvisit, hload, hstep'⟩ := hstep.exists_visit hg hw ht hpop
      exact ⟨s', hvisit, hstep'.coherent, hload, hstep'⟩)
  rw [← hstep.labels_eq hend, Labels.answer]
  by_cases ht : s.IsSettled target
  · obtain ⟨a, way, ha, hway, -, -⟩ := hs.exists_wayTo ht
    have hsettled : s.labels.settled target = true := decide_eq_true ht
    have harrival : s.labels.arrival target = some a := ha
    rw [if_pos hsettled, harrival, Option.map_some, wayTo_labels hway]
    exact shortest_of_wayTo hsource hlast ht ha hway
  · have hsettled : ¬ s.labels.settled target = true := by simpa [State.labels] using ht
    rw [if_neg hsettled]
    exact shortest_of_not_isSettled hsource htarget hlast hs ht

/-- **The queue changes nothing but the speed.** Between two of `n` vertices joined by edges whose
weights are amounts the search with a queue and the search by scans answer the same. However the
queue is arranged on the way: no two of its entries are alike; what comes out tells the arrival at
its vertex as it is, unless the vertex is settled; each visit succeeds and leaves less to do; and
when the search is over it knows what the search by scans knows. -/
theorem shortest_eq_scan {n : Nat} {edges : List (Edge α)}
    (hedges : ∀ edge ∈ edges, edge.source < n ∧ edge.target < n ∧ AtMost zero edge.weight)
    {source target : VertexId} (hsource : source < n) (htarget : target < n) :
    ∃ g, Graph.ofEdges? n edges = some g ∧
      (shortest g source target =
        match (Labels.scan g source target).answer g target with
        | some found => .value found
        | none => .failed .unreachable) ∧
      ∀ s, Run g source target s →
        (s.queue.toList.Pairwise fun a b => a.before b = true ∨ b.before a = true) ∧
        (∀ entry queue, s.queue.pop? = some (entry, queue) →
          (¬ s.IsSettled entry.vertex →
            s.arrival? entry.vertex = some ⟨entry.time, entry.via⟩) ∧
          (¬ s.IsSettled target → ∃ s', visit g target entry.vertex { s with queue } = some s' ∧
            s'.load g < s.load g)) ∧
        (s.IsSettled target ∨ s.queue.pop? = none → s.labels = .scan g source target) := by
  obtain ⟨g, hbuilt, hg, hcount, hlist⟩ :=
    Graph.exists_ofEdges? fun edge hedge => ⟨(hedges edge hedge).1, (hedges edge hedge).2.1⟩
  rw [← hcount] at hsource htarget
  have hw : g.NoNegativeWeight := by
    intro id edge hedge _
    rw [← Array.getElem?_toList, hlist] at hedge
    exact (hedges edge (List.mem_of_getElem? hedge)).2.2
  refine ⟨g, hbuilt, shortest_eq_answer hg hw hsource htarget, fun s hrun => ?_⟩
  have hstep := hrun.inStep hg hw hsource
  refine ⟨hstep.live.pairwise hstep.coherent hstep.timely, fun entry queue hpop => ⟨?_, ?_⟩, ?_⟩
  · exact hstep.live.arrival?_of_pop? hstep.coherent hstep.timely hpop
  · intro ht
    obtain ⟨s', hvisit, hload, -⟩ := hstep.exists_visit hg hw ht hpop
    exact ⟨s', hvisit, hload⟩
  · rw [Queue.pop?_eq_none_iff]
    exact hstep.labels_eq

/-- In the tangle both searches find the first of the parallel edges and half of the cycle. -/
theorem shortest_eq_scan_tangle : ∃ g, Graph.ofEdges? 4 tangle = some g ∧
    (Labels.scan g 0 2).answer g 2 = some (2, [1, 3]) ∧ shortest g 0 2 = .value (2, [1, 3]) := by
  have hedges : ∀ edge ∈ tangle, edge.source < 4 ∧ edge.target < 4 ∧ AtMost zero edge.weight := by
    decide +kernel
  have hsource : 0 < 4 := by decide
  have htarget : 2 < 4 := by decide
  obtain ⟨g, hg, hshortest, -⟩ := shortest_eq_scan hedges hsource htarget
  have hscan : (Graph.ofEdges? 4 tangle).map (fun g => (Labels.scan g 0 2).answer g 2) =
      some (some (2, [1, 3])) := by decide +kernel
  have hfound : (Labels.scan g 0 2).answer g 2 = some (2, [1, 3]) := by simpa [hg] using hscan
  refine ⟨g, hg, hfound, ?_⟩
  rw [hshortest, hfound]

end BusNetwork.Search
