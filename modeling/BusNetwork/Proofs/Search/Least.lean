import BusNetwork.Proofs.Search.Queue
import BusNetwork.Proofs.Search.Tree

/-!
# The least total

**What a search answers is least**: its total is at most the total of every way to the target, and
it answers that there is none only if no way to the target has a finite total. Of the numbers
nothing but `OrderedQuantity` is used, so sums may round; and weights that are no numbers may occur,
as no total they are part of is a number.

* `Timely` — the invariant. Settled vertices are no later than reached ones, what is reached and not
  settled is queued with its time, and **every edge out of a settled vertex has been followed**, but
  for those still `waiting` and those that leave the target.
* `Timely.step` — following an edge keeps it; `Timely.visit` — so does a visit.
* `Timely.frontier` — along a way with a finite total there is always a vertex that is reached no
  later than the total, and that is the last of the way or not yet settled.
-/

set_option linter.unusedSectionVars false

namespace BusNetwork.Search

open Quantity

variable {α : Type} [Quantity α] {g : Graph α} {s s' : State α} {source target : VertexId}

/-- How far a search has come in time, but for the edges that wait to be followed. -/
structure Timely (g : Graph α) (target : VertexId) (waiting : List EdgeId) (s : State α) :
    Prop where
  /-- The queue is in order. -/
  ordered : s.queue.Ordered
  /-- Times of arrival are finite amounts. -/
  amount {v : VertexId} {a : Arrival α} : s.arrival? v = some a →
    AtMost zero a.time ∧ isFinite a.time = true
  /-- What is reached and not settled is queued with its time. -/
  queued {v : VertexId} {a : Arrival α} : s.arrival? v = some a → ¬ s.IsSettled v →
    ∃ entry ∈ s.queue.toList, entry.vertex = v ∧ entry.time = a.time
  /-- No queued time is before the arrival. -/
  late {entry : Entry α} {a : Arrival α} : entry ∈ s.queue.toList →
    s.arrival? entry.vertex = some a → AtMost a.time entry.time
  /-- Settled vertices are no later than reached ones. -/
  settledFirst {u v : VertexId} {a b : Arrival α} : s.IsSettled u → ¬ s.IsSettled v →
    s.arrival? u = some a → s.arrival? v = some b → AtMost a.time b.time
  /-- The other end of an edge that was followed is reached no later than by that edge. -/
  followed {id : EdgeId} {edge : Edge α} {here : Arrival α} : g.edges[id]? = some edge →
    s.IsSettled edge.source → edge.source ≠ target → id ∉ waiting →
    s.arrival? edge.source = some here → isFinite (here.time + edge.weight) = true →
    ∃ there, s.arrival? edge.target = some there ∧ AtMost there.time (here.time + edge.weight)

/-- No settled vertex is later than a given one. -/
def Latest (s : State α) (vertex : VertexId) : Prop :=
  ∀ {u : VertexId} {a b : Arrival α}, s.IsSettled u → s.arrival? u = some a →
    s.arrival? vertex = some b → AtMost a.time b.time

variable [OrderedQuantity α]

/-- A vertex is reached for the first time at any time below infinity. -/
theorem betters_none {time : α} {id : EdgeId} : betters time id none = isBelowInfinity time := rfl

/-- A time that betters a known one is at most the known one. -/
theorem atMost_of_betters {time : α} {id : EdgeId} {known : Arrival α}
    (h : betters time id (some known) = true) : AtMost time known.time := by
  simp only [betters, Bool.or_eq_true, decide_eq_true_eq, Bool.and_eq_true] at h
  exact h.imp (fun hlt => hlt) And.left

/-- A number that does not better a known time is not before it. -/
theorem atMost_of_not_betters {time : α} {id : EdgeId} {known : Arrival α}
    (htime : IsNumber time) (hknown : IsNumber known.time)
    (h : ¬ betters time id (some known) = true) : AtMost known.time time := by
  refine atMost_of_not_lt hknown htime fun hlt => h ?_
  simp [betters, hlt]

namespace Timely

variable {id : EdgeId} {waiting : List EdgeId}

/-- All queued times are numbers. -/
theorem timed (hs : Coherent g source s) (h : Timely g target waiting s) :
    s.queue.Timed := by
  intro entry he
  obtain ⟨a, ha⟩ := hs.queued he
  exact (h.late he ha).right

/-- A search starts in time. -/
theorem start (hsource : source < g.vertexCount) :
    Timely g target [] (State.start g.vertexCount source : State α) := by
  have harrival : ∀ {v : VertexId} {a : Arrival α},
      (State.start g.vertexCount source).arrival? v = some a → v = source ∧ a = ⟨zero, none⟩ := by
    intro v a ha
    rw [arrival?_start hsource] at ha
    split at ha
    · exact ⟨‹_›, (Option.some.inj ha).symm⟩
    · cases ha
  refine ⟨.single _, ?_, ?_, ?_, ?_, ?_⟩
  · intro v a ha
    obtain ⟨-, rfl⟩ := harrival ha
    exact ⟨zero_atMost_zero, OrderedQuantity.isFinite_zero⟩
  · intro v a ha _
    obtain ⟨rfl, rfl⟩ := harrival ha
    exact ⟨_, mem_queue_start.2 rfl, rfl, rfl⟩
  · intro entry a he ha
    obtain rfl := mem_queue_start.1 he
    obtain ⟨-, rfl⟩ := harrival ha
    exact zero_atMost_zero
  · exact fun hu => absurd hu (not_isSettled_start _)
  · exact fun _ hu => absurd hu (not_isSettled_start _)

/-- A stale entry can be dropped. -/
theorem withQueue (hs : Coherent g source s) (h : Timely g target [] s) {entry : Entry α}
    {queue : Queue α} (hpop : s.queue.pop? = some (entry, queue))
    (hstale : s.IsSettled entry.vertex) : Timely g target [] { s with queue } := by
  have hperm := Queue.toList_of_pop? hpop
  refine ⟨(h.ordered.of_pop? (h.timed hs) hpop).1, h.amount, ?_, ?_, h.settledFirst, h.followed⟩
  · intro v a ha hv
    obtain ⟨e, he, hvertex, htime⟩ := h.queued ha hv
    rcases List.mem_cons.1 (hperm.mem_iff.1 he) with rfl | he
    · exact absurd (hvertex ▸ hstale) hv
    · exact ⟨e, he, hvertex, htime⟩
  · intro e a he ha
    exact h.late (hperm.mem_iff.2 (List.mem_cons_of_mem _ he)) ha

/-- The vertex of the entry that comes out is no later than any that is not settled. -/
theorem atMost_of_pop? (hs : Coherent g source s)
    (h : Timely g target waiting s) {entry : Entry α} {queue : Queue α}
    (hpop : s.queue.pop? = some (entry, queue)) {v : VertexId} {a b : Arrival α}
    (ha : s.arrival? entry.vertex = some a) (hb : s.arrival? v = some b)
    (hv : ¬ s.IsSettled v) : AtMost a.time b.time := by
  have hperm := Queue.toList_of_pop? hpop
  have hfirst : entry ∈ s.queue.toList := hperm.mem_iff.2 List.mem_cons_self
  have htimed := h.timed hs
  obtain ⟨e, he, rfl, htime⟩ := h.queued hb hv
  rw [← htime]
  apply (h.late hfirst ha).trans
  rcases List.mem_cons.1 (hperm.mem_iff.1 he) with rfl | he'
  · exact (htimed e hfirst).atMost_self
  · exact ((h.ordered.of_pop? htimed hpop).2 e he').atMost (htimed _ hfirst) (htimed e he)

/-- The vertex that comes out can be closed. The edges that leave it wait, unless it is the
target. -/
theorem close (hg : g.WellFormed) (hs : Coherent g source s) (h : Timely g target [] s)
    {entry : Entry α} {queue : Queue α} (hpop : s.queue.pop? = some (entry, queue))
    {ids : Array EdgeId} (hids : g.incidence[entry.vertex]? = some ids) :
    Timely g target (if entry.vertex = target then [] else ids.toList)
      (State.close { s with queue } entry.vertex) := by
  have hperm := Queue.toList_of_pop? hpop
  have hclose : ∀ {u}, (State.close { s with queue } entry.vertex).IsSettled u ↔
      u = entry.vertex ∨ s.IsSettled u := hs.isSettled_closeTaken hpop
  refine ⟨(h.ordered.of_pop? (h.timed hs) hpop).1, h.amount, ?_, ?_, ?_, ?_⟩
  · intro v a ha hv
    rw [hclose, not_or] at hv
    obtain ⟨e, he, hvertex, htime⟩ := h.queued ha hv.2
    rcases List.mem_cons.1 (hperm.mem_iff.1 he) with rfl | he
    · exact absurd hvertex.symm hv.1
    · exact ⟨e, he, hvertex, htime⟩
  · intro e a he ha
    exact h.late (hperm.mem_iff.2 (List.mem_cons_of_mem _ he)) ha
  · intro u v a b hu hv ha hb
    rw [hclose, not_or] at hv
    rcases hclose.1 hu with rfl | hu
    · exact h.atMost_of_pop? hs hpop ha hb hv.2
    · exact h.settledFirst hu hv.2 ha hb
  · intro id edge here hedge hsource hne hid hhere hfinite
    rcases hclose.1 hsource with heq | hsettled
    · rw [if_neg (heq ▸ hne)] at hid
      exact absurd ((hg.mem_incidence hids).2 ⟨edge, hedge, heq⟩) hid
    · exact h.followed hedge hsettled hne (List.not_mem_nil) hhere hfinite

/-- An edge does not have to wait any longer once its other end is reached no later than by it. -/
theorem of_atMost (h : Timely g target (id :: waiting) s) {edge : Edge α} {here : Arrival α}
    (hedge : g.edges[id]? = some edge) (hhere : s.arrival? edge.source = some here)
    (hthere : isFinite (here.time + edge.weight) = true → ∃ there,
      s.arrival? edge.target = some there ∧ AtMost there.time (here.time + edge.weight)) :
    Timely g target waiting s := by
  refine ⟨h.ordered, h.amount, h.queued, h.late, h.settledFirst, ?_⟩
  intro id' edge' here' hedge' hsource hne hid hhere' hfinite
  by_cases heq : id' = id
  · subst heq
    obtain rfl : edge' = edge := by simpa [hedge'] using hedge
    obtain rfl : here' = here := by simpa [hhere'] using hhere
    exact hthere hfinite
  · exact h.followed hedge' hsource hne (by simp [heq, hid]) hhere' hfinite

/-- A time that betters what is known of a vertex is a finite amount. -/
theorem amount_of_betters (hw : g.NoNegativeWeight) (h : Timely g target waiting s)
    {edge : Edge α} {here : Arrival α} (hedge : g.edges[id]? = some edge)
    (hhere : s.arrival? edge.source = some here)
    (hbetters : betters (here.time + edge.weight) id (s.arrival? edge.target) = true) :
    AtMost zero edge.weight ∧ isFinite (here.time + edge.weight) = true := by
  obtain ⟨hamount, -⟩ := h.amount hhere
  have hpositive : IsNumber (here.time + edge.weight) → AtMost zero edge.weight := by
    intro hnumber
    exact hw hedge (OrderedQuantity.isNumber_of_add hnumber).2
  cases hknown : s.arrival? edge.target with
  | none =>
      rw [hknown, betters_none] at hbetters
      have hweight := hpositive (OrderedQuantity.isNumber_of_isBelowInfinity hbetters)
      exact ⟨hweight, OrderedQuantity.isFinite_of_isBelowInfinity
        (zero_atMost_add hamount hweight) hbetters⟩
  | some known =>
      rw [hknown] at hbetters
      have hle := atMost_of_betters hbetters
      have hweight := hpositive hle.left
      exact ⟨hweight, OrderedQuantity.isFinite_of_atMost (zero_atMost_add hamount hweight) hle
        (h.amount hknown).2⟩

/-- A vertex can be reached anew by an edge out of the latest settled vertex. -/
theorem reach (hw : g.NoNegativeWeight) (hs : Coherent g source s)
    (h : Timely g target waiting s) {edge : Edge α} {here : Arrival α}
    (hedge : g.edges[id]? = some edge) (ht : edge.target < g.vertexCount)
    (hlatest : Latest s edge.source) (hhere : s.arrival? edge.source = some here)
    (htarget : ¬ s.IsSettled edge.target)
    (hbetters : betters (here.time + edge.weight) id (s.arrival? edge.target) = true) :
    Timely g target waiting (s.reach edge.target (here.time + edge.weight) id) := by
  obtain ⟨hamount, -⟩ := h.amount hhere
  obtain ⟨hweight, hfinite⟩ := h.amount_of_betters hw hedge hhere hbetters
  have hnumber := OrderedQuantity.isNumber_of_isFinite hfinite
  have hlater : AtMost here.time (here.time + edge.weight) :=
    OrderedQuantity.atMost_add hamount hweight
  have hknown : ∀ {known}, s.arrival? edge.target = some known →
      AtMost (here.time + edge.weight) known.time := by
    intro known hknown
    rw [hknown] at hbetters
    exact atMost_of_betters hbetters
  refine ⟨h.ordered.push (h.timed hs) hnumber, ?_, ?_, ?_, ?_, ?_⟩
  · intro v a ha
    rw [hs.arrival?_reach ht] at ha
    split at ha
    · cases ha
      exact ⟨hamount.trans hlater, hfinite⟩
    · exact h.amount ha
  · intro v a ha hv
    rw [hs.arrival?_reach ht] at ha
    split at ha
    · rename_i hvt
      cases ha
      exact ⟨_, State.mem_queue_reach.2 (.inl rfl), hvt.symm, rfl⟩
    · obtain ⟨e, he, hvertex, htime⟩ := h.queued ha hv
      exact ⟨e, State.mem_queue_reach.2 (.inr he), hvertex, htime⟩
  · intro e a he ha
    rw [hs.arrival?_reach ht] at ha
    rcases State.mem_queue_reach.1 he with rfl | he
    · rw [if_pos rfl] at ha
      cases ha
      exact hnumber.atMost_self
    · split at ha
      · rename_i hvt
        cases ha
        obtain ⟨known, hk⟩ := hs.queued he
        exact (hknown (hvt ▸ hk)).trans (h.late he hk)
      · exact h.late he ha
  · intro u v a b hu hv ha hb
    rw [hs.arrival?_reach_of_isSettled ht htarget hu] at ha
    rw [hs.arrival?_reach ht] at hb
    split at hb
    · cases hb
      exact (hlatest hu ha hhere).trans hlater
    · exact h.settledFirst hu hv ha hb
  · intro id' edge' here' hedge' hsource hne hid hhere' hfinite'
    rw [hs.arrival?_reach_of_isSettled ht htarget hsource] at hhere'
    rw [hs.arrival?_reach ht]
    obtain ⟨there, hthere, hle⟩ := h.followed hedge' hsource hne hid hhere' hfinite'
    split
    · rename_i hvt
      exact ⟨_, rfl, (hknown (hvt ▸ hthere)).trans hle⟩
    · exact ⟨there, hthere, hle⟩

/-- **Following an edge** out of the latest settled vertex keeps the invariant, and the edge does
not wait any longer. -/
theorem relax (hg : g.WellFormed) (hw : g.NoNegativeWeight) (hs : Coherent g source s)
    (h : Timely g target (id :: waiting) s) {edge : Edge α} (hedge : g.edges[id]? = some edge)
    (hsource : s.IsSettled edge.source) (hlatest : Latest s edge.source)
    (hrelax : Search.relax g edge.source s id = some s') :
    Timely g target waiting s' ∧ Latest s' edge.source := by
  obtain ⟨here, hhere⟩ := hs.reached hsource
  have ht : edge.target < g.vertexCount := hg.target_lt hedge
  obtain ⟨hamount, -⟩ := h.amount hhere
  have hnumber : isFinite (here.time + edge.weight) = true → IsNumber (here.time + edge.weight) :=
    OrderedQuantity.isNumber_of_isFinite
  rw [relax_eq hs.toFits hedge ht hhere, Option.some.injEq] at hrelax
  subst hrelax
  split
  · obtain ⟨htarget, hbetters⟩ := ‹_ ∧ _›
    have hreached := h.reach hw hs hedge ht hlatest hhere htarget hbetters
    have hsame : ∀ {u}, s.IsSettled u →
        (s.reach edge.target (here.time + edge.weight) id).arrival? u = s.arrival? u :=
      hs.arrival?_reach_of_isSettled ht htarget
    refine ⟨hreached.of_atMost hedge ((hsame hsource).trans hhere) fun hfinite => ?_, ?_⟩
    · rw [hs.arrival?_reach ht, if_pos rfl]
      exact ⟨_, rfl, (hnumber hfinite).atMost_self⟩
    · intro u a b hu ha hb
      rw [hsame hu] at ha
      rw [hsame hsource] at hb
      exact hlatest hu ha hb
  · rename_i hstay
    refine ⟨h.of_atMost hedge hhere fun hfinite => ?_, hlatest⟩
    by_cases htarget : s.IsSettled edge.target
    · obtain ⟨there, hthere⟩ := hs.reached htarget
      have hweight : AtMost zero edge.weight :=
        hw hedge (OrderedQuantity.isNumber_of_add (hnumber hfinite)).2
      exact ⟨there, hthere, (hlatest htarget hthere hhere).trans
        (OrderedQuantity.atMost_add hamount hweight)⟩
    · have hnot : ¬ betters (here.time + edge.weight) id (s.arrival? edge.target) = true :=
        fun hb => hstay ⟨htarget, hb⟩
      cases hknown : s.arrival? edge.target with
      | none =>
          rw [hknown, betters_none] at hnot
          exact absurd (OrderedQuantity.isBelowInfinity_of_isFinite hfinite) hnot
      | some known =>
          rw [hknown] at hnot
          exact ⟨known, rfl,
            atMost_of_not_betters (hnumber hfinite) (h.amount hknown).1.right hnot⟩

/-- **A visit keeps the invariant**, and what else holds of the edges still to be followed and the
state, if it holds of a stale entry and of a vertex just closed and following an edge keeps it. -/
theorem visitWith (hg : g.WellFormed) (hw : g.NoNegativeWeight) (hs : Coherent g source s)
    (h : Timely g target [] s) {entry : Entry α} {queue : Queue α}
    (hpop : s.queue.pop? = some (entry, queue)) (P : List EdgeId → State α → Prop)
    (stale : s.IsSettled entry.vertex → P [] { s with queue })
    (closed : ¬ s.IsSettled entry.vertex → ∀ ids, g.incidence[entry.vertex]? = some ids →
      P (if entry.vertex = target then [] else ids.toList)
        (State.close { s with queue } entry.vertex))
    (followed : ∀ id rest s' s'' edge, g.edges[id]? = some edge → edge.source = entry.vertex →
      Coherent g source s' → s'.IsSettled edge.source → Timely g target (id :: rest) s' →
      Latest s' edge.source → P (id :: rest) s' →
      Search.relax g edge.source s' id = some s'' → P rest s'') :
    ∃ s', Search.visit g target entry.vertex { s with queue } = some s' ∧ Coherent g source s' ∧
      s'.load g < s.load g ∧ Timely g target [] s' ∧ P [] s' := by
  have hlatest : ¬ s.IsSettled entry.vertex →
      Latest (State.close { s with queue } entry.vertex) entry.vertex := by
    intro hv u a b hu ha hb
    rcases (hs.isSettled_closeTaken hpop).1 hu with rfl | hu
    · obtain rfl : a = b := Option.some.inj (ha.symm.trans hb)
      exact (h.amount ha).1.right.atMost_self
    · exact h.settledFirst hu hv ha hb
  obtain ⟨s', hvisit, hs', -, hload, h', -, hP⟩ := hs.visit hg hpop
    (fun waiting s' => Timely g target waiting s' ∧ (waiting ≠ [] → Latest s' entry.vertex) ∧
      P waiting s')
    (fun hstale => ⟨h.withQueue hs hpop hstale, fun hne => absurd rfl hne, stale hstale⟩)
    (fun hv ids hids => ⟨h.close hg hs hpop hids, fun _ => hlatest hv, closed hv ids hids⟩)
    (fun id rest s' s'' edge hedge hsource hco hopen hall hrelax => by
      rw [← hsource] at hopen hall hrelax ⊢
      obtain ⟨htimely, hbefore, hP⟩ := hall
      have hl : Latest s' edge.source := hbefore (List.cons_ne_nil _ _)
      obtain ⟨ht, hl'⟩ := htimely.relax hg hw hco hedge hopen hl hrelax
      exact ⟨ht, fun _ => hl', followed id rest s' s'' edge hedge hsource hco hopen htimely hl hP
        hrelax⟩)
  exact ⟨s', hvisit, hs', hload, h', hP⟩

/-- A visit keeps the invariant. -/
theorem visit (hg : g.WellFormed) (hw : g.NoNegativeWeight) (hs : Coherent g source s)
    (h : Timely g target [] s) {entry : Entry α} {queue : Queue α}
    (hpop : s.queue.pop? = some (entry, queue)) :
    ∃ s', Search.visit g target entry.vertex { s with queue } = some s' ∧ Coherent g source s' ∧
      s'.load g < s.load g ∧ Timely g target [] s' := by
  obtain ⟨s', hvisit, hs', hload, h', -⟩ := h.visitWith hg hw hs hpop (fun _ _ => True)
    (fun _ => trivial) (fun _ _ _ => trivial) (fun _ _ _ _ _ _ _ _ _ _ _ _ _ => trivial)
  exact ⟨s', hvisit, hs', hload, h'⟩

end Timely

/-! ## What a search answers -/

/-- The total of a way is an amount, if it is a number. -/
theorem zero_atMost_of_way (hw : g.NoNegativeWeight) {vertex : VertexId} {total : α}
    {way : List EdgeId} (h : g.Way source vertex total way) (htotal : IsNumber total) :
    AtMost zero total := by
  induction h with
  | start => exact zero_atMost_zero
  | follow _ hedge _ ih =>
      obtain ⟨hbefore, hweight⟩ := OrderedQuantity.isNumber_of_add htotal
      exact zero_atMost_add (ih hbefore) (hw hedge hweight)

/-- Along a way with a finite total there is a vertex that is reached no later than the total; it is
the last of the way, or the target of the search, or not settled. -/
theorem Timely.frontier (hw : g.NoNegativeWeight) (hs : Coherent g source s)
    (h : Timely g target [] s) {vertex : VertexId} {total : α} {way : List EdgeId}
    (hway : g.Way source vertex total way) (hfinite : isFinite total = true) :
    ∃ v a, s.arrival? v = some a ∧ AtMost a.time total ∧
      (v = vertex ∨ v = target ∨ ¬ s.IsSettled v) := by
  induction hway with
  | start => exact ⟨_, _, hs.arrival_source, zero_atMost_zero, .inl rfl⟩
  | @follow u t ids id edge hway hedge hsource ih =>
      have hnumber := OrderedQuantity.isNumber_of_isFinite hfinite
      obtain ⟨hbefore, hweight⟩ := OrderedQuantity.isNumber_of_add hnumber
      have ht : AtMost zero t := zero_atMost_of_way hw hway hbefore
      have hle : AtMost t (t + edge.weight) := OrderedQuantity.atMost_add ht (hw hedge hweight)
      obtain ⟨v, a, ha, hat, hv⟩ := ih (OrderedQuantity.isFinite_of_atMost ht hle hfinite)
      obtain ⟨hamount, -⟩ := h.amount ha
      by_cases hstay : v = target ∨ ¬ s.IsSettled v
      · exact ⟨v, a, ha, hat.trans hle, .inr hstay⟩
      · -- the vertex before the last is settled, and the last edge was followed
        rw [not_or, not_not] at hstay
        obtain rfl : v = u :=
          hv.resolve_right fun hv => hstay.1 (hv.resolve_right (not_not.2 hstay.2))
        rw [← hsource] at hstay ha
        have hsum : AtMost (a.time + edge.weight) (t + edge.weight) :=
          OrderedQuantity.add_atMost_add hamount (hw hedge hweight) hat
        obtain ⟨there, hthere, hle'⟩ := h.followed hedge hstay.2 hstay.1 (List.not_mem_nil) ha
          (OrderedQuantity.isFinite_of_atMost (zero_atMost_add hamount (hw hedge hweight)) hsum
            hfinite)
        exact ⟨edge.target, there, hthere, hle'.trans hsum, .inl rfl⟩

/-- **What a search answers.** Either it gives a way to the target that passes no vertex twice and
whose total is a finite amount and at most that of every other way; or it gives none, and no way to
the target has a finite total. -/
theorem shortest_cases (hg : g.WellFormed) (hw : g.NoNegativeWeight)
    (hsource : source < g.vertexCount) (htarget : target < g.vertexCount) :
    (∃ total way, shortest g source target = .value (total, way) ∧
      g.Way source target total way ∧ (g.visited source way).Nodup ∧
      AtMost zero total ∧ isFinite total = true ∧
      ∀ total' way', g.Way source target total' way' → IsNumber total' → AtMost total total') ∨
    (shortest g source target = .failed .unreachable ∧
      ∀ total way, g.Way source target total way → isFinite total = false) := by
  obtain ⟨s, hlast, hs, h, hend⟩ := exists_last hsource htarget
    (Q := Timely g target []) (.start hsource)
    (fun s entry queue hs h _ hpop => h.visit hg hw hs hpop)
  by_cases ht : s.IsSettled target
  · obtain ⟨a, way, ha, hshortest, hway, hnodup⟩ := shortest_of_isSettled hsource hlast hs ht
    obtain ⟨hamount, hfinite⟩ := h.amount ha
    refine .inl ⟨a.time, way, hshortest, hway, hnodup, hamount, hfinite, ?_⟩
    intro total' way' hway' hnumber
    cases hfinite' : isFinite total' with
    | true =>
        obtain ⟨v, b, hb, hle, hv⟩ := h.frontier hw hs hway' hfinite'
        by_cases hvt : v = target
        · subst hvt
          obtain rfl : a = b := Option.some.inj (ha.symm.trans hb)
          exact hle
        · exact (h.settledFirst ht (by tauto) ha hb).trans hle
    | false =>
        apply (OrderedQuantity.atMost_total hamount.right hnumber).resolve_right
        intro hle
        have := OrderedQuantity.isFinite_of_atMost (zero_atMost_of_way hw hway' hnumber) hle hfinite
        rw [hfinite'] at this
        cases this
  · refine .inr ⟨shortest_of_not_isSettled hsource htarget hlast hs ht, ?_⟩
    intro total way hway
    by_contra hfinite
    obtain ⟨v, a, ha, -, hv⟩ := h.frontier hw hs hway (by simpa using hfinite)
    have hopen : ¬ s.IsSettled v := by
      rintro hsettled
      obtain rfl : v = target := by tauto
      exact ht hsettled
    obtain ⟨entry, hentry, -⟩ := h.queued ha hopen
    rw [hend.resolve_left ht] at hentry
    cases hentry

end BusNetwork.Search
