import BusNetwork.Proofs.Search.Scan
import BusNetwork.Proofs.Search.Trace

/-!
# Which of the cheapest ways wins

Among equally cheap ways to a vertex the way whose last edge was added first should win. But what is
settled is not touched again, so a way that comes to the vertex over edges that cost nothing can
come too late. What holds is `Best`: **each other way that is as cheap has spent all of its total
when it has followed some edge that was not added before the last edge of the winner**
(`shortest_isBest`). Where the last edge of the other way costs something, that edge is the last
one.

* `Earliest` — the invariant: of the edges by which an unsettled vertex can be reached at its time
  and that were followed, its last edge was added first.
* `exists_leaving` — a way to an unsettled vertex leaves the settled ones by some edge. When the
  vertex comes out of the queue, all of the total is spent after that edge
  (`Coherent.exists_full_of_pop?`).
-/

set_option linter.unusedSectionVars false

namespace BusNetwork.Search

open Quantity

variable {α : Type} [Quantity α] {g : Graph α} {s s' : State α} {source target vertex : VertexId}
  {id : EdgeId} {waiting : List EdgeId}

/-- **A vertex is reached in the best way.** No way there takes less, and a way that takes no more
has spent all of its total when it has followed an edge that was not added before the last one. -/
structure Best (g : Graph α) (source vertex : VertexId) (a : Arrival α) : Prop where
  /-- No way takes less. -/
  atMost {total : α} {way : List EdgeId} : g.Way source vertex total way → IsNumber total →
    AtMost a.time total
  /-- Each way that takes no more has spent all of its total at an edge that was not added
  before. -/
  first {id : EdgeId} {total : α} {way : List EdgeId} : a.via = some id →
    g.Way source vertex total way → AtMost total a.time →
    ∃ before last after edge spent, way = before ++ last :: after ∧ g.edges[last]? = some edge ∧
      g.Way source edge.target spent (before ++ [last]) ∧ AtMost a.time spent ∧ id ≤ last

/-! ## Of the edges that were followed the first one wins -/

/-- The edges by which an unsettled vertex can be reached at its time were not added before its last
edge, but for those that wait to be followed and those that leave the target. -/
def Earliest (g : Graph α) (target : VertexId) (waiting : List EdgeId) (s : State α) : Prop :=
  ∀ (id via : EdgeId) (edge : Edge α) (here there : Arrival α), g.edges[id]? = some edge →
    s.IsSettled edge.source → edge.source ≠ target → id ∉ waiting → ¬ s.IsSettled edge.target →
    s.arrival? edge.source = some here → s.arrival? edge.target = some there →
    AtMost (here.time + edge.weight) there.time → there.via = some via → via ≤ id

namespace Earliest

variable {entry : Entry α} {queue : Queue α}

/-- At the start nothing is settled, so no edge could have been followed before another. -/
theorem start : Earliest g target [] (State.start g.vertexCount source : State α) :=
  fun _ _ _ _ _ _ hsource => absurd hsource (not_isSettled_start _)

/-- The vertex that comes out can be closed, if the edges that leave it wait then. -/
theorem close (hg : g.WellFormed) (hs : Coherent g source s) (h : Earliest g target [] s)
    (hpop : s.queue.pop? = some (entry, queue)) {ids : Array EdgeId}
    (hids : g.incidence[entry.vertex]? = some ids) :
    Earliest g target (if entry.vertex = target then [] else ids.toList)
      (State.close { s with queue } entry.vertex) := by
  intro id via edge here there hedge hsource hne hid htarget
  rw [hs.isSettled_closeTaken hpop] at hsource htarget
  rcases hsource with heq | hsource
  · rw [if_neg (heq ▸ hne)] at hid
    exact absurd ((hg.mem_incidence hids).2 ⟨edge, hedge, heq⟩) hid
  · exact h id via edge here there hedge hsource hne List.not_mem_nil fun ht => htarget (.inr ht)

variable [OrderedQuantity α]

/-- A vertex can be reached anew by an edge that betters its arrival. -/
theorem reach (hw : g.NoNegativeWeight) (hs : Coherent g source s)
    (ht : Timely g target (id :: waiting) s) (h : Earliest g target (id :: waiting) s)
    {edge : Edge α} {here : Arrival α} (hedge : g.edges[id]? = some edge)
    (hlt : edge.target < g.vertexCount) (hhere : s.arrival? edge.source = some here)
    (hopen : ¬ s.IsSettled edge.target)
    (hbetters : betters (here.time + edge.weight) id (s.arrival? edge.target) = true) :
    Earliest g target waiting (s.reach edge.target (here.time + edge.weight) id) := by
  obtain ⟨-, hfinite⟩ := ht.amount_of_betters hw hedge hhere hbetters
  intro id' via edge' here' there hedge' hsource' hne hid htarget' hhere' hthere hle hvia
  rw [hs.arrival?_reach_of_isSettled hlt hopen hsource'] at hhere'
  rw [hs.arrival?_reach hlt] at hthere
  by_cases hsame : id' = id
  · subst hsame
    obtain rfl := Option.some.inj (hedge.symm.trans hedge')
    rw [if_pos rfl] at hthere
    obtain rfl := Option.some.inj hthere
    exact Nat.le_of_eq (Option.some.inj hvia).symm
  have hwait : id' ∉ id :: waiting := by simp [hsame, hid]
  split at hthere
  · rename_i hend
    obtain rfl := Option.some.inj hthere
    obtain rfl : id = via := Option.some.inj hvia
    -- the other edge was followed, so the vertex was known, and no later than by that edge
    obtain ⟨hamount, -⟩ := ht.amount hhere'
    have hweight := hw hedge' (OrderedQuantity.isNumber_of_add hle.left).2
    obtain ⟨known, hknown, hle'⟩ := ht.followed hedge' hsource' hne hwait hhere'
      (OrderedQuantity.isFinite_of_atMost (zero_atMost_add hamount hweight) hle hfinite)
    rw [← hend, hknown] at hbetters
    simp only [betters, Bool.or_eq_true, decide_eq_true_eq, Bool.and_eq_true] at hbetters
    rcases hbetters with hless | ⟨heq, hfirst⟩
    · exact absurd (hle'.trans hle) (OrderedQuantity.lt_iff.1 hless).2
    · obtain ⟨via, hvia, hlt'⟩ := Option.any_eq_true _ _ |>.1 hfirst
      have hbefore := h id' via edge' here' known hedge' hsource' hne hwait (hend ▸ hopen) hhere'
        hknown (hle.trans (OrderedQuantity.beq_iff.1 heq).1) hvia
      exact Nat.le_of_lt (Nat.lt_of_lt_of_le (of_decide_eq_true hlt') hbefore)
  · exact h id' via edge' here' there hedge' hsource' hne hwait htarget' hhere' hthere hle hvia

/-- Following an edge keeps the invariant, and the edge does not wait any longer. -/
theorem relax (hg : g.WellFormed) (hw : g.NoNegativeWeight) (hs : Coherent g source s)
    (ht : Timely g target (id :: waiting) s) (h : Earliest g target (id :: waiting) s)
    {edge : Edge α} (hedge : g.edges[id]? = some edge) (hsource : s.IsSettled edge.source)
    (hrelax : Search.relax g edge.source s id = some s') : Earliest g target waiting s' := by
  obtain ⟨here, hhere⟩ := hs.reached hsource
  have hlt : edge.target < g.vertexCount := hg.target_lt hedge
  rw [relax_eq hs.toFits hedge hlt hhere, Option.some.injEq] at hrelax
  subst hrelax
  split
  · obtain ⟨hopen, hbetters⟩ := ‹_ ∧ _›
    exact h.reach hw hs ht hedge hlt hhere hopen hbetters
  · rename_i hstay
    intro id' via edge' here' there hedge' hsource' hne hid htarget' hhere' hthere hle hvia
    by_cases hsame : id' = id
    · subst hsame
      obtain rfl := Option.some.inj (hedge.symm.trans hedge')
      obtain rfl := Option.some.inj (hhere.symm.trans hhere')
      have hnot : ¬ betters (here.time + edge.weight) id' (some there) = true := fun hbetters =>
        hstay ⟨htarget', hthere ▸ hbetters⟩
      have hge := atMost_of_not_betters hle.left hle.right hnot
      by_contra hlater
      apply hnot
      have hbefore : id' < via := Nat.lt_of_not_le hlater
      simp [betters, hvia, hbefore, OrderedQuantity.beq_iff.2 ⟨hle, hge⟩]
    · exact h id' via edge' here' there hedge' hsource' hne (by simp [hsame, hid]) htarget' hhere'
        hthere hle hvia

end Earliest

/-! ## Where a way leaves the settled vertices -/

variable [OrderedQuantity α]

/-- A part of a way takes no longer than the whole. -/
theorem atMost_of_append (hw : g.NoNegativeWeight) {stop : VertexId} {spent total : α}
    {before after : List EdgeId} (h : g.Way source vertex total (before ++ after))
    (htotal : IsNumber total) (hbefore : g.Way source stop spent before) : AtMost spent total := by
  induction after using List.reverseRecOn generalizing vertex total with
  | nil =>
      rw [List.append_nil] at h
      obtain ⟨-, rfl⟩ := hbefore.unique h
      exact htotal.atMost_self
  | append_singleton after id ih =>
      rw [← List.append_assoc] at h
      obtain ⟨edge, most, hedge, -, hmost, rfl⟩ := h.exists_of_concat
      obtain ⟨hnumber, hweight⟩ := OrderedQuantity.isNumber_of_add htotal
      exact (ih hmost hnumber).trans (OrderedQuantity.atMost_add
        (zero_atMost_of_way hw hmost hnumber) (hw hedge hweight))

/-- A way from a settled vertex to one that is not leaves the settled ones by some edge, after which
no more than the total is spent. -/
theorem exists_leaving (hw : g.NoNegativeWeight) (hsource : s.IsSettled source) {total : α}
    {way : List EdgeId} (hway : g.Way source vertex total way) (htotal : IsNumber total)
    (hv : ¬ s.IsSettled vertex) :
    ∃ before last after edge spent, way = before ++ last :: after ∧ g.edges[last]? = some edge ∧
      s.IsSettled edge.source ∧ ¬ s.IsSettled edge.target ∧
      g.Way source edge.source spent before ∧ AtMost (spent + edge.weight) total := by
  induction hway with
  | start => exact absurd hsource hv
  | @follow u spent way id edge hway hedge hend ih =>
      obtain ⟨hspent, hweight⟩ := OrderedQuantity.isNumber_of_add htotal
      by_cases hu : s.IsSettled u
      · exact ⟨way, id, [], edge, spent, rfl, hedge, hend ▸ hu, hv, hend ▸ hway, htotal.atMost_self⟩
      · obtain ⟨before, last, after, edge', spent', rfl, hrest⟩ := ih hspent hu
        obtain ⟨hedge', hsettled, hopen, hway', hle⟩ := hrest
        exact ⟨before, last, after ++ [id], edge', spent', by simp, hedge', hsettled, hopen, hway',
          hle.trans (OrderedQuantity.atMost_add (zero_atMost_of_way hw hway hspent)
            (hw hedge hweight))⟩

section taken

variable {entry : Entry α} {queue : Queue α}

/-- The edge of what comes out of the queue was not added after the last edge of any unsettled
vertex that is reached at the same time. -/
theorem Coherent.via_le_of_pop? (hs : Coherent g source s) (ht : Timely g target waiting s)
    (hlive : Live g waiting s) (hpop : s.queue.pop? = some (entry, queue)) {a : Arrival α}
    {via : EdgeId} (ha : s.arrival? vertex = some a) (hv : ¬ s.IsSettled vertex)
    (hle : AtMost a.time entry.time) (hid : entry.via = some id) (hvia : a.via = some via) :
    id ≤ via := by
  have hperm := Queue.toList_of_pop? hpop
  have htimed := ht.timed hs
  rcases List.mem_cons.1 (hperm.mem_iff.1 (hlive.queued ha hv)) with heq | hrest
  · rw [← heq] at hid
    exact Nat.le_of_eq (Option.some.inj (hid.symm.trans hvia))
  have hnot := (ht.ordered.of_pop? htimed hpop).2 _ hrest
  rw [Entry.notAfter_iff (htimed _ (hperm.mem_iff.2 List.mem_cons_self))
    (htimed _ (hlive.queued ha hv))] at hnot
  rcases hnot with hlt | ⟨-, hplace⟩
  · exact absurd hle (OrderedQuantity.lt_iff.1 hlt).2
  · have hfirst : entry.place = id + 1 := by simp [Entry.place, hid]
    have hother : (a.entry vertex).place = via + 1 := by simp [Entry.place, Arrival.entry, hvia]
    have hplaces : entry.place ≤ (a.entry vertex).place :=
      hplace.elim Nat.le_of_lt fun h => Nat.le_of_eq h.1
    rw [hfirst, hother] at hplaces
    exact Nat.le_of_succ_le_succ hplaces

/-- No way to the vertex that comes out of the queue takes less than its arrival. -/
theorem Coherent.atMost_total_of_pop? (hw : g.NoNegativeWeight) (hs : Coherent g source s)
    (ht : Timely g target [] s) (hlive : Live g [] s) (htarget : ¬ s.IsSettled target)
    (hpop : s.queue.pop? = some (entry, queue)) (hv : ¬ s.IsSettled entry.vertex) {total : α}
    {way : List EdgeId} (hway : g.Way source entry.vertex total way) (hnumber : IsNumber total) :
    AtMost entry.time total := by
  have harrival := hlive.arrival?_of_pop? hs ht hpop hv
  obtain ⟨hamount, hfinite⟩ := ht.amount harrival
  rcases OrderedQuantity.atMost_total hamount.right hnumber with hle | hge
  · exact hle
  · -- some unsettled vertex of the way is reached within its total
    obtain ⟨u, b, hb, hle, hu⟩ := ht.frontier hw hs hway
      (OrderedQuantity.isFinite_of_atMost (zero_atMost_of_way hw hway hnumber) hge hfinite)
    have hopen : ¬ s.IsSettled u := by
      rcases hu with rfl | rfl | hu
      · exact hv
      · exact htarget
      · exact hu
    exact (ht.atMost_of_pop? hs hpop harrival hb hopen).trans hle

/-- A way to the vertex that comes out of the queue that takes no more than its arrival has spent
all of its total when it has left the settled vertices. -/
theorem Coherent.exists_full_of_pop? (hw : g.NoNegativeWeight) (hs : Coherent g source s)
    (ht : Timely g target [] s) (hlive : Live g [] s) (hearliest : Earliest g target [] s)
    (hbest : ∀ {v a}, s.IsSettled v → s.arrival? v = some a → Best g source v a)
    (htarget : ¬ s.IsSettled target) (hpop : s.queue.pop? = some (entry, queue))
    (hv : ¬ s.IsSettled entry.vertex) (hvia : entry.via = some id) {total : α} {way : List EdgeId}
    (hway : g.Way source entry.vertex total way) (hle : AtMost total entry.time) :
    ∃ before last after edge spent, way = before ++ last :: after ∧ g.edges[last]? = some edge ∧
      g.Way source edge.target spent (before ++ [last]) ∧ AtMost entry.time spent ∧ id ≤ last := by
  have harrival := hlive.arrival?_of_pop? hs ht hpop hv
  obtain ⟨-, hfinite⟩ := ht.amount harrival
  obtain ⟨edge₀, -, -, -, hsettled₀, -⟩ := hs.via harrival hvia
  obtain ⟨before, last, after, edge, spent, rfl, hedge, hsource, hopen, hbefore, hspent⟩ :=
    exists_leaving hw (hs.source_first hsettled₀) hway hle.left hv
  obtain ⟨hnumber, hweight⟩ := OrderedQuantity.isNumber_of_add hspent.left
  obtain ⟨here, hhere⟩ := hs.reached hsource
  obtain ⟨hstart, -⟩ := ht.amount hhere
  have hne : edge.source ≠ target := fun heq => htarget (heq ▸ hsource)
  have hamount : AtMost zero edge.weight := hw hedge hweight
  have hsum : AtMost (here.time + edge.weight) (spent + edge.weight) :=
    OrderedQuantity.add_atMost_add hstart hamount ((hbest hsource hhere).atMost hbefore hnumber)
  have hupper : AtMost (here.time + edge.weight) entry.time := (hsum.trans hspent).trans hle
  -- the edge was followed, so its other end was reached, but not before what came out
  obtain ⟨there, hthere, hreached⟩ := ht.followed hedge hsource hne List.not_mem_nil hhere
    (OrderedQuantity.isFinite_of_atMost (zero_atMost_add hstart hamount) hupper hfinite)
  have hlower : AtMost entry.time there.time := ht.atMost_of_pop? hs hpop harrival hthere hopen
  refine ⟨before, last, after, edge, spent + edge.weight, rfl, hedge, hbefore.follow hedge rfl,
    (hlower.trans hreached).trans hsum, ?_⟩
  cases hthereVia : there.via with
  | none => exact absurd (hs.source_first hsource) (hs.eq_source hthere hthereVia ▸ hopen)
  | some via =>
      have hqueued : id ≤ via :=
        hs.via_le_of_pop? ht hlive hpop hthere hopen (hreached.trans hupper) hvia hthereVia
      have hfollowed : via ≤ last :=
        hearliest last via edge here there hedge hsource hne List.not_mem_nil hopen hhere hthere
          (hupper.trans hlower) hthereVia
      exact Nat.le_trans hqueued hfollowed

/-- **What comes out of the queue was reached in the best way**, if the settled vertices were. -/
theorem Coherent.best_of_pop? (hw : g.NoNegativeWeight) (hs : Coherent g source s)
    (ht : Timely g target [] s) (hlive : Live g [] s) (hearliest : Earliest g target [] s)
    (hbest : ∀ {v a}, s.IsSettled v → s.arrival? v = some a → Best g source v a)
    (htarget : ¬ s.IsSettled target) (hpop : s.queue.pop? = some (entry, queue))
    (hv : ¬ s.IsSettled entry.vertex) :
    Best g source entry.vertex ⟨entry.time, entry.via⟩ where
  atMost hway hnumber := hs.atMost_total_of_pop? hw ht hlive htarget hpop hv hway hnumber
  first hvia hway hle :=
    hs.exists_full_of_pop? hw ht hlive hearliest hbest htarget hpop hv hvia hway hle

end taken

/-! ## What wins in the end -/

/-- A state in which all settled vertices were reached in the best way. -/
structure Decided (g : Graph α) (source target : VertexId) (s : State α) : Prop where
  /-- The last edges make a tree. -/
  coherent : Coherent g source s
  /-- Times are in order, and no edge waits to be followed. -/
  timely : Timely g target [] s
  /-- The arrivals are queued as they are. -/
  live : Live g [] s
  /-- Of the edges that were followed the first wins. -/
  earliest : Earliest g target [] s
  /-- The settled vertices were reached in the best way. -/
  best {v : VertexId} {a : Arrival α} : s.IsSettled v → s.arrival? v = some a → Best g source v a

/-- At the start nothing is settled, so nothing has been decided. -/
theorem Decided.start (hsource : source < g.vertexCount) :
    Decided g source target (State.start g.vertexCount source : State α) :=
  ⟨.start hsource, .start hsource, .start hsource, .start,
    fun hv => absurd hv (not_isSettled_start _)⟩

/-- A visit decides on the vertex that comes out of the queue. -/
theorem Decided.exists_visit (hg : g.WellFormed) (hw : g.NoNegativeWeight)
    (h : Decided g source target s) (htarget : ¬ s.IsSettled target) {entry : Entry α}
    {queue : Queue α} (hpop : s.queue.pop? = some (entry, queue)) :
    ∃ s', visit g target entry.vertex { s with queue } = some s' ∧ s'.load g < s.load g ∧
      Decided g source target s' := by
  obtain ⟨hs, ht, hlive, hearliest, hbest⟩ := h
  obtain ⟨s', hvisit, hs', hload, ht', hmid, hearliest'⟩ := ht.visitWith hg hw hs hpop
    (fun waiting s' => Midway g target s entry.vertex waiting s' ∧ Earliest g target waiting s')
    (fun hstale => ⟨.stale hlive hpop hstale, hearliest⟩)
    (fun hopen ids hids =>
      ⟨.closed hg hs hlive hpop hopen hids, hearliest.close hg hs hpop hids⟩)
    (fun id rest s₁ s₂ edge hedge hsource hs₁ hopen ht₁ _ hP hrelax =>
      ⟨hP.1.relax hg hw hs₁ ht₁ hedge hsource hopen hrelax,
        hP.2.relax hg hw hs₁ ht₁ hedge hopen hrelax⟩)
  obtain ⟨next, hnext, -, hlater, -, hclosed⟩ := hs.exists_visit hg hpop target
  obtain rfl := Option.some.inj (hnext.symm.trans hvisit)
  refine ⟨next, hvisit, hload, hs', ht', hmid.live, hearliest', fun {v a} hv ha => ?_⟩
  by_cases hbefore : s.IsSettled v
  · exact hbest hbefore (hlater.arrival? hbefore ▸ ha)
  · obtain rfl := ((hmid.isSettled_iff v).1 hv).resolve_right hbefore
    have hsame : next.arrival? entry.vertex = s.arrival? entry.vertex :=
      (hclosed hbefore).arrival? ((hs.isSettled_closeTaken hpop).2 (.inl rfl))
    rw [hsame, hlive.arrival?_of_pop? hs ht hpop hbefore] at ha
    obtain rfl := Option.some.inj ha
    exact hs.best_of_pop? hw ht hlive hearliest hbest htarget hpop hbefore

/-- The last edges of the arrivals make a way that takes the time of the arrival. -/
theorem Traced.way {a : Arrival α} {way : List EdgeId} (h : Traced g s vertex way)
    (hs : Coherent g source s) (ha : s.arrival? vertex = some a) :
    g.Way source vertex a.time way := by
  induction h generalizing a with
  | start ha' hvia =>
      obtain rfl := Option.some.inj (ha.symm.trans ha')
      obtain rfl := hs.eq_source ha hvia
      obtain rfl := Option.some.inj (hs.arrival_source.symm.trans ha)
      exact .start
  | follow _ hedge htarget ha' hvia ih =>
      obtain rfl := Option.some.inj (ha.symm.trans ha')
      obtain ⟨edge, here, hedge', -, -, hhere, htime⟩ := hs.via ha hvia
      obtain rfl := Option.some.inj (hedge.symm.trans hedge')
      subst htarget
      rw [htime]
      exact (ih hhere).follow hedge rfl

/-- **Every vertex on the way of an answer is reached in the best way**, by the edge that the way
enters it by. -/
theorem shortest_isBest (hg : g.WellFormed) (hw : g.NoNegativeWeight)
    (hsource : source < g.vertexCount) (htarget : target < g.vertexCount) {total : α}
    {before after : List EdgeId}
    (h : shortest g source target = .value (total, before ++ id :: after)) :
    ∃ edge time, g.edges[id]? = some edge ∧ g.Way source edge.target time (before ++ [id]) ∧
      Best g source edge.target ⟨time, some id⟩ := by
  obtain ⟨s, hlast, hs, hdecided, -⟩ := exists_last hsource htarget
    (Q := Decided g source target) (.start hsource)
    (fun s entry queue _ hdecided ht hpop => by
      obtain ⟨s', hvisit, hload, hdecided'⟩ := hdecided.exists_visit hg hw ht hpop
      exact ⟨s', hvisit, hdecided'.coherent, hload, hdecided'⟩)
  by_cases ht : s.IsSettled target
  · obtain ⟨edge, a, hedge, hbefore, -, hsettled, ha, hvia⟩ :=
      (hs.traced_of_shortest hlast ht h).of_passed hs ht rfl
    have htraced : Traced g s edge.target (before ++ [id]) := .follow hbefore hedge rfl ha hvia
    have hbest := hdecided.best hsettled ha
    obtain ⟨time, via⟩ := a
    obtain rfl : via = some id := hvia
    exact ⟨edge, time, hedge, htraced.way hs ha, hbest⟩
  · rw [shortest_of_not_isSettled hsource htarget hlast hs ht] at h
    cases h

end BusNetwork.Search
