import BusNetwork.Proofs.Search.Steps
import Mathlib.Data.List.Nodup
import Mathlib.Data.List.Perm.Subperm

/-!
# The tree of a search

The last edges of the arrivals make a tree with the source as its root. **No law of the numbers is
used here**: the tree is kept in shape by the order in which vertices are settled.

* `Coherent` — the invariant: the source is reached by no edge, every other reached vertex by an
  edge from a settled vertex, whose time its own time continues.
* `Sequence` — vertices in the order of being settled, the last one first; each was reached from one
  before it. So following last edges backwards ends, and passes no vertex twice (`exists_wayTo`).
* `Coherent.visit` — a visit succeeds and keeps the invariant, and the load gets smaller.
* `exists_last` — a search therefore ends, and `shortest_of_isSettled` says what it answers. It
  always answers (`exists_way_or_unreachable`).
-/

namespace BusNetwork.Search

variable {α : Type}

/-- Vertices in the order in which they were settled, the last one first: none comes twice, and
the last edge of each leaves one that was settled before. -/
def Sequence (g : Graph α) (s : State α) : List VertexId → Prop
  | [] => True
  | vertex :: earlier =>
    vertex ∉ earlier ∧
      (∀ a id edge, s.arrival? vertex = some a → a.via = some id → g.edges[id]? = some edge →
        edge.source ∈ earlier) ∧
      Sequence g s earlier

/-- What is reached when, in terms of what is settled. -/
structure Coherent [Quantity α] (g : Graph α) (source : VertexId) (s : State α) : Prop
    extends State.Fits g s where
  /-- The source is reached at once and by no edge. -/
  arrival_source : s.arrival? source = some ⟨Quantity.zero, none⟩
  /-- Only the source is reached by no edge. -/
  eq_source {vertex : VertexId} {a : Arrival α} : s.arrival? vertex = some a → a.via = none →
    vertex = source
  /-- All else is reached by an edge from a settled vertex. -/
  via {vertex : VertexId} {a : Arrival α} {id : EdgeId} : s.arrival? vertex = some a →
    a.via = some id → ∃ edge here, g.edges[id]? = some edge ∧ edge.target = vertex ∧
      s.IsSettled edge.source ∧ s.arrival? edge.source = some here ∧
      a.time = here.time + edge.weight
  /-- What is settled is reached. -/
  reached {vertex : VertexId} : s.IsSettled vertex → ∃ a, s.arrival? vertex = some a
  /-- What is queued is reached. -/
  queued {entry : Entry α} : entry ∈ s.queue.toList → ∃ a, s.arrival? entry.vertex = some a
  /-- The source is settled before all else. -/
  source_first {vertex : VertexId} : s.IsSettled vertex → s.IsSettled source
  /-- The settled vertices have an order. -/
  order : ∃ order, Sequence g s order ∧ ∀ vertex, vertex ∈ order ↔ s.IsSettled vertex

/-- A state after another: what was settled stays settled, with the same arrival. -/
structure State.Later (s s' : State α) : Prop where
  /-- Settled vertices stay settled. -/
  isSettled {vertex : VertexId} : s.IsSettled vertex → s'.IsSettled vertex
  /-- Arrivals at settled vertices stay as they are. -/
  arrival? {vertex : VertexId} : s.IsSettled vertex → s'.arrival? vertex = s.arrival? vertex

/-- A state is as late as itself. -/
theorem State.Later.refl (s : State α) : s.Later s := ⟨id, fun _ => rfl⟩

/-- Being later passes along. -/
theorem State.Later.trans {s s' s'' : State α} (h : s.Later s') (h' : s'.Later s'') :
    s.Later s'' :=
  ⟨fun hv => h'.isSettled (h.isSettled hv),
    fun hv => (h'.arrival? (h.isSettled hv)).trans (h.arrival? hv)⟩

variable {g : Graph α} {s s' : State α} {source target : VertexId}

/-- An order of settling depends only on the arrivals of its vertices. -/
theorem Sequence.congr {order : List VertexId} (h : Sequence g s order)
    (hs' : ∀ v ∈ order, s'.arrival? v = s.arrival? v) : Sequence g s' order := by
  induction order with
  | nil => trivial
  | cons v earlier ih =>
      obtain ⟨hv, hvia, hearlier⟩ := h
      refine ⟨hv, ?_, ih hearlier fun u hu => hs' u (List.mem_cons_of_mem _ hu)⟩
      rw [hs' v List.mem_cons_self]
      exact hvia

/-- No vertex comes twice in an order of settling. -/
theorem Sequence.nodup {order : List VertexId} (h : Sequence g s order) : order.Nodup := by
  induction order with
  | nil => exact List.nodup_nil
  | cons v earlier ih => exact List.nodup_cons.2 ⟨h.1, ih h.2.2⟩

/-! ## The invariant is kept -/

variable [Quantity α]

/-- In the first state only the source is reached. -/
theorem arrival?_start {n : Nat} (h : source < n) (vertex : VertexId) :
    (State.start n source : State α).arrival? vertex =
      if vertex = source then some ⟨Quantity.zero, none⟩ else none := by
  unfold State.arrival? State.start
  rw [Array.getElem?_setIfInBounds]
  by_cases hv : source = vertex
  · simp [hv, hv ▸ h]
  · rw [if_neg hv, if_neg (Ne.symm hv), Array.getElem?_replicate]
    split <;> rfl

/-- At the start no vertex is settled. -/
theorem not_isSettled_start {n : Nat} (vertex : VertexId) :
    ¬ (State.start n source : State α).IsSettled vertex := by
  simp [State.IsSettled, State.start, Array.getElem?_replicate]

/-- In the first state only the source is queued. -/
theorem mem_queue_start {n : Nat} {entry : Entry α} :
    entry ∈ (State.start n source : State α).queue.toList ↔
      entry = ⟨Quantity.zero, none, source⟩ := by
  simp [State.start, Queue.single, Queue.toList]

/-- At the start the source alone is reached. -/
theorem Coherent.start (h : source < g.vertexCount) :
    Coherent g source (State.start g.vertexCount source : State α) where
  size_arrivals := by simp [State.start]
  size_settled := by simp [State.start]
  arrival_source := by simp [arrival?_start h]
  eq_source ha _ := by
    rw [arrival?_start h] at ha
    by_contra hv
    simp [hv] at ha
  via ha hvia := by
    rw [arrival?_start h] at ha
    split at ha
    · cases ha
      cases hvia
    · cases ha
  reached hv := absurd hv (not_isSettled_start _)
  queued he := by
    obtain rfl := mem_queue_start.1 he
    exact ⟨_, by simp [arrival?_start h]; rfl⟩
  source_first hv := absurd hv (not_isSettled_start _)
  order := ⟨[], trivial, by simp [not_isSettled_start]⟩

namespace Coherent

/-- Taking entries from the queue keeps the invariant. -/
theorem withQueue (hs : Coherent g source s) {queue : Queue α}
    (h : ∀ entry ∈ queue.toList, entry ∈ s.queue.toList) :
    Coherent g source { s with queue } where
  size_arrivals := hs.size_arrivals
  size_settled := hs.size_settled
  arrival_source := hs.arrival_source
  eq_source := hs.eq_source
  via := hs.via
  reached := hs.reached
  queued he := hs.queued (h _ he)
  source_first := hs.source_first
  order := by
    obtain ⟨order, horder, hmem⟩ := hs.order
    exact ⟨order, horder.congr fun _ _ => rfl, hmem⟩

/-- Closing a reached vertex keeps the invariant. -/
theorem close (hs : Coherent g source s) {vertex : VertexId} {a : Arrival α}
    (ha : s.arrival? vertex = some a) (hv : ¬ s.IsSettled vertex) :
    Coherent g source (s.close vertex) := by
  have hlt : vertex < g.vertexCount := hs.lt_of_arrival? ha
  have hclose : ∀ {u}, (s.close vertex).IsSettled u ↔ u = vertex ∨ s.IsSettled u :=
    hs.isSettled_close hlt
  refine ⟨hs.toFits.close, hs.arrival_source, hs.eq_source, ?_, ?_, hs.queued, ?_, ?_⟩
  · intro u b id hb hvia
    obtain ⟨edge, here, hedge, htarget, hsettled, hrest⟩ := hs.via hb hvia
    exact ⟨edge, here, hedge, htarget, hclose.2 (.inr hsettled), hrest⟩
  · intro u hu
    rcases hclose.1 hu with rfl | hu
    · exact ⟨a, ha⟩
    · exact hs.reached hu
  · intro u hu
    rw [hclose]
    rcases hclose.1 hu with rfl | hu
    · cases hvia : a.via with
      | none => exact .inl (hs.eq_source ha hvia).symm
      | some id =>
          obtain ⟨edge, here, -, -, hsettled, -⟩ := hs.via ha hvia
          exact .inr (hs.source_first hsettled)
    · exact .inr (hs.source_first hu)
  · obtain ⟨order, horder, hmem⟩ := hs.order
    refine ⟨vertex :: order, ⟨fun h => hv ((hmem _).1 h), ?_, horder.congr fun _ _ => rfl⟩, ?_⟩
    · intro b id edge hb hvia hedge
      obtain ⟨edge', here, hedge', -, hsettled, -⟩ := hs.via hb hvia
      obtain rfl : edge' = edge := by simpa [hedge'] using hedge
      exact (hmem _).2 hsettled
    · intro u
      rw [List.mem_cons, hmem, hclose]

/-- Reaching a vertex that is not settled, by an edge from one that is, keeps the invariant. -/
theorem reach (hs : Coherent g source s) {id : EdgeId} {edge : Edge α} {here : Arrival α}
    (hedge : g.edges[id]? = some edge) (ht : edge.target < g.vertexCount)
    (hsource : s.IsSettled edge.source) (hhere : s.arrival? edge.source = some here)
    (htarget : ¬ s.IsSettled edge.target) :
    Coherent g source (s.reach edge.target (here.time + edge.weight) id) := by
  have hreach : ∀ {u}, (s.reach edge.target (here.time + edge.weight) id).arrival? u =
      if u = edge.target then some ⟨here.time + edge.weight, some id⟩ else s.arrival? u :=
    hs.arrival?_reach ht
  have hsettled : ∀ {u}, s.IsSettled u → u ≠ edge.target := fun hu h => htarget (h ▸ hu)
  have hold : ∀ {u}, s.IsSettled u →
      (s.reach edge.target (here.time + edge.weight) id).arrival? u = s.arrival? u :=
    fun hu => by rw [hreach, if_neg (hsettled hu)]
  refine ⟨hs.toFits.reach, ?_, ?_, ?_, ?_, ?_, hs.source_first, ?_⟩
  · rw [hold (hs.source_first hsource), hs.arrival_source]
  · intro u a ha hvia
    rw [hreach] at ha
    split at ha
    · cases ha
      cases hvia
    · exact hs.eq_source ha hvia
  · intro u a id' ha hvia
    rw [hreach] at ha
    split at ha
    · rename_i hu
      subst hu
      cases ha
      cases hvia
      exact ⟨edge, here, hedge, rfl, hsource, by rw [hold hsource, hhere], rfl⟩
    · obtain ⟨edge', here', hedge', htarget', hsource', hhere', htime⟩ := hs.via ha hvia
      exact ⟨edge', here', hedge', htarget', hsource', by rw [hold hsource', hhere'], htime⟩
  · intro u hu
    rw [hold hu]
    exact hs.reached hu
  · intro entry he
    rw [hreach]
    split
    · exact ⟨_, rfl⟩
    · rename_i hne
      rcases State.mem_queue_reach.1 he with rfl | he
      · exact absurd rfl hne
      · exact hs.queued he
  · obtain ⟨order, horder, hmem⟩ := hs.order
    exact ⟨order, horder.congr fun u hu => hold ((hmem u).1 hu), hmem⟩

/-- Following an edge out of a settled vertex succeeds, keeps the invariant and what is settled, and
queues one entry at most. -/
theorem relax (hg : g.WellFormed) (hs : Coherent g source s) {id : EdgeId} {edge : Edge α}
    (hedge : g.edges[id]? = some edge) (hsource : s.IsSettled edge.source) :
    ∃ s', Search.relax g edge.source s id = some s' ∧ Coherent g source s' ∧ s.Later s' ∧
      (∀ v, s'.IsSettled v ↔ s.IsSettled v) ∧
      s'.queue.toList.length ≤ s.queue.toList.length + 1 := by
  obtain ⟨here, hhere⟩ := hs.reached hsource
  have ht : edge.target < g.vertexCount := hg.target_lt hedge
  refine ⟨_, relax_eq hs.toFits hedge ht hhere, ?_⟩
  split
  · rename_i h
    refine ⟨hs.reach hedge ht hsource hhere h.1, ⟨fun hv => hv, fun hv => ?_⟩, fun _ => Iff.rfl,
      Nat.le_of_eq State.length_queue_reach⟩
    rw [hs.arrival?_reach ht, if_neg]
    rintro rfl
    exact h.1 hv
  · exact ⟨hs, .refl s, fun _ => Iff.rfl, Nat.le_succ _⟩

/-- Following edges out of a settled vertex, one after the other, succeeds, keeps the invariant and
what is settled, and queues one entry at most for each. What else holds of the edges still to be
followed and the state has to be kept by following an edge. -/
theorem relaxAll (hg : g.WellFormed) {vertex : VertexId} (P : List EdgeId → State α → Prop)
    (followed : ∀ id rest s' s'' edge, g.edges[id]? = some edge → edge.source = vertex →
      Coherent g source s' → s'.IsSettled vertex → P (id :: rest) s' →
      Search.relax g vertex s' id = some s'' → P rest s'')
    {ids : List EdgeId}
    (hids : ∀ id ∈ ids, ∃ edge, g.edges[id]? = some edge ∧ edge.source = vertex)
    (hs : Coherent g source s) (hv : s.IsSettled vertex) (hP : P ids s) :
    ∃ s', ids.foldlM (Search.relax g vertex) s = some s' ∧ Coherent g source s' ∧ s.Later s' ∧
      (∀ u, s'.IsSettled u ↔ s.IsSettled u) ∧
      s'.queue.toList.length ≤ s.queue.toList.length + ids.length ∧ P [] s' := by
  induction ids generalizing s with
  | nil => exact ⟨s, rfl, hs, .refl s, fun _ => Iff.rfl, Nat.le_refl _, hP⟩
  | cons id rest ih =>
      rw [List.forall_mem_cons] at hids
      obtain ⟨⟨edge, hedge, rfl⟩, hrest⟩ := hids
      obtain ⟨next, hnext, hnext', hlater, hsame, hcount⟩ := hs.relax hg hedge hv
      have hPnext : P rest next := followed id rest s next edge hedge rfl hs hv hP hnext
      obtain ⟨last, hlast, hlast', hlater', hsame', hcount', hPlast⟩ :=
        ih hrest hnext' ((hsame _).2 hv) hPnext
      refine ⟨last, ?_, hlast', hlater.trans hlater', ?_, ?_, hPlast⟩
      · rw [List.foldlM_cons, hnext]
        exact hlast
      · intro u
        exact (hsame' u).trans (hsame u)
      · rw [List.length_cons]
        omega

section taken

variable {entry : Entry α} {queue : Queue α}

/-- What comes out of the queue was reached. -/
theorem exists_arrival_of_pop? (hs : Coherent g source s)
    (hpop : s.queue.pop? = some (entry, queue)) : ∃ a, s.arrival? entry.vertex = some a :=
  hs.queued ((Queue.toList_of_pop? hpop).mem_iff.2 List.mem_cons_self)

/-- Closing the vertex of what comes out settles that vertex in addition. -/
theorem isSettled_closeTaken (hs : Coherent g source s) (hpop : s.queue.pop? = some (entry, queue))
    {vertex : VertexId} : (State.close { s with queue } entry.vertex).IsSettled vertex ↔
      vertex = entry.vertex ∨ s.IsSettled vertex := by
  obtain ⟨a, ha⟩ := hs.exists_arrival_of_pop? hpop
  exact (hs.toFits.withQueue queue).isSettled_close (hs.lt_of_arrival? ha)

/-- Taking an entry from the queue keeps the invariant. -/
theorem take (hs : Coherent g source s) (hpop : s.queue.pop? = some (entry, queue)) :
    Coherent g source { s with queue } :=
  hs.withQueue fun _ he => (Queue.toList_of_pop? hpop).mem_iff.2 (List.mem_cons_of_mem _ he)

/-- Closing the vertex of what comes out keeps the invariant, if that was open. -/
theorem closeTaken (hs : Coherent g source s) (hpop : s.queue.pop? = some (entry, queue))
    (hv : ¬ s.IsSettled entry.vertex) :
    Coherent g source (State.close { s with queue } entry.vertex) := by
  obtain ⟨a, ha⟩ := hs.exists_arrival_of_pop? hpop
  exact (hs.take hpop).close ha hv

/-- **Visiting what comes out of the queue** succeeds, keeps the invariant and what is settled, and
makes the load smaller. What else holds after it, of the edges still to be followed and the state,
has to hold of a stale entry and of a vertex just closed, and to be kept by following an edge. -/
theorem visit (hg : g.WellFormed) (hs : Coherent g source s)
    (hpop : s.queue.pop? = some (entry, queue)) (P : List EdgeId → State α → Prop)
    (stale : s.IsSettled entry.vertex → P [] { s with queue })
    (closed : ¬ s.IsSettled entry.vertex → ∀ ids, g.incidence[entry.vertex]? = some ids →
      P (if entry.vertex = target then [] else ids.toList)
        (State.close { s with queue } entry.vertex))
    (followed : ∀ id rest s' s'' edge, g.edges[id]? = some edge → edge.source = entry.vertex →
      Coherent g source s' → s'.IsSettled entry.vertex → P (id :: rest) s' →
      Search.relax g entry.vertex s' id = some s'' → P rest s'') :
    ∃ s', Search.visit g target entry.vertex { s with queue } = some s' ∧
      Coherent g source s' ∧ s.Later s' ∧ s'.load g < s.load g ∧ P [] s' := by
  have hlength : s.queue.toList.length = queue.toList.length + 1 :=
    (Queue.toList_of_pop? hpop).length_eq
  have hrest : Coherent g source { s with queue } := hs.take hpop
  obtain ⟨a, ha⟩ := hs.exists_arrival_of_pop? hpop
  obtain ⟨ids, hids⟩ := Graph.exists_incidence (hs.lt_of_arrival? ha)
  rw [visit_eq hrest.toFits hids]
  by_cases hv : s.IsSettled entry.vertex
  · refine ⟨_, if_pos hv, hrest, ⟨fun h => h, fun _ => rfl⟩, ?_, stale hv⟩
    unfold State.load
    rw [hlength, untried_congr fun _ => Iff.rfl]
    exact Nat.add_lt_add_right (Nat.lt_succ_self _) _
  have hclosed : Coherent g source (State.close { s with queue } entry.vertex) :=
    hs.closeTaken hpop hv
  have hsettled : ∀ {u}, (State.close { s with queue } entry.vertex).IsSettled u ↔
      u = entry.vertex ∨ s.IsSettled u := hs.isSettled_closeTaken hpop
  have hlater : s.Later (State.close { s with queue } entry.vertex) :=
    ⟨fun h => hsettled.2 (.inr h), fun _ => rfl⟩
  have huntried : (State.close { s with queue } entry.vertex).untried g + ids.toList.length =
      s.untried g := untried_close hg hrest.toFits hids hv
  have hP := closed hv ids hids
  rw [if_neg (by simpa using hv)]
  by_cases ht : entry.vertex = target
  · rw [if_pos ht] at hP
    refine ⟨_, if_pos ht, hclosed, hlater, ?_, hP⟩
    unfold State.load
    rw [hlength, State.queue_close]
    simp only
    omega
  rw [if_neg ht] at hP ⊢
  obtain ⟨last, hlast, hcoherent, hlater', hsame, hcount, hP'⟩ :=
    hclosed.relaxAll hg P followed (fun id => (hg.mem_incidence hids).1) (hsettled.2 (.inl rfl)) hP
  refine ⟨last, hlast, hcoherent, hlater.trans hlater', ?_, hP'⟩
  -- each edge queues one entry at most, and they are no longer untried
  unfold State.load
  rw [hlength, untried_congr hsame]
  rw [State.queue_close] at hcount
  simp only at hcount
  omega

/-- A visit succeeds, keeps the invariant and what is settled, and leaves less to do. It starts by
closing its vertex, if that is open. -/
theorem exists_visit (hg : g.WellFormed) (hs : Coherent g source s)
    (hpop : s.queue.pop? = some (entry, queue)) (target : VertexId) :
    ∃ next, Search.visit g target entry.vertex { s with queue } = some next ∧
      Coherent g source next ∧ s.Later next ∧ next.load g < s.load g ∧
      (¬ s.IsSettled entry.vertex →
        (State.close { s with queue } entry.vertex).Later next) := by
  refine hs.visit hg hpop
    (fun _ s' => ¬ s.IsSettled entry.vertex →
      (State.close { s with queue } entry.vertex).Later s') ?_ ?_ ?_
  · exact fun hstale hopen => absurd hstale hopen
  · exact fun _ _ _ _ => .refl _
  · intro id rest s' s'' edge hedge hsource hs' hv hclosed hrelax hopen
    obtain ⟨next, hnext, -, hlater, -⟩ := hs'.relax hg hedge (hsource ▸ hv)
    rw [hsource] at hnext
    obtain rfl := Option.some.inj (hnext.symm.trans hrelax)
    exact (hclosed hopen).trans hlater

end taken

/-! ## The way to a settled vertex -/

/-- Following last edges backwards from a settled vertex gives a way to it that passes no vertex
twice, and takes no more steps than there are vertices settled before. -/
theorem exists_wayTo_of_sequence (hs : Coherent g source s) {order : List VertexId}
    (horder : Sequence g s order) (hsettled : ∀ v ∈ order, s.IsSettled v) {vertex : VertexId}
    (hv : vertex ∈ order) {limit : Nat} (hlimit : order.length ≤ limit) (onward : List EdgeId) :
    ∃ a way, s.arrival? vertex = some a ∧ wayTo g s limit vertex onward = some (way ++ onward) ∧
      g.Way source vertex a.time way ∧ (g.visited source way).Nodup ∧
      ∀ u ∈ g.visited source way, u ∈ order := by
  induction order generalizing vertex limit onward with
  | nil => cases hv
  | cons latest earlier ih =>
      obtain ⟨hlatest, hvia, hearlier⟩ := horder
      have hin : ∀ v ∈ earlier, s.IsSettled v := fun v h => hsettled v (List.mem_cons_of_mem _ h)
      obtain ⟨limit, rfl⟩ : ∃ k, limit = k + 1 :=
        ⟨limit - 1, by rw [List.length_cons] at hlimit; omega⟩
      have hshort : earlier.length ≤ limit := by
        rw [List.length_cons] at hlimit
        omega
      rcases List.mem_cons.1 hv with rfl | hv
      · obtain ⟨a, ha⟩ := hs.reached (hsettled _ List.mem_cons_self)
        have hlookup := hs.getElem?_arrivals (hs.lt_of_arrival? ha)
        cases hlast : a.via with
        | none =>
            -- the vertex is the source, and the way is empty
            obtain rfl := hs.eq_source ha hlast
            obtain rfl : a = ⟨Quantity.zero, none⟩ := by simpa [hs.arrival_source] using ha.symm
            refine ⟨_, [], ha, ?_, .start, by simp, by simp⟩
            simp [wayTo, hlookup, ha]
        | some id =>
            obtain ⟨edge, here, hedge, htarget, -, hhere, htime⟩ := hs.via ha hlast
            have hsource : edge.source ∈ earlier := hvia a id edge ha hlast hedge
            obtain ⟨b, way, hb, hway, hto, hnodup, hmem⟩ :=
              ih hearlier hin hsource hshort (id :: onward)
            obtain rfl : here = b := by simpa [hhere] using hb
            subst htarget
            refine ⟨a, way ++ [id], ha, ?_, ?_, ?_, ?_⟩
            · simp [wayTo, hlookup, ha, hlast, hedge, hway]
            · rw [htime]
              exact hto.follow hedge rfl
            · exact Graph.nodup_visited_concat hedge hnodup fun hpassed => hlatest (hmem _ hpassed)
            · intro u hu
              rw [Graph.visited_concat hedge, List.mem_append, List.mem_singleton] at hu
              rcases hu with hu | rfl
              · exact List.mem_cons_of_mem _ (hmem u hu)
              · exact List.mem_cons_self
      · obtain ⟨a, way, ha, hway, hto, hnodup, hmem⟩ :=
          ih hearlier hin hv (Nat.le_succ_of_le hshort) onward
        exact ⟨a, way, ha, hway, hto, hnodup, fun u hu => List.mem_cons_of_mem _ (hmem u hu)⟩

/-- The way to a settled vertex is found within as many steps as there are vertices. -/
theorem exists_wayTo (hs : Coherent g source s) {vertex : VertexId} (hv : s.IsSettled vertex) :
    ∃ a way, s.arrival? vertex = some a ∧ wayTo g s g.vertexCount vertex [] = some way ∧
      g.Way source vertex a.time way ∧ (g.visited source way).Nodup := by
  obtain ⟨order, horder, hmem⟩ := hs.order
  have hsub : order ⊆ List.range g.vertexCount := by
    intro u hu
    exact List.mem_range.2 (hs.lt_of_isSettled ((hmem u).1 hu))
  have hlimit : order.length ≤ g.vertexCount := by
    simpa using (List.subperm_of_subset horder.nodup hsub).length_le
  obtain ⟨a, way, ha, hway, hto, hnodup, -⟩ := hs.exists_wayTo_of_sequence horder
    (fun u hu => (hmem u).1 hu) ((hmem vertex).2 hv) hlimit []
  exact ⟨a, way, ha, by simpa using hway, hto, hnodup⟩

end Coherent

/-! ## The last state of a search -/

/-- The state in which a search from a source to a target ends. -/
def IsLast (g : Graph α) (source target : VertexId) (s : State α) : Prop :=
  explore g target (g.edgeCount + 1) (.start g.vertexCount source) = some s

/-- **A search ends**, in a coherent state, with the target settled or nothing queued; and what
every visit keeps holds of that state. -/
theorem exists_last (hsource : source < g.vertexCount) (htarget : target < g.vertexCount)
    {Q : State α → Prop} (start : Q (.start g.vertexCount source))
    (step : ∀ s entry queue, Coherent g source s → Q s → ¬ s.IsSettled target →
      s.queue.pop? = some (entry, queue) →
      ∃ s', visit g target entry.vertex { s with queue } = some s' ∧ Coherent g source s' ∧
        s'.load g < s.load g ∧ Q s') :
    ∃ s : State α, IsLast g source target s ∧ Coherent g source s ∧ Q s ∧
      (s.IsSettled target ∨ s.queue.toList = []) := by
  obtain ⟨s, hlast, ⟨hs, hQ⟩, hend⟩ := exists_explore (g := g)
    (P := fun s => Coherent g source s ∧ Q s)
    (fun s hs => hs.1.size_settled ▸ htarget)
    (fun s entry queue hs ht hpop => by
      obtain ⟨s', hvisit, hs', hload, hQ⟩ := step s entry queue hs.1 hs.2 ht hpop
      exact ⟨s', hvisit, ⟨hs', hQ⟩, hload⟩)
    (g.edgeCount + 1) (.start g.vertexCount source) ⟨.start hsource, start⟩ (by
      have huntried : (State.start g.vertexCount source : State α).untried g ≤ g.edgeCount := by
        simpa [State.untried] using List.countP_le_length (p := _) (l := List.range g.edgeCount)
      simp only [State.load, State.start, Queue.single, Queue.toList, List.length_cons,
        List.append_nil, List.length_nil] at huntried ⊢
      omega)
  exact ⟨s, hlast, hs, hQ, hend⟩

/-- A search that settles its target answers with what is looked up in its last state. -/
theorem shortest_of_wayTo (hsource : source < g.vertexCount) (hlast : IsLast g source target s)
    (ht : s.IsSettled target) {a : Arrival α} {way : List EdgeId}
    (ha : s.arrival? target = some a) (hway : wayTo g s g.vertexCount target [] = some way) :
    shortest g source target = .value (a.time, way) := by
  obtain ⟨ids, hids⟩ := Graph.exists_incidence hsource
  have hjoin : s.arrivals[target]?.join = some a := ha
  unfold IsLast at hlast
  simp [shortest, hids, hlast, show s.settled[target]? = some true from ht, hjoin, hway]

/-- A search that settles its target answers with the target's time and the way to it. -/
theorem shortest_of_isSettled (hsource : source < g.vertexCount) (hlast : IsLast g source target s)
    (hs : Coherent g source s) (ht : s.IsSettled target) :
    ∃ a way, s.arrival? target = some a ∧ shortest g source target = .value (a.time, way) ∧
      g.Way source target a.time way ∧ (g.visited source way).Nodup := by
  obtain ⟨a, way, ha, hway, hto, hnodup⟩ := hs.exists_wayTo ht
  exact ⟨a, way, ha, shortest_of_wayTo hsource hlast ht ha hway, hto, hnodup⟩

/-- A search that does not settle its target answers that it is unreachable. -/
theorem shortest_of_not_isSettled (hsource : source < g.vertexCount)
    (htarget : target < g.vertexCount) (hlast : IsLast g source target s)
    (hs : Coherent g source s) (ht : ¬ s.IsSettled target) :
    shortest g source target = .failed .unreachable := by
  obtain ⟨ids, hids⟩ := Graph.exists_incidence hsource
  have hfalse : s.settled[target]? = some false := by simp [hs.getElem?_settled htarget, ht]
  unfold IsLast at hlast
  simp [shortest, hids, hlast, hfalse]

/-- **A search gives a way to its target, or it answers that the target is unreachable.** -/
theorem exists_way_or_unreachable (hg : g.WellFormed) (hsource : source < g.vertexCount)
    (htarget : target < g.vertexCount) :
    (∃ total way, shortest g source target = .value (total, way) ∧
      g.Way source target total way) ∨ shortest g source target = .failed .unreachable := by
  obtain ⟨s, hlast, hs, -, -⟩ := exists_last hsource htarget (Q := fun _ => True) trivial
    fun s entry queue hs _ _ hpop => by
      obtain ⟨s', hvisit, hs', -, hload, -⟩ := hs.exists_visit hg hpop target
      exact ⟨s', hvisit, hs', hload, trivial⟩
  by_cases ht : s.IsSettled target
  · obtain ⟨a, way, -, hshortest, hway, -⟩ := shortest_of_isSettled hsource hlast hs ht
    exact .inl ⟨a.time, way, hshortest, hway⟩
  · exact .inr (shortest_of_not_isSettled hsource htarget hlast hs ht)

end BusNetwork.Search
