import BusNetwork.Proofs.Quantity.Steady
import BusNetwork.Proofs.Search.Trace

/-!
# Of edges that join the same vertices the first one is followed

Where two edges join the same two vertices and the one added later has no smaller weight, a search
has no use for it. `FirstChoice g id` says of an edge that no other one was added before it with the
same ends and a weight that is no greater: **an answer consists of first choices only**
(`firstChoice_of_shortest`), whatever else happens to the vertices in between.

* `RankedQuantity` — all that is asked of the numbers: a total order, and sums that keep the order
  of their second part. Weights may be zero, equal, infinite or undefined, but not negative.
* `Sooner` — what betters an arrival still does if it comes sooner, by time and then by edge
  (`betters_of_sooner`).
* `Tried` — the step invariant: the edges that leave a vertex are followed in the order of adding,
  and an edge that was followed would not better anything again.
-/

set_option linter.unusedSectionVars false

namespace BusNetwork

open Quantity

/-- The laws of a total order on amounts, and that sums keep the order of their second part. -/
class RankedQuantity (α : Type) [Quantity α] : Prop where
  /-- Only numbers are compared. -/
  isNumber_of_atMost {x y : α} : AtMost x y → IsNumber x ∧ IsNumber y
  /-- Any two numbers are comparable. -/
  atMost_total {x y : α} : IsNumber x → IsNumber y → AtMost x y ∨ AtMost y x
  /-- The order is transitive. -/
  atMost_trans {x y z : α} : AtMost x y → AtMost y z → AtMost x z
  /-- The strict order is the order without equality. -/
  lt_iff {x y : α} : x < y ↔ AtMost x y ∧ ¬ AtMost y x
  /-- Equality by value is the order in both directions. -/
  beq_iff {x y : α} : (x == y) = true ↔ AtMost x y ∧ AtMost y x
  /-- Zero is a number. -/
  isNumber_zero : IsNumber (zero : α)
  /-- What is below infinity is a number. -/
  isNumber_of_isBelowInfinity {x : α} : isBelowInfinity x = true → IsNumber x
  /-- An amount that is at most one below infinity is below infinity. -/
  isBelowInfinity_of_atMost {x y : α} :
    AtMost zero x → AtMost x y → isBelowInfinity y = true → isBelowInfinity x = true
  /-- Only a number adds up to a number. -/
  isNumber_of_add {x w : α} : IsNumber (x + w) → IsNumber w
  /-- The sum of two amounts is an amount. -/
  zero_atMost_add {x w : α} : AtMost zero x → AtMost zero w → AtMost zero (x + w)
  /-- Adding to the same amount keeps the order. -/
  add_atMost_add_left {x w v : α} :
    AtMost zero x → AtMost zero w → AtMost w v → AtMost (x + w) (x + v)

/-- Monotone quantities are ranked, for adding to the same amount keeps their order. -/
instance {α : Type} [Quantity α] [MonotoneQuantity α] : RankedQuantity α where
  isNumber_of_atMost := OrderedQuantity.isNumber_of_atMost
  atMost_total := OrderedQuantity.atMost_total
  atMost_trans := OrderedQuantity.atMost_trans
  lt_iff := OrderedQuantity.lt_iff
  beq_iff := OrderedQuantity.beq_iff
  isNumber_zero := OrderedQuantity.isNumber_of_isFinite OrderedQuantity.isFinite_zero
  isNumber_of_isBelowInfinity := OrderedQuantity.isNumber_of_isBelowInfinity
  isBelowInfinity_of_atMost hx hxy hy := OrderedQuantity.isBelowInfinity_of_isFinite
    (OrderedQuantity.isFinite_of_atMost hx hxy
      (OrderedQuantity.isFinite_of_isBelowInfinity (hx.trans hxy) hy))
  isNumber_of_add h := (OrderedQuantity.isNumber_of_add h).2
  zero_atMost_add := zero_atMost_add
  add_atMost_add_left := MonotoneQuantity.add_atMost_add_left

variable {α : Type} [Quantity α]

/-- No edge that was added before an edge joins the same vertices at a weight that is no greater,
and the weight of the edge is a number. -/
def Graph.FirstChoice (g : Graph α) (id : EdgeId) : Prop :=
  ∃ edge, g.edges[id]? = some edge ∧ IsNumber edge.weight ∧
    ∀ other edge', other < id → g.edges[other]? = some edge' → edge'.source = edge.source →
      edge'.target = edge.target → ¬ AtMost edge'.weight edge.weight

namespace Search

variable {g : Graph α} {s s' : State α} {source target vertex : VertexId} {id other : EdgeId}
  {time time' : α}

/-! ## What is sooner betters more -/

/-- An amount is no greater than a time, and if it is no smaller either, then its edge was not added
later. -/
structure Sooner (time' : α) (other : EdgeId) (time : α) (id : EdgeId) : Prop where
  /-- It is an amount. -/
  amount : AtMost zero time'
  /-- It is no greater. -/
  atMost : AtMost time' time
  /-- Among equal times the edge decides. -/
  first : AtMost time time' → other ≤ id

variable [RankedQuantity α]

/-- What betters an arrival still does if it comes sooner. -/
theorem betters_of_sooner {known : Option (Arrival α)} (h : Sooner time' other time id)
    (hbetters : betters time id known = true) : betters time' other known = true := by
  cases known with
  | none => exact RankedQuantity.isBelowInfinity_of_atMost h.amount h.atMost hbetters
  | some known =>
      simp only [betters, Bool.or_eq_true, decide_eq_true_eq, Bool.and_eq_true,
        RankedQuantity.lt_iff, RankedQuantity.beq_iff] at hbetters ⊢
      rcases hbetters with ⟨hle, hnot⟩ | ⟨⟨hle, hge⟩, hvia⟩
      · exact .inl ⟨RankedQuantity.atMost_trans h.atMost hle,
          fun hge => hnot (RankedQuantity.atMost_trans hge h.atMost)⟩
      · by_cases hge' : AtMost known.time time'
        · obtain ⟨via, hknown, hlt⟩ := Option.any_eq_true _ _ |>.1 hvia
          refine .inr ⟨⟨RankedQuantity.atMost_trans h.atMost hle, hge'⟩, ?_⟩
          have hfirst := h.first (RankedQuantity.atMost_trans hle hge')
          exact Option.any_eq_true _ _ |>.2
            ⟨via, hknown, decide_eq_true (Nat.lt_of_le_of_lt hfirst (of_decide_eq_true hlt))⟩
        · exact .inl ⟨RankedQuantity.atMost_trans h.atMost hle, hge'⟩

/-- What betters anything is a number. -/
theorem isNumber_of_betters {known : Option (Arrival α)} (h : betters time id known = true) :
    IsNumber time := by
  cases known with
  | none => exact RankedQuantity.isNumber_of_isBelowInfinity h
  | some known =>
      simp only [betters, Bool.or_eq_true, decide_eq_true_eq, Bool.and_eq_true,
        RankedQuantity.lt_iff, RankedQuantity.beq_iff] at h
      rcases h with h | h
      · exact (RankedQuantity.isNumber_of_atMost h.1).1
      · exact (RankedQuantity.isNumber_of_atMost h.1.1).1

/-- An amount that betters an arrival comes sooner. -/
theorem sooner_of_betters (hamount : AtMost zero time')
    (h : betters time' other (some ⟨time, some id⟩) = true) : Sooner time' other time id := by
  simp only [betters, Bool.or_eq_true, decide_eq_true_eq, Bool.and_eq_true,
    RankedQuantity.lt_iff, RankedQuantity.beq_iff, Option.any_some] at h
  rcases h with ⟨hle, hnot⟩ | ⟨⟨hle, -⟩, hlt⟩
  · exact ⟨hamount, hle, fun hge => absurd hge hnot⟩
  · exact ⟨hamount, hle, fun _ => Nat.le_of_lt hlt⟩

/-- Nothing betters itself. -/
theorem not_betters_self : ¬ betters time id (some ⟨time, some id⟩) = true := by
  simp [betters, RankedQuantity.lt_iff]

/-! ## Edges are followed in the order of adding -/

/-- Arrivals are amounts, and first choices lead to them. -/
structure Chosen (g : Graph α) (s : State α) : Prop where
  /-- Arrivals are amounts. -/
  amount {vertex : VertexId} {a : Arrival α} : s.arrival? vertex = some a → AtMost zero a.time
  /-- The last edges of arrivals are first choices. -/
  first {vertex : VertexId} {a : Arrival α} {id : EdgeId} : s.arrival? vertex = some a →
    a.via = some id → g.FirstChoice id

/-- The edges that wait to be followed are in the order of adding, and of the others that leave a
vertex none would better the arrival at an open vertex. -/
structure Tried (g : Graph α) (vertex : VertexId) (waiting : List EdgeId) (s : State α) : Prop where
  /-- The waiting edges come in the order of adding. -/
  ascending : waiting.Pairwise (· < ·)
  /-- The others have been followed. -/
  followed {id : EdgeId} {edge : Edge α} {here : Arrival α} : g.edges[id]? = some edge →
    edge.source = vertex → id ∉ waiting → ¬ s.IsSettled edge.target →
    s.arrival? vertex = some here →
    ¬ betters (here.time + edge.weight) id (s.arrival? edge.target) = true

/-- At the start no edge has been chosen. -/
theorem Chosen.start (hsource : source < g.vertexCount) :
    Chosen g (State.start g.vertexCount source : State α) := by
  have hstart : ∀ {v a}, (State.start g.vertexCount source : State α).arrival? v = some a →
      a = ⟨zero, none⟩ := by
    intro v a ha
    rw [arrival?_start hsource] at ha
    split at ha
    · exact (Option.some.inj ha).symm
    · cases ha
  constructor
  · intro v a ha
    rw [hstart ha]
    exact RankedQuantity.isNumber_zero.atMost_self
  · intro v a id ha hvia
    rw [hstart ha] at hvia
    cases hvia

/-- When a vertex is closed no edge that leaves it has been followed. -/
theorem Tried.close (hg : g.WellFormed) {ids : Array EdgeId}
    (hids : g.incidence[vertex]? = some ids) : Tried g vertex ids.toList s where
  ascending := by
    rw [hg.toList_incidence hids]
    exact List.pairwise_lt_range.filter _
  followed hedge hsource hid := absurd ((hg.mem_incidence hids).2 ⟨_, hedge, hsource⟩) hid

variable {rest : List EdgeId} {edge : Edge α} {here : Arrival α}

/-- An edge whose turn it is betters an arrival only if it is a first choice. -/
theorem Tried.firstChoice (hw : g.NoNegativeWeight) (hc : Chosen g s)
    (ht : Tried g edge.source (id :: rest) s) (hedge : g.edges[id]? = some edge)
    (hhere : s.arrival? edge.source = some here) (hopen : ¬ s.IsSettled edge.target)
    (hbetters : betters (here.time + edge.weight) id (s.arrival? edge.target) = true) :
    g.FirstChoice id := by
  refine ⟨edge, hedge, RankedQuantity.isNumber_of_add (isNumber_of_betters hbetters), ?_⟩
  intro other edge' hlt hedge' hsource htarget hle
  have hearlier : other ∉ id :: rest := by
    have hlater := (List.pairwise_cons.1 ht.ascending).1
    rw [List.mem_cons, not_or]
    exact ⟨Nat.ne_of_lt hlt, fun hmem => Nat.lt_asymm hlt (hlater _ hmem)⟩
  -- the earlier edge comes sooner, so it would better the arrival too, though it was followed
  have hstart : AtMost zero here.time := hc.amount hhere
  have hweight : AtMost zero edge'.weight := hw hedge' (RankedQuantity.isNumber_of_atMost hle).1
  have hsooner : Sooner (here.time + edge'.weight) other (here.time + edge.weight) id :=
    ⟨RankedQuantity.zero_atMost_add hstart hweight,
      RankedQuantity.add_atMost_add_left hstart hweight hle, fun _ => Nat.le_of_lt hlt⟩
  have hrefused := ht.followed hedge' hsource hearlier (htarget ▸ hopen) hhere
  rw [htarget] at hrefused
  exact hrefused (betters_of_sooner hsooner hbetters)

/-- A vertex can be reached anew by an edge whose turn it is. -/
theorem Tried.reach (hw : g.NoNegativeWeight) (hs : Coherent g source s) (hc : Chosen g s)
    (ht : Tried g edge.source (id :: rest) s) (hedge : g.edges[id]? = some edge)
    (hlt : edge.target < g.vertexCount) (hsource : s.IsSettled edge.source)
    (hhere : s.arrival? edge.source = some here) (hopen : ¬ s.IsSettled edge.target)
    (hbetters : betters (here.time + edge.weight) id (s.arrival? edge.target) = true) :
    Chosen g (s.reach edge.target (here.time + edge.weight) id) ∧
      Tried g edge.source rest (s.reach edge.target (here.time + edge.weight) id) := by
  have hfirst : g.FirstChoice id := ht.firstChoice hw hc hedge hhere hopen hbetters
  have hamount : ∀ {id : EdgeId} {edge : Edge α} {known : Option (Arrival α)},
      g.edges[id]? = some edge → betters (here.time + edge.weight) id known = true →
      AtMost zero (here.time + edge.weight) := by
    intro id edge known hedge hbetters
    have hnumber := RankedQuantity.isNumber_of_add (isNumber_of_betters hbetters)
    exact RankedQuantity.zero_atMost_add (hc.amount hhere) (hw hedge hnumber)
  refine ⟨⟨?_, ?_⟩, (List.pairwise_cons.1 ht.ascending).2, ?_⟩
  · intro v a ha
    rw [hs.arrival?_reach hlt] at ha
    split at ha
    · obtain rfl := Option.some.inj ha
      exact hamount hedge hbetters
    · exact hc.amount ha
  · intro v a via ha hvia
    rw [hs.arrival?_reach hlt] at ha
    split at ha
    · obtain rfl := Option.some.inj ha
      obtain rfl := Option.some.inj hvia
      exact hfirst
    · exact hc.first ha hvia
  · intro other edge' here' hedge' hsource' hother hopen' hhere'
    rw [hs.arrival?_reach_of_isSettled hlt hopen hsource] at hhere'
    obtain rfl := Option.some.inj (hhere.symm.trans hhere')
    rw [hs.arrival?_reach hlt]
    by_cases hsame : other = id
    · subst hsame
      obtain rfl := Option.some.inj (hedge.symm.trans hedge')
      rw [if_pos rfl]
      exact not_betters_self
    · have hrefused := ht.followed hedge' hsource' (by simp [hsame, hother]) hopen' hhere
      split
      · rename_i hend
        -- what betters the new arrival would have bettered the former one
        intro hagain
        refine hrefused ?_
        rw [hend]
        exact betters_of_sooner (sooner_of_betters (hamount hedge' hagain) hagain) hbetters
      · exact hrefused

/-- Following an edge keeps all arrivals at first choices, and it need not be followed again. -/
theorem Tried.relax (hg : g.WellFormed) (hw : g.NoNegativeWeight) (hs : Coherent g source s)
    (hc : Chosen g s) (ht : Tried g edge.source (id :: rest) s)
    (hedge : g.edges[id]? = some edge) (hsource : s.IsSettled edge.source)
    (hrelax : Search.relax g edge.source s id = some s') :
    Chosen g s' ∧ Tried g edge.source rest s' := by
  obtain ⟨here, hhere⟩ := hs.reached hsource
  have hlt : edge.target < g.vertexCount := hg.target_lt hedge
  rw [relax_eq hs.toFits hedge hlt hhere, Option.some.injEq] at hrelax
  subst hrelax
  split
  · obtain ⟨hopen, hbetters⟩ := ‹_ ∧ _›
    exact ht.reach hw hs hc hedge hlt hsource hhere hopen hbetters
  · rename_i hstay
    refine ⟨hc, (List.pairwise_cons.1 ht.ascending).2, ?_⟩
    intro other edge' here' hedge' hsource' hother hopen' hhere'
    by_cases hsame : other = id
    · subst hsame
      obtain rfl := Option.some.inj (hedge.symm.trans hedge')
      obtain rfl := Option.some.inj (hhere.symm.trans hhere')
      exact fun hbetters => hstay ⟨hopen', hbetters⟩
    · exact ht.followed hedge' hsource' (by simp [hsame, hother]) hopen' hhere'

/-- A visit keeps all arrivals at first choices. -/
theorem Chosen.exists_visit (hg : g.WellFormed) (hw : g.NoNegativeWeight) (hs : Coherent g source s)
    (h : Chosen g s) {entry : Entry α} {queue : Queue α}
    (hpop : s.queue.pop? = some (entry, queue)) (target : VertexId) :
    ∃ s', visit g target entry.vertex { s with queue } = some s' ∧ Coherent g source s' ∧
      s'.load g < s.load g ∧ Chosen g s' := by
  -- while edges are still to be followed, those that were followed need not be followed again
  have hkept : ∃ s', visit g target entry.vertex { s with queue } = some s' ∧
      Coherent g source s' ∧ s.Later s' ∧ s'.load g < s.load g ∧
      Chosen g s' ∧ (([] : List EdgeId) ≠ [] → Tried g entry.vertex [] s') := by
    refine hs.visit hg hpop
      (fun waiting s' => Chosen g s' ∧ (waiting ≠ [] → Tried g entry.vertex waiting s')) ?_ ?_ ?_
    · exact fun _ => ⟨⟨h.amount, h.first⟩, fun hne => absurd rfl hne⟩
    · intro _ ids hids
      refine ⟨⟨h.amount, h.first⟩, fun hne => ?_⟩
      split at hne
      · exact absurd rfl hne
      · rename_i ht
        rw [if_neg ht]
        exact .close hg hids
    · intro id rest s₁ s₂ edge hedge hsource hs₁ hsettled hP hrelax
      rw [← hsource] at hsettled hP hrelax ⊢
      obtain ⟨hchosen, htried⟩ :=
        (hP.2 (List.cons_ne_nil _ _)).relax hg hw hs₁ hP.1 hedge hsettled hrelax
      exact ⟨hchosen, fun _ => htried⟩
  obtain ⟨s', hvisit, hs', -, hload, hchosen, -⟩ := hkept
  exact ⟨s', hvisit, hs', hload, hchosen⟩

/-- **An answer consists of first choices.** -/
theorem firstChoice_of_shortest (hg : g.WellFormed) (hw : g.NoNegativeWeight)
    (hsource : source < g.vertexCount) (htarget : target < g.vertexCount) {total : α}
    {way : List EdgeId} (h : shortest g source target = .value (total, way)) :
    ∀ id ∈ way, g.FirstChoice id := by
  obtain ⟨s, hlast, hs, hchosen, -⟩ := exists_last hsource htarget (Q := Chosen g)
    (.start hsource)
    fun s entry queue hs hchosen _ hpop => hchosen.exists_visit hg hw hs hpop target
  by_cases ht : s.IsSettled target
  · intro id hid
    obtain ⟨before, after, rfl⟩ := List.append_of_mem hid
    obtain ⟨edge, a, -, -, -, -, ha, hvia⟩ :=
      (hs.traced_of_shortest hlast ht h).of_passed hs ht rfl
    exact hchosen.first ha hvia
  · rw [shortest_of_not_isSettled hsource htarget hlast hs ht] at h
    cases h

end Search

end BusNetwork
