import BusNetwork.Proofs.Search.Tree

/-!
# Searches from one source

Two searches from the same source for different targets take the same steps until one of them is
done, and what one has settled the other does not touch again. So **where an answer passes a vertex,
the search for that vertex answers with the part of the way up to there** (`shortest_of_passed`). No
law of the numbers is used.

* `Traced g s vertex way` — the last edges of the arrivals, followed backwards from a vertex, are
  `way`. It is what `wayTo` looks up, and it stays as it is once the vertex is settled
  (`Traced.later`).
* `exists_explore_of_isSettled` — a search passes through the state in which the search for any
  vertex that it settles has ended.
-/

set_option linter.unusedSectionVars false

namespace BusNetwork.Search

variable {α : Type} {g : Graph α} {s s' last : State α} {source target vertex : VertexId}
  {way : List EdgeId} {limit : Nat}

/-- What stands in a list is its last item, or it stands before that one. -/
theorem eq_or_exists_of_concat {β : Type} {init before after : List β} {last item : β}
    (h : init ++ [last] = before ++ item :: after) :
    (item = last ∧ init = before) ∨ ∃ rest, init = before ++ item :: rest := by
  rcases List.eq_nil_or_concat after with rfl | ⟨rest, final, rfl⟩
  · obtain ⟨rfl, hlast⟩ := List.append_inj' h rfl
    exact .inl ⟨(List.singleton_inj.1 hlast).symm, rfl⟩
  · rw [List.concat_eq_append, ← List.cons_append, ← List.append_assoc] at h
    exact .inr ⟨rest, (List.append_inj' h rfl).1⟩

/-! ## Following last edges backwards -/

/-- The last edges of the arrivals lead to a vertex from one that was reached by none. -/
inductive Traced (g : Graph α) (s : State α) : VertexId → List EdgeId → Prop where
  /-- Nothing leads to a vertex that was reached by no edge. -/
  | start {vertex : VertexId} {a : Arrival α} : s.arrival? vertex = some a → a.via = none →
    Traced g s vertex []
  /-- The last edge of a vertex goes on from the vertex that it leaves. -/
  | follow {vertex : VertexId} {way : List EdgeId} {id : EdgeId} {edge : Edge α} {a : Arrival α} :
    Traced g s edge.source way → g.edges[id]? = some edge → edge.target = vertex →
    s.arrival? vertex = some a → a.via = some id → Traced g s vertex (way ++ [id])

/-- Last edges lead to a vertex in one way only. -/
theorem Traced.unique {way' : List EdgeId} (h : Traced g s vertex way)
    (h' : Traced g s vertex way') : way = way' := by
  induction h generalizing way' with
  | start ha hvia =>
      cases h' with
      | start => rfl
      | follow _ _ _ ha' hvia' =>
          obtain rfl := Option.some.inj (ha.symm.trans ha')
          rw [hvia] at hvia'
          cases hvia'
  | follow _ hedge _ ha hvia ih =>
      cases h' with
      | start ha' hvia' =>
          obtain rfl := Option.some.inj (ha.symm.trans ha')
          rw [hvia] at hvia'
          cases hvia'
      | follow hway' hedge' _ ha' hvia' =>
          obtain rfl := Option.some.inj (ha.symm.trans ha')
          obtain rfl := Option.some.inj (hvia.symm.trans hvia')
          obtain rfl := Option.some.inj (hedge.symm.trans hedge')
          rw [ih hway']

variable [Quantity α]

/-- What leads to a settled vertex passes settled vertices, and is not changed later. -/
theorem Traced.later (h : Traced g s vertex way) (hs : Coherent g source s)
    (hv : s.IsSettled vertex) (hlater : s.Later s') : Traced g s' vertex way := by
  induction h with
  | start ha hvia => exact .start ((hlater.arrival? hv).trans ha) hvia
  | follow _ hedge htarget ha hvia ih =>
      obtain ⟨edge', -, hedge', -, hsettled, -⟩ := hs.via ha hvia
      obtain rfl := Option.some.inj (hedge.symm.trans hedge')
      exact .follow (ih hsettled) hedge htarget ((hlater.arrival? hv).trans ha) hvia

/-- Each edge that leads to a settled vertex is the last edge of a settled vertex, and what stands
before it leads to the vertex that it leaves. -/
theorem Traced.of_passed (h : Traced g s vertex way) (hs : Coherent g source s)
    (hv : s.IsSettled vertex) {before after : List EdgeId} {id : EdgeId}
    (hway : way = before ++ id :: after) :
    ∃ edge a, g.edges[id]? = some edge ∧ Traced g s edge.source before ∧
      s.IsSettled edge.source ∧ s.IsSettled edge.target ∧ s.arrival? edge.target = some a ∧
      a.via = some id := by
  induction h generalizing after with
  | start => simp at hway
  | @follow vertex way last edge a htraced hedge htarget ha hvia ih =>
      obtain ⟨edge', -, hedge', -, hsettled, -⟩ := hs.via ha hvia
      obtain rfl := Option.some.inj (hedge.symm.trans hedge')
      rcases eq_or_exists_of_concat hway with ⟨rfl, rfl⟩ | ⟨rest, rfl⟩
      · subst htarget
        exact ⟨edge, a, hedge, htraced, hsettled, hv, ha, hvia⟩
      · exact ih hsettled rfl

/-- A way that is looked up in a coherent state follows last edges backwards. -/
theorem Coherent.exists_traced_of_wayTo (hs : Coherent g source s) {a : Arrival α}
    (ha : s.arrival? vertex = some a) {onward full : List EdgeId}
    (h : wayTo g s limit vertex onward = some full) :
    ∃ way, full = way ++ onward ∧ Traced g s vertex way := by
  induction limit generalizing vertex a onward with
  | zero => cases h
  | succ limit ih =>
      have hlookup := hs.getElem?_arrivals (hs.lt_of_arrival? ha)
      simp only [wayTo, hlookup, ha, Option.bind_eq_bind, Option.bind_some] at h
      cases hvia : a.via with
      | none =>
          rw [hvia] at h
          exact ⟨[], (Option.some.inj h).symm, .start ha hvia⟩
      | some id =>
          obtain ⟨edge, here, hedge, htarget, -, hhere, -⟩ := hs.via ha hvia
          simp only [hvia, hedge, Option.bind_some] at h
          obtain ⟨way, rfl, hway⟩ := ih hhere h
          exact ⟨way ++ [id], by simp, .follow hway hedge htarget ha hvia⟩

/-! ## Searches for different targets -/

/-- A search is over when its target is settled. -/
theorem explore_of_isSettled (ht : s.IsSettled target) : explore g target limit s = some s := by
  have htrue : s.settled[target]? = some true := ht
  cases limit <;> simp [explore, htrue]

/-- A search is over when nothing is queued. -/
theorem explore_of_pop?_eq_none (hs : s.Fits g) (htarget : target < g.vertexCount)
    (hpop : s.queue.pop? = none) : explore g target limit s = some s := by
  cases limit <;> simp [explore, hs.getElem?_settled htarget, hpop]

section taken

variable {entry : Entry α} {queue : Queue α}

/-- A search goes on with a visit until its target is settled. -/
theorem explore_of_pop? (hs : s.Fits g) (htarget : target < g.vertexCount)
    (ht : ¬ s.IsSettled target) (hpop : s.queue.pop? = some (entry, queue)) :
    explore g target (limit + 1) s =
      (visit g target entry.vertex { s with queue }).bind (explore g target limit) := by
  simp [explore, hs.getElem?_settled htarget, ht, hpop]

/-- Searches for two targets visit a vertex in the same way, unless one of them closes it because it
is the target. -/
theorem Coherent.visit_eq_or (hs : Coherent g source s) (hpop : s.queue.pop? = some (entry, queue))
    (target other : VertexId) :
    Search.visit g other entry.vertex { s with queue } =
        Search.visit g target entry.vertex { s with queue } ∨
    ¬ s.IsSettled entry.vertex ∧
      (entry.vertex = other ∧ Search.visit g other entry.vertex { s with queue } =
          some (State.close { s with queue } entry.vertex) ∨
        entry.vertex ≠ other ∧ entry.vertex = target ∧
          Search.visit g target entry.vertex { s with queue } =
            some (State.close { s with queue } entry.vertex)) := by
  obtain ⟨a, ha⟩ := hs.exists_arrival_of_pop? hpop
  obtain ⟨ids, hids⟩ := Graph.exists_incidence (hs.lt_of_arrival? ha)
  have hrest : State.Fits g { s with queue } := hs.toFits.withQueue queue
  rw [visit_eq hrest hids, visit_eq hrest hids]
  simp only [State.isSettled_withQueue]
  by_cases hv : s.IsSettled entry.vertex
  · exact .inl (by rw [if_pos hv, if_pos hv])
  rw [if_neg hv, if_neg hv]
  by_cases ho : entry.vertex = other
  · exact .inr ⟨hv, .inl ⟨ho, if_pos ho⟩⟩
  by_cases ht : entry.vertex = target
  · exact .inr ⟨hv, .inr ⟨ho, ht, if_pos ht⟩⟩
  · exact .inl (by rw [if_neg ho, if_neg ht])

end taken

/-- A search keeps the invariant and what is settled. -/
theorem Coherent.of_explore (hg : g.WellFormed) (htarget : target < g.vertexCount)
    (hs : Coherent g source s) (h : explore g target limit s = some last) :
    Coherent g source last ∧ s.Later last := by
  induction limit generalizing s with
  | zero =>
      obtain rfl : s = last := Option.some.inj h
      exact ⟨hs, .refl s⟩
  | succ limit ih =>
      by_cases ht : s.IsSettled target
      · rw [explore_of_isSettled ht] at h
        obtain rfl := Option.some.inj h
        exact ⟨hs, .refl s⟩
      cases hpop : s.queue.pop? with
      | none =>
          rw [explore_of_pop?_eq_none hs.toFits htarget hpop] at h
          obtain rfl := Option.some.inj h
          exact ⟨hs, .refl s⟩
      | some popped =>
          obtain ⟨next, hnext, hco, hlater, -, -⟩ := hs.exists_visit hg hpop target
          rw [explore_of_pop? hs.toFits htarget ht hpop, hnext] at h
          obtain ⟨hlast, hlater'⟩ := ih hco h
          exact ⟨hlast, hlater.trans hlater'⟩

/-- **A search passes through the last state of the search for any vertex that it settles**, and
what is settled there stays as it is. -/
theorem Coherent.exists_explore_of_isSettled (hg : g.WellFormed) (htarget : target < g.vertexCount)
    (hs : Coherent g source s) (h : explore g target limit s = some last)
    (hv : last.IsSettled vertex) :
    ∃ mid, explore g vertex limit s = some mid ∧ mid.IsSettled vertex ∧ Coherent g source mid ∧
      mid.Later last := by
  have hlt : vertex < g.vertexCount := (hs.of_explore hg htarget h).1.lt_of_isSettled hv
  induction limit generalizing s with
  | zero =>
      obtain rfl : s = last := Option.some.inj h
      exact ⟨s, rfl, hv, hs, .refl s⟩
  | succ limit ih =>
      by_cases hnow : s.IsSettled vertex
      · exact ⟨s, explore_of_isSettled hnow, hnow, hs, (hs.of_explore hg htarget h).2⟩
      have hopen : ¬ s.IsSettled target := by
        intro ht
        rw [explore_of_isSettled ht] at h
        exact hnow (Option.some.inj h ▸ hv)
      cases hpop : s.queue.pop? with
      | none =>
          rw [explore_of_pop?_eq_none hs.toFits htarget hpop] at h
          exact absurd (Option.some.inj h ▸ hv) hnow
      | some popped =>
          obtain ⟨entry, queue⟩ := popped
          obtain ⟨next, hnext, hco, -, -, hclosed⟩ := hs.exists_visit hg hpop target
          rw [explore_of_pop? hs.toFits htarget hopen hpop, hnext, Option.bind_some] at h
          rw [explore_of_pop? hs.toFits hlt hnow hpop]
          have hclose : ∀ {u}, (State.close { s with queue } entry.vertex).IsSettled u ↔
              u = entry.vertex ∨ s.IsSettled u := hs.isSettled_closeTaken hpop
          rcases hs.visit_eq_or hpop target vertex with
            hsame | ⟨hentry, ⟨rfl, hvisit⟩ | ⟨hne, rfl, hvisit⟩⟩
          · -- both searches take the same step
            rw [hsame, hnext]
            exact ih hco h
          · -- the search for the vertex ends here, the other goes on
            rw [hvisit, Option.bind_some, explore_of_isSettled (hclose.2 (.inl rfl))]
            exact ⟨_, rfl, hclose.2 (.inl rfl), hs.closeTaken hpop hentry,
              (hclosed hentry).trans (hco.of_explore hg htarget h).2⟩
          · -- the search for the target ends here, before the vertex is settled
            obtain rfl := Option.some.inj (hnext.symm.trans hvisit)
            rw [explore_of_isSettled (hclose.2 (.inl rfl))] at h
            obtain rfl := Option.some.inj h
            exact absurd ((hclose.1 hv).resolve_left (Ne.symm hne)) hnow

/-! ## What an answer says of the vertices it passes -/

/-- The way that a search answers with follows the last edges of its last state. -/
theorem Coherent.traced_of_shortest (hs : Coherent g source s) (hlast : IsLast g source target s)
    (ht : s.IsSettled target) {total : α} (h : shortest g source target = .value (total, way)) :
    Traced g s target way := by
  obtain ⟨a, way', ha, hway', -, -⟩ := hs.exists_wayTo ht
  have hvalue := shortest_of_wayTo (hs.lt_of_arrival? hs.arrival_source) hlast ht ha hway'
  obtain ⟨-, rfl⟩ := Prod.mk.inj (Outcome.value.inj (h.symm.trans hvalue))
  obtain ⟨traced, rfl, htraced⟩ := hs.exists_traced_of_wayTo ha hway'
  rwa [List.append_nil]

/-- An answer comes from a coherent state in which the target is settled. -/
theorem exists_last_of_shortest (hg : g.WellFormed) (hsource : source < g.vertexCount)
    (htarget : target < g.vertexCount) {total : α}
    (h : shortest g source target = .value (total, way)) :
    ∃ s, IsLast g source target s ∧ Coherent g source s ∧ s.IsSettled target ∧
      Traced g s target way := by
  obtain ⟨s, hlast, hs, -, -⟩ := exists_last hsource htarget (Q := fun _ => True) trivial
    fun s entry queue hs _ _ hpop => by
      obtain ⟨next, hnext, hco, -, hload, -⟩ := hs.exists_visit hg hpop target
      exact ⟨next, hnext, hco, hload, trivial⟩
  by_cases ht : s.IsSettled target
  · exact ⟨s, hlast, hs, ht, hs.traced_of_shortest hlast ht h⟩
  · rw [shortest_of_not_isSettled hsource htarget hlast hs ht] at h
    cases h

/-- **Answers from one source agree.** Where the way of an answer leaves a vertex, the search for
that vertex answers with the part of the way before. -/
theorem shortest_of_passed (hg : g.WellFormed) (hsource : source < g.vertexCount)
    (htarget : target < g.vertexCount) {total : α} {before after : List EdgeId} {id : EdgeId}
    (h : shortest g source target = .value (total, before ++ id :: after)) :
    ∃ edge spent, g.edges[id]? = some edge ∧ g.Way source edge.source spent before ∧
      shortest g source edge.source = .value (spent, before) := by
  obtain ⟨last, hlast, hs, ht, htraced⟩ := exists_last_of_shortest hg hsource htarget h
  obtain ⟨edge, -, hedge, hbefore, hsettled, -⟩ := htraced.of_passed hs ht rfl
  obtain ⟨mid, hmid, hv, hco, hlater⟩ :=
    (Coherent.start hsource).exists_explore_of_isSettled hg htarget hlast hsettled
  obtain ⟨a, way, -, hvalue, hway, -⟩ := shortest_of_isSettled hsource hmid hco hv
  have hsame : Traced g last edge.source way :=
    (hco.traced_of_shortest hmid hv hvalue).later hco hv hlater
  obtain rfl := hsame.unique hbefore
  exact ⟨edge, a.time, hedge, hway, hvalue⟩

/-- No edge leads from the source of a search to itself. -/
theorem eq_nil_of_shortest_self (hg : g.WellFormed) (hsource : source < g.vertexCount) {total : α}
    (h : shortest g source source = .value (total, way)) : way = [] := by
  obtain ⟨s, -, hs, -, htraced⟩ := exists_last_of_shortest hg hsource hsource h
  exact htraced.unique (.start hs.arrival_source rfl)

end BusNetwork.Search
