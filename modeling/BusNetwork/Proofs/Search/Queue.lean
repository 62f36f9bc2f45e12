import BusNetwork.Search.Queue
import BusNetwork.Proofs.Quantity.Order

/-!
# The order of a queue

* `Entry.NotAfter a b` — `b` does not come out before `a`. **Among entries whose times are numbers
  this is a total order**: by time, then by edge with none first, then by vertex
  (`notAfter_iff`, `notAfter_trans`).
* `Queue.Ordered` — every root comes not after what its branches hold. Merging keeps it
  (`Ordered.merge`), so **what comes out is not after anything that stays**
  (`Ordered.of_pop?`).
-/

namespace BusNetwork.Search

open Quantity

variable {α : Type} [Quantity α]

/-! ## Entries -/

/-- Pairs of numbers that are not in one lexicographic order are in the opposite one. -/
theorem not_lexLt_iff {p q v w : Nat} :
    ¬ (q < p ∨ q = p ∧ w < v) ↔ p < q ∨ p = q ∧ v ≤ w := by omega

/-- Comparing two numbers by two, the first ones first, passes along. -/
theorem lexLe_trans {p q r u v w : Nat} (h : p < q ∨ p = q ∧ u ≤ v)
    (h' : q < r ∨ q = r ∧ v ≤ w) : p < r ∨ p = r ∧ u ≤ w := by omega

namespace Entry

/-- The edge of an entry as a position, with none in front of all edges. -/
def place (entry : Entry α) : Nat := entry.via.elim 0 (· + 1)

/-- One entry does not have to wait for another. -/
def NotAfter (a b : Entry α) : Prop := b.before a = false

/-- Being reached by no edge precedes being reached by an edge, and edges precede each other in
order. -/
theorem viaBefore_iff {a b : Option EdgeId} :
    viaBefore a b = true ↔ a.elim 0 (· + 1) < b.elim 0 (· + 1) := by
  cases a <;> cases b <;> simp [viaBefore]

/-- One entry precedes another by its time, then its place, then its vertex. -/
theorem before_iff {a b : Entry α} :
    a.before b = true ↔ a.time < b.time ∨ (a.time == b.time) = true ∧
      (a.place < b.place ∨ a.place = b.place ∧ a.vertex < b.vertex) := by
  have hvia : a.via = b.via ↔ a.place = b.place := by
    unfold place
    cases a.via <;> cases b.via <;> simp
  simp [before, viaBefore_iff, hvia, place]

variable [OrderedQuantity α] {a b c : Entry α}

/-- An entry is not after another if its time is less, or is the same and its edge or else its
vertex is not greater. -/
theorem notAfter_iff (ha : IsNumber a.time) (hb : IsNumber b.time) :
    a.NotAfter b ↔ a.time < b.time ∨ (a.time == b.time) = true ∧
      (a.place < b.place ∨ a.place = b.place ∧ a.vertex ≤ b.vertex) := by
  unfold NotAfter
  rw [← Bool.not_eq_true, before_iff]
  simp only [OrderedQuantity.lt_iff, OrderedQuantity.beq_iff]
  by_cases hab : AtMost a.time b.time
  · by_cases hba : AtMost b.time a.time
    · simp only [hab, hba, not_true_eq_false, and_false, and_self, false_or, true_and]
      exact not_lexLt_iff
    · simp only [hab, hba, not_true_eq_false, not_false_eq_true, and_false, false_and, or_self,
        and_self, true_or]
  · have hba : AtMost b.time a.time := (OrderedQuantity.atMost_total ha hb).resolve_left hab
    simp only [hab, hba, not_true_eq_false, not_false_eq_true, false_and, and_self, or_self,
      true_or]

/-- An entry that need not wait for another has a time at most the other's. -/
theorem NotAfter.atMost (ha : IsNumber a.time) (hb : IsNumber b.time) (h : a.NotAfter b) :
    AtMost a.time b.time := by
  rcases (notAfter_iff ha hb).1 h with h | ⟨h, -⟩
  · exact .inl h
  · exact .inr h

/-- Not having to wait passes along among entries whose times are numbers. -/
theorem notAfter_trans (ha : IsNumber a.time) (hb : IsNumber b.time) (hc : IsNumber c.time)
    (hab : a.NotAfter b) (hbc : b.NotAfter c) : a.NotAfter c := by
  have hle := (hab.atMost ha hb).trans (hbc.atMost hb hc)
  rw [notAfter_iff ha hb] at hab
  rw [notAfter_iff hb hc] at hbc
  rw [notAfter_iff ha hc]
  simp only [OrderedQuantity.lt_iff, OrderedQuantity.beq_iff] at hab hbc ⊢
  by_cases hca : AtMost c.time a.time
  · -- all three times are equal
    have hcb : AtMost c.time b.time := by
      rcases hab with ⟨hab, -⟩ | ⟨⟨hab, -⟩, -⟩ <;> exact hca.trans hab
    have hba : AtMost b.time a.time := by
      rcases hbc with ⟨hbc, -⟩ | ⟨⟨hbc, -⟩, -⟩ <;> exact hbc.trans hca
    simp only [hba, hcb, hca, hle, not_true_eq_false, and_false, and_true, false_or, true_and]
      at hab hbc ⊢
    exact lexLe_trans hab.2 hbc.2
  · exact .inl ⟨hle, hca⟩

/-- An entry that comes out before another is not after it. -/
theorem notAfter_of_before (ha : IsNumber a.time) (hb : IsNumber b.time)
    (h : a.before b = true) : a.NotAfter b := by
  rw [before_iff] at h
  rw [notAfter_iff ha hb]
  rcases h with h | ⟨htime, h | ⟨hplace, h⟩⟩
  · exact .inl h
  · exact .inr ⟨htime, .inl h⟩
  · exact .inr ⟨htime, .inr ⟨hplace, Nat.le_of_lt h⟩⟩

/-- Coming out before is transitive. -/
theorem before_trans (ha : IsNumber a.time) (hb : IsNumber b.time) (hc : IsNumber c.time)
    (hab : a.before b = true) (hbc : b.before c = true) : a.before c = true := by
  by_contra hac
  rw [Bool.not_eq_true] at hac
  have hcb : c.NotAfter b := notAfter_trans hc ha hb hac (notAfter_of_before ha hb hab)
  rw [NotAfter, hbc] at hcb
  cases hcb

/-- Of two entries by different edges one comes out before the other. -/
theorem before_or_before (ha : IsNumber a.time) (hb : IsNumber b.time) (hvia : a.via ≠ b.via) :
    a.before b = true ∨ b.before a = true := by
  by_contra hnone
  simp only [not_or, Bool.not_eq_true] at hnone
  have hplace : a.place ≠ b.place := by
    unfold place
    cases hv : a.via <;> cases hw : b.via <;> simp_all
  have hba := (notAfter_iff hb ha).1 hnone.1
  have hab := (notAfter_iff ha hb).1 hnone.2
  simp only [OrderedQuantity.lt_iff, OrderedQuantity.beq_iff] at hab hba
  rcases hab with ⟨hle, hnot⟩ | ⟨⟨hle, hge⟩, hab⟩
  · rcases hba with ⟨hge, -⟩ | ⟨⟨hge, -⟩, -⟩ <;> exact hnot hge
  · rcases hba with ⟨-, hnot⟩ | ⟨-, hba⟩
    · exact hnot hle
    · omega

end Entry

/-! ## Queues -/

namespace Queue

/-- Every root comes not after what its branches hold. -/
def Ordered : Queue α → Prop
  | empty => True
  | node first left right =>
    (∀ entry ∈ left.toList ++ right.toList, first.NotAfter entry) ∧ left.Ordered ∧ right.Ordered

/-- All times in a queue are numbers. -/
def Timed (queue : Queue α) : Prop := ∀ entry ∈ queue.toList, IsNumber entry.time

/-- A queue of one entry is in order. -/
theorem Ordered.single (entry : Entry α) : (single entry).Ordered := by
  simp [Queue.single, Ordered, toList]

variable [OrderedQuantity α]

/-- A branch merged with another queue below the same first entry is in order. -/
theorem Ordered.mergeInto {first : Entry α} {left right : Queue α}
    {mergeRight : Queue α → Queue α}
    (hperm : ∀ other, (mergeRight other).toList.Perm (right.toList ++ other.toList))
    (hright : ∀ other, other.Ordered → other.Timed → (mergeRight other).Ordered)
    (h : (node first left right).Ordered) (htimed : (node first left right).Timed)
    (other : Queue α) (ho : other.Ordered) (hotimed : other.Timed) :
    (Queue.mergeInto first left right mergeRight other).Ordered := by
  induction other with
  | empty => exact h
  | node other otherLeft otherRight _ ih =>
      have hfirst : IsNumber first.time := htimed _ List.mem_cons_self
      have hother : IsNumber other.time := hotimed _ List.mem_cons_self
      have hotimed' : otherRight.Timed := by
        intro e he
        exact hotimed e (List.mem_cons_of_mem _ (List.mem_append_right _ he))
      unfold Queue.mergeInto
      split
      · rename_i hbefore
        have hof := Entry.notAfter_of_before hother hfirst hbefore
        refine ⟨fun e he => ?_, ih ho.2.2 hotimed', ho.2.1⟩
        rcases List.mem_append.1 he with he | he
        · rcases List.mem_append.1 ((toList_mergeInto _ _ _ _ hperm _).mem_iff.1 he) with he | he
          · have he' : IsNumber e.time := htimed e he
            rcases List.mem_cons.1 he with rfl | he
            · exact hof
            · exact Entry.notAfter_trans hother hfirst he' hof (h.1 e he)
          · exact ho.1 e (List.mem_append_right _ he)
        · exact ho.1 e (List.mem_append_left _ he)
      · rename_i hbefore
        have hfo : first.NotAfter other := by rwa [Bool.not_eq_true] at hbefore
        refine ⟨fun e he => ?_, hright _ ho hotimed, h.2.1⟩
        rcases List.mem_append.1 he with he | he
        · rcases List.mem_append.1 ((hperm _).mem_iff.1 he) with he | he
          · exact h.1 e (List.mem_append_right _ he)
          · have he' : IsNumber e.time := hotimed e he
            rcases List.mem_cons.1 he with rfl | he
            · exact hfo
            · exact Entry.notAfter_trans hfirst hother he' hfo (ho.1 e he)
        · exact h.1 e (List.mem_append_left _ he)

/-- Merging keeps the order. -/
theorem Ordered.merge {a b : Queue α} (ha : a.Ordered) (hatimed : a.Timed) (hb : b.Ordered)
    (hbtimed : b.Timed) : (a.merge b).Ordered := by
  induction a generalizing b with
  | empty => exact hb
  | node first left right _ ih =>
      have hrtimed : right.Timed := by
        intro e he
        exact hatimed e (List.mem_cons_of_mem _ (List.mem_append_right _ he))
      exact Ordered.mergeInto (toList_merge right)
        (fun other ho hotimed => ih ha.2.2 hrtimed ho hotimed) ha hatimed b hb hbtimed

/-- Pushing an entry keeps the order. -/
theorem Ordered.push {queue : Queue α} {entry : Entry α} (h : queue.Ordered) (htimed : queue.Timed)
    (hentry : IsNumber entry.time) : (queue.push entry).Ordered :=
  h.merge htimed (.single entry) (by simpa [Timed, Queue.single, toList] using hentry)

/-- What comes out of a queue is not after anything that stays, and what stays is ordered. -/
theorem Ordered.of_pop? {queue rest : Queue α} {entry : Entry α} (h : queue.Ordered)
    (htimed : queue.Timed) (hpop : queue.pop? = some (entry, rest)) :
    rest.Ordered ∧ ∀ other ∈ rest.toList, entry.NotAfter other := by
  cases queue with
  | empty => simp [pop?] at hpop
  | node first left right =>
      obtain ⟨rfl, rfl⟩ := by simpa [pop?] using hpop
      have hbranch : ∀ e ∈ left.toList ++ right.toList, IsNumber e.time := by
        intro e he
        exact htimed e (List.mem_cons_of_mem _ he)
      refine ⟨h.2.1.merge (fun e he => hbranch e (List.mem_append_left _ he)) h.2.2
        fun e he => hbranch e (List.mem_append_right _ he), fun e he => ?_⟩
      exact h.1 e ((toList_merge left right).mem_iff.1 he)

end Queue

end BusNetwork.Search
