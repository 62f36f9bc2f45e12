import BusNetwork.Graph
import BusNetwork.Quantity

/-!
# The queue of a search: who is settled next

A search keeps a queue of vertices that it has reached, each with the time at which and the edge by
which it was reached. **The earliest time comes out first; among equal times the edge that was
added first, the start of the search before all edges; among equal edges the lower vertex.** The
queue is a skew heap: a binary tree whose root comes before all else, merged along its right
branches, with the branches exchanged on the way so that the tree stays even.
-/

namespace BusNetwork.Search

variable {α : Type}

/-- A vertex reached in a search. -/
structure Entry (α : Type) where
  /-- When it was reached. -/
  time : α
  /-- The edge by which it was reached; the start of the search is reached by none. -/
  via : Option EdgeId
  /-- The vertex. -/
  vertex : VertexId
  deriving Repr, DecidableEq

/-- Whether one way of being reached takes precedence over another at the same time. -/
def viaBefore : Option EdgeId → Option EdgeId → Bool
  | none, some _ => true
  | some a, some b => a < b
  | _, none => false

/-- Whether an entry comes out of the queue before another. -/
def Entry.before [Quantity α] (a b : Entry α) : Bool :=
  a.time < b.time ||
    (a.time == b.time &&
      (viaBefore a.via b.via || (a.via == b.via && a.vertex < b.vertex)))

/-- A queue of entries: a tree whose root comes before all else. -/
inductive Queue (α : Type) where
  /-- No entry. -/
  | empty
  /-- A first entry, and two queues of entries that come after it. -/
  | node (first : Entry α) (left right : Queue α)
  deriving Repr, DecidableEq

namespace Queue

/-- The entries of a queue, the root before its branches. -/
def toList : Queue α → List (Entry α)
  | empty => []
  | node first left right => first :: (left.toList ++ right.toList)

/-- The queue of one entry. -/
def single (entry : Entry α) : Queue α := node entry empty empty

variable [Quantity α]

/-- A queue merged into the tree of the given root and branches, `mergeRight` being the merge into
its right branch. -/
def mergeInto (first : Entry α) (left right : Queue α) (mergeRight : Queue α → Queue α) :
    Queue α → Queue α
  | empty => node first left right
  | node other otherLeft otherRight =>
    if other.before first then
      node other (mergeInto first left right mergeRight otherRight) otherLeft
    else
      node first (mergeRight (node other otherLeft otherRight)) left

/-- The queue of all entries of two queues. -/
def merge : Queue α → Queue α → Queue α
  | empty => fun other => other
  | node first left right => mergeInto first left right right.merge

/-- A queue with one more entry. -/
def push (entry : Entry α) (queue : Queue α) : Queue α := queue.merge (single entry)

/-- The entry that comes out first, and the queue of the others. -/
def pop? : Queue α → Option (Entry α × Queue α)
  | empty => none
  | node first left right => some (first, left.merge right)

/-! ## Which entries are in a queue -/

/-- A first entry may be moved behind the entries that another queue brings in. -/
private theorem perm_tail_middle {β : Type} (x : β) {a b c d : List β} (h : a.Perm (d ++ c)) :
    (x :: (a ++ b)).Perm (d ++ x :: (b ++ c)) := by
  refine ((h.append_right b).cons x).trans ?_
  rw [List.append_assoc]
  exact ((List.perm_append_comm.append_left d).cons x).trans List.perm_middle.symm

/-- A branch merged with another queue below the same first entry holds what both held. -/
theorem toList_mergeInto (first : Entry α) (left right : Queue α)
    (mergeRight : Queue α → Queue α)
    (h : ∀ other, (mergeRight other).toList.Perm (right.toList ++ other.toList))
    (other : Queue α) :
    (mergeInto first left right mergeRight other).toList.Perm
      ((node first left right).toList ++ other.toList) := by
  induction other with
  | empty => simp [mergeInto, toList]
  | node other otherLeft otherRight _ ih =>
    unfold mergeInto
    split
    · exact perm_tail_middle other ih
    · refine List.Perm.cons first (((h _).append_right left.toList).trans ?_)
      exact List.perm_append_comm.trans (List.Perm.of_eq (List.append_assoc ..).symm)

/-- Merging keeps the entries of both queues. -/
theorem toList_merge (a b : Queue α) : (a.merge b).toList.Perm (a.toList ++ b.toList) := by
  induction a generalizing b with
  | empty => simp [merge, toList]
  | node first left right _ ih => exact toList_mergeInto first left right _ ih b

/-- Pushing adds one entry. -/
theorem toList_push (entry : Entry α) (queue : Queue α) :
    (queue.push entry).toList.Perm (entry :: queue.toList) :=
  (toList_merge queue (single entry)).trans (List.perm_append_singleton ..)

/-- Popping takes one entry away and keeps the others. -/
theorem toList_of_pop? {queue rest : Queue α} {entry : Entry α}
    (h : queue.pop? = some (entry, rest)) : queue.toList.Perm (entry :: rest.toList) := by
  cases queue with
  | empty => simp [pop?] at h
  | node first left right =>
    obtain ⟨rfl, rfl⟩ := by simpa [pop?] using h
    exact (toList_merge left right).symm.cons _

/-- Nothing comes out of a queue only if nothing is in it. -/
theorem pop?_eq_none_iff {queue : Queue α} : queue.pop? = none ↔ queue.toList = [] := by
  cases queue <;> simp [pop?, toList]

end Queue

end BusNetwork.Search
