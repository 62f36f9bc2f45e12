import BusNetwork.Proofs.Bus
import BusNetwork.Proofs.Catalogue.Index
import Mathlib.Data.List.Palindrome

/-!
# The traversal of a bus, hop by hop

Statistics and journey graphs read a bus through its traversal and the hops along it.
`Bus.Serves bus walk` says what a walk over stops has to be to be the way the bus goes: the list
itself for a circular bus, and for one that returns a palindrome that starts with the list and whose
hops are those along the list and then all of them turned around, last one first. The counts of the
bus, which are computed without the traversal, count what is on the walk.

`Bus.serves_iff` — **the bus's traversal is such a walk, and there is no other**, whatever the list:
without stops, with a single one or with some of them repeated.
-/

namespace BusNetwork

section

variable {β : Type} {items walk : List β}

/-- A walk along a list and back again, on which the far end stands once. -/
structure ThereAndBack (items walk : List β) : Prop where
  /-- It reads alike from either end. -/
  palindrome : walk.Palindrome
  /-- It starts with the list. -/
  starts : items <+: walk
  /-- It ends where the list starts. -/
  ends : walk.getLast? = items.head?
  /-- It goes along the list hop by hop and then back over these hops, the last one first. -/
  hops : hopsAlong walk = hopsAlong items ++ ((hopsAlong items).map Prod.swap).reverse

/-- Who runs along a list that ends somewhere stands there once, between the ways out and back. -/
theorem RouteKind.run_thereAndBack_concat (before : List β) (last : β) :
    RouteKind.thereAndBack.run (before ++ [last]) = before ++ last :: before.reverse := by
  simp [RouteKind.run]

/-- Running there and back reads alike from either end. -/
theorem RouteKind.palindrome_run_thereAndBack (items : List β) :
    (RouteKind.thereAndBack.run items).Palindrome := by
  refine List.Palindrome.of_reverse_eq ?_
  cases items using List.reverseRecOn with
  | nil => rfl
  | append_singleton before last =>
      rw [run_thereAndBack_concat]
      simp

/-- Running there and back along a list is a walk there and back. -/
theorem RouteKind.thereAndBack_run (items : List β) :
    ThereAndBack items (RouteKind.thereAndBack.run items) where
  palindrome := palindrome_run_thereAndBack items
  starts := List.prefix_append items items.reverse.tail
  ends := by
    rw [List.getLast?_eq_head?_reverse, (palindrome_run_thereAndBack items).reverse_eq]
    cases items <;> rfl
  hops := by rw [hopsAlong_run_thereAndBack, hopsAlong_reverse]

/-- A walk there and back is settled by its length: past the list it reads the list backwards. -/
theorem ThereAndBack.eq_run (h : ThereAndBack items walk)
    (hlength : walk.length = 2 * items.length - 1) : walk = RouteKind.thereAndBack.run items := by
  obtain ⟨rest, rfl⟩ := h.starts
  have hrest : rest.length = items.reverse.length - 1 := by
    rw [List.length_append] at hlength
    rw [List.length_reverse]
    omega
  -- both ends of the walk are read off, the one turned around
  have hends : items ++ rest = rest.reverse ++ items.reverse := by
    rw [← List.reverse_append, h.palindrome.reverse_eq]
  have hback : rest = items.reverse.tail := by
    have hsplit : items.reverse = items.reverse.take 1 ++ items.reverse.tail := by
      rw [← List.drop_one, List.take_append_drop]
    rw [hsplit, ← List.append_assoc] at hends
    refine (List.append_inj' hends ?_).2
    rw [List.length_tail, hrest]
  rw [hback]
  rfl

end

namespace Bus

variable {bus : Bus} {walk : List StopId}

/-- A walk over stops is the way a bus goes. -/
structure Serves (bus : Bus) (walk : List StopId) : Prop where
  /-- A circular bus goes along its list. -/
  circular : bus.kind = .circular → walk = bus.stops
  /-- The others go along it and back again. -/
  thereAndBack : bus.kind = .thereAndBack → ThereAndBack bus.stops walk
  /-- The hops of the bus are those along the walk. -/
  hops_eq : bus.hops = hopsAlong walk
  /-- As many stops are served as the walk is long. -/
  stopCount_eq : bus.stopCount = walk.length
  /-- The walk is over the stops of the list. -/
  mem_iff (stop : StopId) : stop ∈ walk ↔ stop ∈ bus.stops
  /-- As many different ones are served as are on the walk. -/
  uniqueStopCount_eq : bus.uniqueStopCount = walk.toFinset.card

/-- The traversal that is computed for a bus is one of those that serve it. -/
theorem serves_traversal (bus : Bus) : bus.Serves bus.traversal where
  circular hkind := by rw [traversal_eq_run, hkind, RouteKind.run]
  thereAndBack hkind := by
    rw [traversal_eq_run, hkind]
    exact RouteKind.thereAndBack_run bus.stops
  hops_eq := rfl
  stopCount_eq := bus.length_traversal.symm
  mem_iff _ := mem_traversal
  uniqueStopCount_eq := bus.uniqueStopCount_eq_card

/-- No other walk is the way of the bus. -/
theorem Serves.eq_traversal (h : bus.Serves walk) : walk = bus.traversal := by
  rw [traversal_eq_run]
  cases hkind : bus.kind with
  | circular => exact h.circular hkind
  | thereAndBack =>
      refine (h.thereAndBack hkind).eq_run ?_
      rw [← h.stopCount_eq, stopCount, hkind]

/-- **A walk is the way of a bus exactly if it is the bus's traversal.** -/
theorem serves_iff : bus.Serves walk ↔ walk = bus.traversal := by
  constructor
  · exact Serves.eq_traversal
  · rintro rfl
    exact bus.serves_traversal

/-- A bus that passes its second stop again before its far end. -/
example : (Bus.mk [0, 1, 2, 1, 3] .thereAndBack).traversal = [0, 1, 2, 1, 3, 1, 2, 1, 0] := by
  decide

end Bus

end BusNetwork
