import BusNetwork.Outcome
import Mathlib.Data.List.Forall2

/-!
# Outcomes read backwards

What it takes for a computation over tables to give a value: each step has to give one
(`bind_eq_value_iff`), and so has each item of a list that is gone through (`mapM_eq_value_iff`,
`foldlM_concat`). The last lemmas say the same of lookups, whose tables are options.
-/

namespace BusNetwork

namespace Outcome

variable {ε ε' α β γ : Type}

/-- Renaming the failures of a computation leaves its value as it is. -/
@[simp] theorem mapFailure_eq_value_iff {x : Outcome ε α} {f : ε → ε'} {a : α} :
    x.mapFailure f = value a ↔ x = value a := by
  cases x <;> simp [mapFailure]

/-- A checked result is a value exactly if the check accepted it. -/
@[simp] theorem ofExcept_eq_value_iff {x : Except ε α} {a : α} :
    ofExcept x = value a ↔ x = .ok a := by
  cases x <;> simp [ofExcept]

/-- A list is gone through to the end if each of its items gives a value. -/
theorem mapM_eq_value_iff {f : α → Outcome ε β} {xs : List α} {ys : List β} :
    xs.mapM f = value ys ↔ List.Forall₂ (fun x y => f x = value y) xs ys := by
  induction xs generalizing ys with
  | nil => simp [eq_comm]
  | cons x xs ih =>
      rw [List.mapM_cons, bind_eq_value_iff]
      constructor
      · rintro ⟨y, hy, h⟩
        obtain ⟨rest, hrest, h⟩ := bind_eq_value_iff.1 h
        rw [pure_eq, value.injEq] at h
        subst h
        exact .cons hy (ih.1 hrest)
      · rintro (_ | ⟨hy, hrest⟩)
        exact ⟨_, hy, bind_eq_value_iff.2 ⟨_, ih.2 hrest, rfl⟩⟩

/-- Going through a list and then one item more. -/
theorem foldlM_concat {f : β → α → Outcome ε β} {b b' : β} {xs : List α} {x : α} :
    (xs ++ [x]).foldlM f b = value b' ↔ ∃ b₁, xs.foldlM f b = value b₁ ∧ f b₁ x = value b' := by
  simp only [List.foldlM_append, bind_eq_value_iff, List.foldlM_cons, List.foldlM_nil, bind_pure]

end Outcome

/-! ## Lookups -/

section lookup

variable {α β : Type}

/-- A list is looked up as a whole if each of its items is found. -/
theorem mapM_eq_some_iff {f : α → Option β} {xs : List α} {ys : List β} :
    xs.mapM f = some ys ↔ List.Forall₂ (fun x y => f x = some y) xs ys := by
  induction xs generalizing ys with
  | nil => simp [eq_comm]
  | cons x xs ih =>
      simp only [List.mapM_cons, Option.pure_def, Option.bind_eq_bind, Option.bind_eq_some_iff,
        Option.some.injEq]
      constructor
      · rintro ⟨y, hy, rest, hrest, rfl⟩
        exact .cons hy (ih.1 hrest)
      · rintro (_ | ⟨hy, hrest⟩)
        exact ⟨_, hy, _, ih.2 hrest, rfl⟩

/-- Looking up items that are all found where a function says. -/
theorem mapM_eq_some_map {f : α → Option β} {g : α → β} {xs : List α}
    (h : ∀ x ∈ xs, f x = some (g x)) : xs.mapM f = some (xs.map g) := by
  rw [mapM_eq_some_iff, List.forall₂_map_right_iff, List.forall₂_same]
  exact h

/-- What stands in the second of two lists that match has its match at that place in the first. -/
theorem exists_getElem?_of_forall₂ {R : α → β → Prop} {xs : List α} {ys : List β}
    (h : List.Forall₂ R xs ys) {i : Nat} {y : β} (hy : ys[i]? = some y) :
    ∃ x, xs[i]? = some x ∧ R x y := by
  induction h generalizing i with
  | nil => simp at hy
  | @cons x y' _ _ hxy _ ih =>
      cases i with
      | zero =>
          obtain rfl : y' = y := by simpa using hy
          exact ⟨x, rfl, hxy⟩
      | succ i => exact ih hy

/-- Of two lists related entry by entry, each entry of the second has a partner in the first. -/
theorem exists_mem_of_forall₂ {R : α → β → Prop} {xs : List α} {ys : List β}
    (h : List.Forall₂ R xs ys) {y : β} (hy : y ∈ ys) : ∃ x ∈ xs, R x y := by
  obtain ⟨i, hi⟩ := List.mem_iff_getElem?.1 hy
  obtain ⟨x, hx, hR⟩ := exists_getElem?_of_forall₂ h hi
  exact ⟨x, List.mem_of_getElem? hx, hR⟩

/-- Items that all have a match make a list that matches. -/
theorem exists_forall₂ {R : α → β → Prop} {xs : List α} (h : ∀ x ∈ xs, ∃ y, R x y) :
    ∃ ys, List.Forall₂ R xs ys := by
  induction xs with
  | nil => exact ⟨[], .nil⟩
  | cons x xs ih =>
      rw [List.forall_mem_cons] at h
      obtain ⟨y, hy⟩ := h.1
      obtain ⟨ys, hys⟩ := ih h.2
      exact ⟨y :: ys, .cons hy hys⟩

end lookup

end BusNetwork
