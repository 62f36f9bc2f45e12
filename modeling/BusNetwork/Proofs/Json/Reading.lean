import BusNetwork.Json.Record
import Mathlib.Data.List.Forall2

/-!
# Readings that succeed

**What it takes for a reading to succeed, step by step**: going on, taking the items of a list,
coming only once, having to come, being closed, going below one bracket more. Each step has one
equivalence, so that a reader of several steps is taken apart by rewriting.
-/

namespace BusNetwork.Json

/-! ## Steps of a reading -/

section

variable {ε α β : Type} {a : α} {b : β}

/-- Two steps end well exactly if the first does and the second does with its result. -/
theorem bind_eq_ok_iff {x : Except ε α} {f : α → Except ε β} :
    x >>= f = .ok b ↔ ∃ a, x = .ok a ∧ f a = .ok b := by
  cases x <;> simp [Bind.bind, Except.bind]

/-- A step that has ended well hands its result on. -/
theorem ok_bind (a : α) (f : α → Except ε β) : (Except.ok a >>= f) = f a := rfl

/-- A step that only hands something back ends well with it. -/
theorem pure_eq_ok_iff {a a' : α} : (pure a : Except ε α) = .ok a' ↔ a = a' := by
  simp [pure, Except.pure]

/-- A step whose result is changed afterwards ends well exactly if the step does. -/
theorem map_eq_ok_iff {f : α → β} {x : Except ε α} :
    f <$> x = .ok b ↔ ∃ a, x = .ok a ∧ f a = b := by
  cases x <;> simp [Functor.map, Except.map]

/-- A step that throws does not end well. -/
theorem throw_ne_ok (e : ε) : (throw e : Except ε α) ≠ .ok a := by
  rintro ⟨⟩

/-- Taking each item of a list succeeds if each item can be taken. -/
theorem mapM_eq_ok_iff {f : α → Except ε β} {xs : List α} {ys : List β} :
    xs.mapM f = .ok ys ↔ List.Forall₂ (fun x y => f x = .ok y) xs ys := by
  induction xs generalizing ys with
  | nil => simp [pure, Except.pure, eq_comm]
  | cons x rest ih =>
      simp only [List.mapM_cons, bind_eq_ok_iff, pure_eq_ok_iff, ih, List.forall₂_cons_left_iff]
      constructor
      · rintro ⟨y, hy, later, hlater, rfl⟩
        exact ⟨y, later, hy, hlater, rfl⟩
      · rintro ⟨y, later, hy, hlater, rfl⟩
        exact ⟨y, hy, later, hlater, rfl⟩

/-- Renaming the errors of a step leaves how it ends well as it is. -/
theorem mapError_eq_ok_iff {ε' : Type} {x : Except ε α} {f : ε → ε'} :
    x.mapError f = .ok a ↔ x = .ok a := by
  cases x <;> simp [Except.mapError]

/-- A result found where only breaks can be met is a result where any fault can be. -/
theorem liftM_break_ok (a : α) : (liftM (.ok a : Except Break α) : Except Fault α) = .ok a := rfl

/-- A step that may meet a break ends well as it does where any fault may be met. -/
theorem liftM_break_eq_ok_iff {x : Except Break α} :
    (liftM x : Except Fault α) = .ok a ↔ x = .ok a := mapError_eq_ok_iff

/-- A step that may meet a mismatch ends well as it does where any fault may be met. -/
theorem liftM_mismatch_eq_ok_iff {x : Except Mismatch α} :
    (liftM x : Except Fault α) = .ok a ↔ x = .ok a := mapError_eq_ok_iff

/-- What was collected up to an ending is handed over exactly if nothing broke there. -/
theorem closed_eq_ok_iff {ending : Option Break} {a a' : α} :
    closed ending a = .ok a' ↔ ending = none ∧ a = a' := by
  cases ending <;> simp [closed]

/-- One may go a level deeper exactly below the limit of nesting. -/
theorem deeper_eq_ok_iff {depth depth' : Nat} :
    deeper depth = .ok depth' ↔ depth < nestingLimit ∧ depth + 1 = depth' := by
  unfold deeper
  split
  · simp_all
  · simp only [reduceCtorEq, false_iff, not_and]
    omega

/-- A field is taken exactly if it has not come before and its value is read. -/
theorem once_eq_ok_iff {field : String} {former later : Option α} {value : Except Fault α} :
    once field former value = .ok later ↔ former = none ∧ ∃ a, value = .ok a ∧ later = some a := by
  cases former with
  | some a => simp [once]
  | none => cases value <;> simp [once, Functor.map, Except.map, eq_comm]

/-- A required field is there exactly if it was found. -/
theorem required_eq_ok_iff {field : String} {found : Option α} :
    required field found = .ok a ↔ found = some a := by
  cases found <;> simp [required]

end

end BusNetwork.Json
