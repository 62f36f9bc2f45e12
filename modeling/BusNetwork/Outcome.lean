/-!
# Outcomes: a value, a failure, or an index outside its table

Stops, buses, vertices and edges are known by their position in a table, so a computation over
them can end in three ways, and **the third is kept apart from the second**: a failure of type `ε`
is something that the network's own rules forbid, while `outOfRange` says that a position was
looked up that its table does not have. The first `outOfRange` or failure ends a computation.
-/

namespace BusNetwork

/-- What a computation over tables comes to. -/
inductive Outcome (ε α : Type) where
  /-- It gives a value. -/
  | value (x : α)
  /-- It fails by a rule of the network. -/
  | failed (e : ε)
  /-- It looks up a position outside its table. -/
  | outOfRange
  deriving Repr, DecidableEq

namespace Outcome

variable {ε ε' α β : Type}

/-- Go on with the value, if there is one. -/
def bind (x : Outcome ε α) (f : α → Outcome ε β) : Outcome ε β :=
  match x with
  | value a => f a
  | failed e => failed e
  | outOfRange => outOfRange

/-- Steps follow each other until one of them fails or reads outside a table. -/
instance : Monad (Outcome ε) where
  pure := value
  bind := bind

/-- A step that only hands back `a` is the value `a`. -/
@[simp] theorem pure_eq (a : α) : (pure a : Outcome ε α) = value a := rfl

/-- The steps that follow a value go on with it. -/
@[simp] theorem value_bind (a : α) (f : α → Outcome ε β) : (value a >>= f) = f a := rfl

/-- Nothing follows a failure. -/
@[simp] theorem failed_bind (e : ε) (f : α → Outcome ε β) : (failed e >>= f) = failed e := rfl

/-- Nothing follows a reading outside a table. -/
@[simp] theorem outOfRange_bind (f : α → Outcome ε β) :
    ((outOfRange : Outcome ε α) >>= f) = outOfRange := rfl

/-- The order in which steps are grouped makes no difference. -/
instance : LawfulMonad (Outcome ε) :=
  .mk' _ (fun x => by cases x <;> rfl) (fun _ _ => rfl) (fun x _ _ => by cases x <;> rfl)

/-- The entry of a table, where one was found. -/
def ofLookup : Option α → Outcome ε α
  | some a => value a
  | none => outOfRange

/-- The result of a check that looks nothing up. -/
def ofExcept : Except ε α → Outcome ε α
  | .ok a => value a
  | .error e => failed e

/-- A lookup that finds nothing is a reading outside a table. -/
instance : MonadLift Option (Outcome ε) := ⟨ofLookup⟩

/-- A lookup that finds `a` is the value `a`. -/
@[simp] theorem liftM_some (a : α) : (liftM (some a) : Outcome ε α) = value a := rfl

/-- A lookup that finds nothing is outside a table. -/
@[simp] theorem liftM_none : (liftM (none : Option α) : Outcome ε α) = outOfRange := rfl

/-- Going on gives a value if the first step gives one and going on from there does. -/
theorem bind_eq_value_iff {x : Outcome ε α} {f : α → Outcome ε β} {b : β} :
    (x >>= f) = value b ↔ ∃ a, x = value a ∧ f a = value b := by
  constructor
  · intro h
    cases x with
    | value a => exact ⟨a, rfl, h⟩
    | failed e => cases h
    | outOfRange => cases h
  · rintro ⟨a, rfl, h⟩
    exact h

/-- A lookup gives the entry that it finds. -/
@[simp] theorem liftM_eq_value_iff {x : Option α} {a : α} :
    (liftM x : Outcome ε α) = value a ↔ x = some a := by
  cases x <;> simp

/-- The same outcome with its failure told in other words. -/
def mapFailure (f : ε → ε') : Outcome ε α → Outcome ε' α
  | value a => value a
  | failed e => failed (f e)
  | outOfRange => outOfRange

/-- What is made of the value of an outcome, knowing that it is its value. -/
def attach (x : Outcome ε α) (make : (a : α) → x = value a → β) : Outcome ε β :=
  match x, make with
  | value a, make => value (make a rfl)
  | failed e, _ => failed e
  | outOfRange, _ => outOfRange

/-- A value is made where there is one to make it of. -/
theorem attach_eq_value_iff {x : Outcome ε α} {make : (a : α) → x = value a → β} {b : β} :
    x.attach make = value b ↔ ∃ a, ∃ h : x = value a, make a h = b := by
  cases x with
  | value a =>
    constructor
    · intro h
      exact ⟨a, rfl, value.inj h⟩
    · rintro ⟨_, h, rfl⟩
      cases h
      rfl
  | failed e => simp [attach]
  | outOfRange => simp [attach]

/-- What is made of outcomes fails where they fail. -/
theorem attach_eq_failed_iff {x : Outcome ε α} {make : (a : α) → x = value a → β} {e : ε} :
    x.attach make = failed e ↔ x = failed e := by
  cases x <;> simp [attach]

/-- Steps that follow what is made of a value may as well follow the value. -/
theorem attach_bind {γ : Type} {x : Outcome ε α} {make : (a : α) → x = value a → β}
    {f : β → Outcome ε γ} {g : α → Outcome ε γ} (h : ∀ a ha, f (make a ha) = g a) :
    (x.attach make >>= f) = (x >>= g) := by
  cases x with
  | value a => exact h a rfl
  | failed e => rfl
  | outOfRange => rfl

end Outcome

end BusNetwork
