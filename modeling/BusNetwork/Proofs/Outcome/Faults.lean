import BusNetwork.Proofs.Outcome

/-!
# Outcomes that a fault decides

`x.DecidedBy fault P` says of a computation that it fails with the fault, if there is one, and gives
a value of which `P` holds otherwise; it never looks outside a table. The fault is found without the
computation. **What is put together of steps is decided by the first fault of a step**:
`DecidedBy.bind` for two of them, `DecidedBy.foldlM` and `DecidedBy.mapM` for those along a list.
-/

namespace BusNetwork.Outcome

variable {ε ε' α β : Type} {x : Outcome ε α} {fault fault' : Option ε} {P Q : α → Prop}

/-- A computation fails with the fault, if there is one, and gives a value otherwise. -/
def DecidedBy (x : Outcome ε α) (fault : Option ε) (P : α → Prop) : Prop :=
  match fault with
  | some e => x = failed e
  | none => ∃ a, x = value a ∧ P a

/-- A value with the property is decided by there being no fault. -/
theorem decidedBy_value {a : α} (h : P a) : (value a : Outcome ε α).DecidedBy none P := ⟨a, rfl, h⟩

/-- A failure is decided by its fault. -/
theorem decidedBy_failed (e : ε) : (failed e : Outcome ε α).DecidedBy (some e) P := rfl

/-- The first fault along a list is that of its first item, or failing that one of the rest. -/
theorem findSome?_cons_or (fault : α → Option ε) (x : α) (xs : List α) :
    (x :: xs).findSome? fault = (fault x).or (xs.findSome? fault) := by
  rw [← List.singleton_append, List.findSome?_append, List.findSome?_singleton]

/-- The first fault along lists that match. -/
theorem findSome?_eq_of_forall₂ {fault : α → Option ε} {fault' : β → Option ε} {xs : List α}
    {ys : List β} (h : List.Forall₂ (fun x y => fault x = fault' y) xs ys) :
    xs.findSome? fault = ys.findSome? fault' := by
  induction h with
  | nil => rfl
  | cons hxy _ ih => rw [findSome?_cons_or, findSome?_cons_or, hxy, ih]

/-- The first fault along a list, told in two ways. -/
theorem findSome?_congr {fault fault' : α → Option ε} {xs : List α}
    (h : ∀ x ∈ xs, fault x = fault' x) : xs.findSome? fault = xs.findSome? fault' :=
  findSome?_eq_of_forall₂ (List.forall₂_same.2 h)

namespace DecidedBy

/-- It looks nothing up outside a table. -/
theorem ne_outOfRange (h : x.DecidedBy fault P) : x ≠ .outOfRange := by
  cases fault with
  | some e =>
      obtain rfl : x = failed e := h
      simp
  | none =>
      obtain ⟨a, rfl, -⟩ := h
      simp

/-- It fails with the fault and with no other. -/
theorem eq_failed_iff (h : x.DecidedBy fault P) {e : ε} : x = failed e ↔ fault = some e := by
  cases fault with
  | some e' =>
      obtain rfl : x = failed e' := h
      simp
  | none =>
      obtain ⟨a, rfl, -⟩ := h
      simp

/-- It gives a value if there is no fault. -/
theorem exists_value_iff (h : x.DecidedBy fault P) : (∃ a, x = value a) ↔ fault = none := by
  cases fault with
  | some e =>
      obtain rfl : x = failed e := h
      simp
  | none =>
      obtain ⟨a, rfl, -⟩ := h
      simp

/-- There is no fault where a value was given. -/
theorem of_value {a : α} (h : x.DecidedBy fault P) (hx : x = value a) : fault = none ∧ P a := by
  obtain rfl := h.exists_value_iff.1 ⟨a, hx⟩
  obtain ⟨b, hb, hP⟩ := h
  obtain rfl : a = b := value.inj (hx.symm.trans hb)
  exact ⟨rfl, hP⟩

/-- What holds of every value that may be given holds of the one that is. -/
theorem imp (h : x.DecidedBy fault P) (hPQ : ∀ a, x = value a → P a → Q a) :
    x.DecidedBy fault Q := by
  cases fault with
  | some e => exact h
  | none =>
      obtain ⟨a, ha, hP⟩ := h
      exact ⟨a, ha, hPQ a ha hP⟩

/-- A fault told in other words. -/
theorem mapFailure (h : x.DecidedBy fault P) (f : ε → ε') :
    (x.mapFailure f).DecidedBy (fault.map f) P := by
  cases fault with
  | some e =>
      obtain rfl : x = failed e := h
      exact decidedBy_failed (f e)
  | none =>
      obtain ⟨a, rfl, hP⟩ := h
      exact decidedBy_value hP

/-- What is made of the value is decided by the same fault. -/
theorem attach {make : (a : α) → x = value a → β} {R : β → Prop} (h : x.DecidedBy fault P)
    (hmake : ∀ a hx, P a → R (make a hx)) : (x.attach make).DecidedBy fault R := by
  cases fault with
  | some e =>
      obtain rfl : x = failed e := h
      exact decidedBy_failed e
  | none =>
      obtain ⟨a, rfl, hP⟩ := h
      exact decidedBy_value (hmake a rfl hP)

/-- Going on is decided by the fault of the first step, and failing that by the next one's. -/
theorem bind {f : α → Outcome ε β} {R : β → Prop} (h : x.DecidedBy fault P)
    (hf : ∀ a, P a → (f a).DecidedBy fault' R) : (x >>= f).DecidedBy (fault.or fault') R := by
  cases fault with
  | some e =>
      obtain rfl : x = failed e := h
      exact decidedBy_failed e
  | none =>
      obtain ⟨a, rfl, hP⟩ := h
      rw [Option.none_or]
      exact hf a hP

/-- Going on where nothing can fail any more. -/
theorem bind_value {f : α → Outcome ε β} {R : β → Prop} (h : x.DecidedBy fault P)
    (hf : ∀ a, P a → ∃ b, f a = value b ∧ R b) : (x >>= f).DecidedBy fault R := by
  rw [← Option.or_none (o := fault)]
  exact h.bind hf

/-- Going through a list is decided by the first fault of an item, where what an item's fault rests
on does not change on the way. -/
theorem foldlM {f : β → α → Outcome ε β} {fault : α → Option ε} {Inv : β → Prop} {b : β}
    {xs : List α} (hb : Inv b)
    (h : ∀ b, Inv b → ∀ x ∈ xs, (f b x).DecidedBy (fault x) Inv) :
    (xs.foldlM f b).DecidedBy (xs.findSome? fault) Inv := by
  induction xs generalizing b with
  | nil => exact decidedBy_value hb
  | cons x xs ih =>
      rw [List.foldlM_cons, findSome?_cons_or]
      refine (h b hb x List.mem_cons_self).bind fun b' hb' => ih hb' ?_
      exact fun b hb y hy => h b hb y (List.mem_cons_of_mem _ hy)

/-- Taking each item of a list is decided by the first fault of an item. -/
theorem mapM {f : α → Outcome ε β} {fault : α → Option ε} {R : α → β → Prop} {xs : List α}
    (h : ∀ x ∈ xs, (f x).DecidedBy (fault x) (R x)) :
    (xs.mapM f).DecidedBy (xs.findSome? fault) (List.Forall₂ R xs) := by
  induction xs with
  | nil => exact decidedBy_value .nil
  | cons x xs ih =>
      rw [List.mapM_cons, findSome?_cons_or]
      refine (h x List.mem_cons_self).bind fun y hy => ?_
      have hrest := ih fun z hz => h z (List.mem_cons_of_mem _ hz)
      simpa using hrest.bind fun ys hys => decidedBy_value (List.Forall₂.cons hy hys)

end DecidedBy

end BusNetwork.Outcome
