/-!
# Registers: what is known by a name and by a position

Stops, buses and recorded distances are all kept in the same way. **A key that is new goes to the
end, a key that is known keeps its position and gets a new value**, so positions are handed out as
`0, 1, 2, …` in the order in which keys first came, and what a position names never changes.
-/

namespace BusNetwork

/-- Values by key, in the order in which the keys first came. -/
structure Register (κ β : Type) where
  /-- The keys with their values, in order. -/
  entries : List (κ × β)
  deriving Repr, DecidableEq

namespace Register

variable {κ β : Type}

/-- The register without keys. -/
def empty : Register κ β := ⟨[]⟩

/-- The number of keys. -/
def size (r : Register κ β) : Nat := r.entries.length

/-- The key and the value at a position. -/
def at? (r : Register κ β) (position : Nat) : Option (κ × β) := r.entries[position]?

variable [BEq κ]

/-- The position of a key. -/
def position? (r : Register κ β) (key : κ) : Option Nat := r.entries.findIdx? (·.1 == key)

/-- The value of a key. -/
def get? (r : Register κ β) (key : κ) : Option β := r.entries.lookup key

/-- Entries after a key was given the value that `f` makes of its old one, if it had one. -/
def putEntry (key : κ) (f : Option β → β) : List (κ × β) → List (κ × β)
  | [] => [(key, f none)]
  | (k, v) :: rest => if k == key then (k, f (some v)) :: rest else (k, v) :: putEntry key f rest

/-- Give a key the value that `f` makes of its old one, if it had one. The result comes with the
key's position. -/
def put (r : Register κ β) (key : κ) (f : Option β → β) : Nat × Register κ β :=
  (r.entries.findIdx (·.1 == key), ⟨putEntry key f r.entries⟩)

/-! ## What a key has after a change -/

variable [LawfulBEq κ]

/-- A key without a value comes last. -/
theorem putEntry_of_lookup_eq_none {key : κ} {entries : List (κ × β)}
    (h : entries.lookup key = none) (f : Option β → β) :
    putEntry key f entries = entries ++ [(key, f none)] := by
  induction entries with
  | nil => rfl
  | cons entry rest ih =>
    obtain ⟨k, v⟩ := entry
    by_cases hk : k = key
    · subst hk
      simp at h
    · have hne : (key == k) = false := beq_false_of_ne (Ne.symm hk)
      rw [List.lookup_cons, hne] at h
      simp [putEntry, hk, ih h]

/-- What a key has after it was put. -/
theorem lookup_putEntry_self (key : κ) (f : Option β → β) (entries : List (κ × β)) :
    (putEntry key f entries).lookup key = some (f (entries.lookup key)) := by
  induction entries with
  | nil => simp [putEntry]
  | cons entry rest ih =>
    obtain ⟨k, v⟩ := entry
    by_cases hk : k = key
    · subst hk
      simp [putEntry]
    · have hne : (key == k) = false := beq_false_of_ne (Ne.symm hk)
      simp [putEntry, hk, List.lookup_cons, hne, ih]

/-- What another key has is what it had. -/
theorem lookup_putEntry_of_ne {key other : κ} (h : other ≠ key) (f : Option β → β)
    (entries : List (κ × β)) : (putEntry key f entries).lookup other = entries.lookup other := by
  have hne : (other == key) = false := beq_false_of_ne h
  induction entries with
  | nil => simp [putEntry, List.lookup_cons, hne]
  | cons entry rest ih =>
    obtain ⟨k, v⟩ := entry
    by_cases hk : k = key
    · subst hk
      simp [putEntry, List.lookup_cons, hne]
    · simp [putEntry, hk, List.lookup_cons, ih]

/-- A key that was put has the value that was made for it. -/
theorem get?_put_self (r : Register κ β) (key : κ) (f : Option β → β) :
    (r.put key f).2.get? key = some (f (r.get? key)) :=
  lookup_putEntry_self key f r.entries

/-- Putting a key leaves the others as they are. -/
theorem get?_put_of_ne (r : Register κ β) {key other : κ} (h : other ≠ key)
    (f : Option β → β) : (r.put key f).2.get? other = r.get? other :=
  lookup_putEntry_of_ne h f r.entries

end Register

end BusNetwork
