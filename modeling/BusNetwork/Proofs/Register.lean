import BusNetwork.Register
import Mathlib.Data.List.Induction
import Mathlib.Data.List.Nodup

/-!
# Registers as tables with distinct keys

* `Register.Distinct` — no key comes twice. Then a key's position and its value are two readings of
  one entry (`position?_eq_some_iff`, `get?_eq_some_iff`).
* **Putting changes one entry and moves none** (`at?_put`): the entry at the position that `put`
  answers is new, all others are what they were. A new key gets the next position (`keys_put`).
-/

namespace BusNetwork.Register

variable {κ β : Type} {r r' : Register κ β} {key other : κ} {value : β} {p q : Nat}

/-- No key comes twice. -/
def Distinct (r : Register κ β) : Prop := (r.entries.map Prod.fst).Nodup

/-- The empty register has no key twice. -/
theorem distinct_empty : (empty : Register κ β).Distinct := List.nodup_nil

/-- An entry that is there has a position below the size. -/
theorem lt_size_of_at? {entry : κ × β} (h : r.at? p = some entry) : p < r.size := by
  obtain ⟨hlt, -⟩ := List.getElem?_eq_some_iff.1 h
  exact hlt

/-- There is an entry at every position below the size. -/
theorem exists_at? (h : p < r.size) : ∃ entry, r.at? p = some entry :=
  ⟨_, List.getElem?_eq_getElem h⟩

/-- A register is told by its entries. -/
theorem ext_at? (h : ∀ p, r'.at? p = r.at? p) : r' = r := by
  obtain ⟨entries'⟩ := r'
  obtain ⟨entries⟩ := r
  exact congrArg Register.mk (List.ext_getElem? h)

/-- In a register without repeated keys a key tells the position. -/
theorem Distinct.position_eq (hr : r.Distinct) {v w : β} (hp : r.at? p = some (key, v))
    (hq : r.at? q = some (key, w)) : p = q := by
  have hlt : p < (r.entries.map Prod.fst).length := by simpa [size] using lt_size_of_at? hp
  refine (List.getElem?_inj hlt hr).1 ?_
  unfold at? at hp hq
  simp [hp, hq]

/-- Where keys are distinct, entries with the same key have the same value. -/
theorem Distinct.value_eq (hr : r.Distinct) {v w : β} (hp : r.at? p = some (key, v))
    (hq : r.at? q = some (key, w)) : v = w := by
  obtain rfl := hr.position_eq hp hq
  simpa [hp] using hq

/-- Registers with the same keys at the same positions have distinct keys together. -/
theorem Distinct.congr (hr : r.Distinct)
    (h : ∀ p, (r'.at? p).map Prod.fst = (r.at? p).map Prod.fst) : r'.Distinct := by
  have hkeys : r'.entries.map Prod.fst = r.entries.map Prod.fst := by
    apply List.ext_getElem?
    intro p
    simpa [at?] using h p
  unfold Distinct
  rw [hkeys]
  exact hr

/-- Registers with entries at the same positions have the same size. -/
theorem size_congr (h : ∀ p, (r'.at? p).map Prod.fst = (r.at? p).map Prod.fst) :
    r'.size = r.size := by
  have hkeys : r'.entries.map Prod.fst = r.entries.map Prod.fst := by
    apply List.ext_getElem?
    intro p
    simpa [at?] using h p
  simpa [size] using congrArg List.length hkeys

/-! ## Keys -/

variable [BEq κ] [LawfulBEq κ]

/-- The position of a key is where its entry is. -/
theorem position?_eq_some_iff (hr : r.Distinct) :
    r.position? key = some p ↔ ∃ v, r.at? p = some (key, v) := by
  unfold position?
  rw [List.findIdx?_eq_some_iff_getElem]
  constructor
  · rintro ⟨hlt, hkey, -⟩
    refine ⟨r.entries[p].2, ?_⟩
    unfold at?
    rw [List.getElem?_eq_getElem hlt, ← eq_of_beq hkey]
  · rintro ⟨v, hv⟩
    obtain ⟨hlt, hentry⟩ := List.getElem?_eq_some_iff.1 hv
    refine ⟨hlt, by simp [hentry], ?_⟩
    intro q hq hkey
    have hq' : r.at? q = some (key, r.entries[q].2) := by
      unfold at?
      rw [List.getElem?_eq_getElem (Nat.lt_trans hq hlt), ← eq_of_beq hkey]
    exact Nat.ne_of_lt hq (hr.position_eq hq' hv)

omit [LawfulBEq κ] in
/-- The position of a key is its place among the keys. -/
theorem position?_eq_idxOf? (r : Register κ β) (key : κ) :
    r.position? key = (r.entries.map Prod.fst).idxOf? key := by
  rw [position?, List.idxOf?, List.findIdx?_map]
  rfl

/-- A key without a position has no entry. -/
theorem position?_eq_none_iff : r.position? key = none ↔ ∀ p v, r.at? p ≠ some (key, v) := by
  unfold position?
  rw [List.findIdx?_eq_none_iff]
  constructor
  · intro h p v hp
    have := h _ (List.mem_of_getElem? hp)
    simp at this
  · rintro h ⟨k, v⟩ hmem
    obtain ⟨p, hp⟩ := List.mem_iff_getElem?.1 hmem
    rw [beq_eq_false_iff_ne]
    rintro rfl
    exact h p v hp

/-- The value of a key is the one in its entry. -/
theorem get?_eq_some_iff (hr : r.Distinct) :
    r.get? key = some value ↔ ∃ p, r.at? p = some (key, value) := by
  unfold get?
  constructor
  · intro h
    obtain ⟨before, after, heq, -⟩ := List.lookup_eq_some_iff.1 h
    exact ⟨before.length, by simp [at?, heq]⟩
  · rintro ⟨p, hp⟩
    cases hfound : r.entries.lookup key with
    | none =>
        have := (List.lookup_eq_none_iff.1 hfound) _ (List.mem_of_getElem? hp)
        simp at this
    | some w =>
        obtain ⟨before, after, heq, -⟩ := List.lookup_eq_some_iff.1 hfound
        have hw : r.at? before.length = some (key, w) := by simp [at?, heq]
        rw [hr.value_eq hw hp]

/-- The value of a key is the one at its position. -/
theorem get?_eq_bind_position? (r : Register κ β) (key : κ) :
    r.get? key = (r.position? key).bind fun p => (r.at? p).map Prod.snd := by
  unfold get? position? at?
  induction r.entries with
  | nil => rfl
  | cons entry rest ih =>
      obtain ⟨k, v⟩ := entry
      by_cases hk : k = key
      · subst hk
        simp [List.findIdx?_cons]
      · have hne : (key == k) = false := beq_false_of_ne (Ne.symm hk)
        rw [List.lookup_cons, hne, ih, List.findIdx?_cons, beq_false_of_ne hk]
        cases rest.findIdx? (·.1 == key) <;> simp

/-- A key has a value where it has a position. -/
theorem get?_eq_none_iff (hr : r.Distinct) : r.get? key = none ↔ r.position? key = none := by
  rw [position?_eq_none_iff, Option.eq_none_iff_forall_ne_some]
  constructor
  · exact fun h p v hp => h v ((get?_eq_some_iff hr).2 ⟨p, hp⟩)
  · intro h v hv
    obtain ⟨p, hp⟩ := (get?_eq_some_iff hr).1 hv
    exact h p v hp

/-! ## Putting -/

/-- An entry that is put is written where the key first stands, or at the end, and leaves the
others. -/
theorem getElem?_putEntry (f : Option β → β) (entries : List (κ × β)) (p : Nat) :
    (putEntry key f entries)[p]? =
      if p = entries.findIdx (·.1 == key) then some (key, f (entries.lookup key))
      else entries[p]? := by
  induction entries generalizing p with
  | nil => cases p <;> simp [putEntry]
  | cons entry rest ih =>
      obtain ⟨k, v⟩ := entry
      by_cases hk : k = key
      · subst hk
        cases p <;> simp [putEntry, List.findIdx_cons]
      · have hne : (key == k) = false := beq_false_of_ne (Ne.symm hk)
        have hne' : (k == key) = false := beq_false_of_ne hk
        cases p <;> simp [putEntry, hne', List.findIdx_cons, List.lookup_cons, hne, ih]

/-- Putting makes the entry at the answered position and leaves the others as they are. -/
theorem at?_put (r : Register κ β) (key : κ) (f : Option β → β) (p : Nat) :
    (r.put key f).2.at? p =
      if p = (r.put key f).1 then some (key, f (r.get? key)) else r.at? p :=
  getElem?_putEntry f r.entries p

omit [LawfulBEq κ] in
/-- The answered position is that of the key, or the next one. -/
theorem put_fst (r : Register κ β) (key : κ) (f : Option β → β) :
    (r.put key f).1 = (r.position? key).getD r.size := by
  unfold put position?
  rw [List.findIdx?_eq_guard_findIdx_lt]
  by_cases h : r.entries.findIdx (·.1 == key) < r.entries.length
  · simp [Option.guard, h]
  · have hle : r.entries.findIdx (·.1 == key) ≤ r.entries.length := List.findIdx_le_length
    simp only [Option.guard, h, decide_false, Bool.false_eq_true, if_false, Option.getD_none, size]
    omega

/-- A known key is put in its place. -/
theorem put_of_position? (h : r.position? key = some p) (f : Option β → β) :
    r.put key f = (p, ⟨r.entries.set p (key, f (r.get? key))⟩) := by
  have hlt : p < r.entries.length := by
    obtain ⟨hlt, -⟩ := List.findIdx?_eq_some_iff_getElem.1 h
    exact hlt
  have hfst : (r.put key f).1 = p := by rw [put_fst, h, Option.getD_some]
  refine Prod.ext hfst (ext_at? fun q => ?_)
  rw [at?_put, hfst]
  unfold at?
  by_cases hq : q = p
  · subst hq
    simp [hlt]
  · simp [hq, List.getElem?_set_ne (Ne.symm hq)]

/-- A new key is put at the end. -/
theorem put_of_new (h : r.position? key = none) (f : Option β → β) :
    r.put key f = (r.size, ⟨r.entries ++ [(key, f none)]⟩) := by
  have hlookup : r.get? key = none := by rw [get?_eq_bind_position?, h, Option.bind_none]
  refine Prod.ext (by rw [put_fst, h, Option.getD_none]) ?_
  exact congrArg Register.mk (putEntry_of_lookup_eq_none hlookup f)

/-- Putting keeps the entries of other keys where they are. -/
theorem at?_put_of_ne (h : r.at? p = some (other, value)) (hne : other ≠ key)
    (f : Option β → β) : (r.put key f).2.at? p = some (other, value) := by
  rw [at?_put, if_neg]
  · exact h
  · rintro rfl
    rw [put_fst] at h
    cases hpos : r.position? key with
    | none =>
        rw [hpos] at h
        exact absurd (lt_size_of_at? h) (Nat.lt_irrefl _)
    | some p =>
        rw [hpos, Option.getD_some] at h
        unfold position? at hpos
        rw [List.findIdx?_eq_some_iff_getElem] at hpos
        obtain ⟨hlt, hkey, -⟩ := hpos
        unfold at? at h
        rw [List.getElem?_eq_getElem hlt, Option.some.injEq] at h
        rw [h] at hkey
        exact hne (eq_of_beq hkey)

/-- Keys stay where they are: what had a position has it still. -/
theorem at?_put_fst (h : r.at? p = some (other, value)) (f : Option β → β) :
    ∃ value', (r.put key f).2.at? p = some (other, value') := by
  by_cases hne : other = key
  · subst hne
    rw [at?_put]
    split
    · exact ⟨_, rfl⟩
    · exact ⟨value, h⟩
  · exact ⟨value, at?_put_of_ne h hne f⟩

/-- Putting an entry makes a register no smaller. -/
theorem size_le_size_put (f : Option β → β) : r.size ≤ (r.put key f).2.size := by
  by_contra hlt
  rw [Nat.not_le] at hlt
  obtain ⟨⟨k, v⟩, hentry⟩ := exists_at? hlt
  have hkept : ∃ v', (r.put key f).2.at? (r.put key f).2.size = some (k, v') := at?_put_fst hentry f
  obtain ⟨v', hv'⟩ := hkept
  exact absurd (lt_size_of_at? hv') (Nat.lt_irrefl _)

/-- Putting keeps keys distinct. -/
theorem Distinct.put (hr : r.Distinct) (key : κ) (f : Option β → β) :
    (r.put key f).2.Distinct := by
  have hentry : ∀ {p k v}, (r.put key f).2.at? p = some (k, v) →
      (k = key ∧ p = (r.put key f).1) ∨ (k ≠ key ∧ ∃ w, r.at? p = some (k, w)) := by
    intro p k v h
    by_cases hp : p = (r.put key f).1
    · rw [at?_put, if_pos hp] at h
      exact .inl ⟨by simpa using (congrArg Prod.fst (Option.some.inj h)).symm, hp⟩
    · rw [at?_put, if_neg hp] at h
      refine .inr ⟨?_, v, h⟩
      rintro rfl
      apply hp
      rw [put_fst, (position?_eq_some_iff hr).2 ⟨v, h⟩, Option.getD_some]
  unfold Distinct
  rw [List.nodup_iff_getElem?_ne_getElem?]
  intro p q hpq hq heq
  rw [List.length_map] at hq
  obtain ⟨⟨k, v⟩, hp⟩ := exists_at? (Nat.lt_trans hpq hq)
  obtain ⟨⟨k', v'⟩, hq⟩ := exists_at? hq
  obtain rfl : k = k' := by
    unfold at? at hp hq
    simpa [hp, hq] using heq
  rcases hentry hp with ⟨hk, hpos⟩ | ⟨hk, w, hw⟩
  · rcases hentry hq with ⟨-, hpos'⟩ | ⟨hk', -⟩
    · omega
    · exact hk' hk
  · rcases hentry hq with ⟨hk', -⟩ | ⟨-, w', hw'⟩
    · exact hk hk'
    · exact Nat.ne_of_lt hpq (hr.position_eq hw hw')

/-- The key has the answered position. -/
theorem position?_put_self (hr : r.Distinct) (f : Option β → β) :
    (r.put key f).2.position? key = some (r.put key f).1 := by
  rw [position?_eq_some_iff (hr.put key f), at?_put, if_pos rfl]
  exact ⟨_, rfl⟩

/-! ## Keys in the order in which they first came -/

/-- With one key more, the keys without repeats have it last, unless it had come before. -/
theorem eraseDups_concat (keys : List κ) (key : κ) :
    (keys ++ [key]).eraseDups = if key ∈ keys then keys.eraseDups else keys.eraseDups ++ [key] := by
  rw [List.eraseDups_append]
  split <;> simp_all [List.removeAll, List.eraseDups_cons]

/-- No key comes twice when repeats are taken away. -/
theorem nodup_eraseDups (keys : List κ) : keys.eraseDups.Nodup := by
  induction keys using List.reverseRecOn with
  | nil => exact List.nodup_nil
  | append_singleton before last ih =>
      rw [eraseDups_concat]
      split
      · exact ih
      · rename_i hlast
        rw [← List.concat_eq_append]
        exact ih.concat (by rwa [List.mem_eraseDups])

/-- Putting moves no key: a new one comes last. -/
theorem keys_put (r : Register κ β) (key : κ) (f : Option β → β) :
    (r.put key f).2.entries.map Prod.fst =
      if key ∈ r.entries.map Prod.fst then r.entries.map Prod.fst
      else r.entries.map Prod.fst ++ [key] := by
  change (putEntry key f r.entries).map Prod.fst = _
  induction r.entries with
  | nil => simp [putEntry]
  | cons entry rest ih =>
      obtain ⟨k, v⟩ := entry
      by_cases hk : k = key
      · subst hk
        simp [putEntry]
      · simp only [putEntry, beq_false_of_ne hk, Bool.false_eq_true, if_false, List.map_cons, ih,
          List.mem_cons, Ne.symm hk, false_or]
        split <;> rfl

end BusNetwork.Register
