import BusNetwork.Ascending
import Mathlib.Data.String.Basic

/-!
# Ascending lists

A list that is strictly ascending by name stays so when an item is put in (`pairwise_insert`), and
it then has that item besides the former ones. **A strictly ascending list of names is known by its
members** (`eq_of_mem_iff`), so it does not matter in which order the names were added.
-/

namespace BusNetwork.Ascending

/-! ## Lists of named items -/

section

variable {β : Type} {name : β → String} {item other : β} {items : List β}

/-- What is listed after an item was put in is that item, or was listed before. -/
theorem eq_or_mem_of_mem_insert (h : other ∈ insert name item items) :
    other = item ∨ other ∈ items := by
  induction items with
  | nil => exact .inl (List.mem_singleton.1 h)
  | cons head rest ih =>
      simp only [insert] at h
      split at h
      · exact List.mem_cons.1 h
      · split at h
        · rcases List.mem_cons.1 h with rfl | h
          · exact .inl rfl
          · exact .inr (List.mem_cons_of_mem _ h)
        · rcases List.mem_cons.1 h with rfl | h
          · exact .inr List.mem_cons_self
          · exact (ih h).imp id (List.mem_cons_of_mem _)

/-- Putting an item in keeps a list strictly ascending. -/
theorem pairwise_insert (h : items.Pairwise fun a b => name a < name b) :
    (insert name item items).Pairwise fun a b => name a < name b := by
  induction items with
  | nil => exact List.pairwise_singleton ..
  | cons head rest ih =>
      obtain ⟨hhead, hrest⟩ := List.pairwise_cons.1 h
      simp only [insert, beq_iff_eq]
      split
      · rename_i hlt
        refine List.pairwise_cons.2 ⟨fun other hmem => ?_, h⟩
        rcases List.mem_cons.1 hmem with rfl | hmem
        · exact hlt
        · exact hlt.trans (hhead other hmem)
      · split
        · rename_i heq
          refine List.pairwise_cons.2 ⟨fun other hmem => ?_, hrest⟩
          rw [heq]
          exact hhead other hmem
        · rename_i hlt hne
          refine List.pairwise_cons.2 ⟨fun other hmem => ?_, ih hrest⟩
          rcases eq_or_mem_of_mem_insert hmem with rfl | hmem
          · exact lt_of_le_of_ne (not_lt.1 hlt) (Ne.symm hne)
          · exact hhead other hmem

/-- Putting items in one by one gives a strictly ascending list. -/
theorem pairwise_ofList (name : β → String) (items : List β) :
    (ofList name items).Pairwise fun a b => name a < name b := by
  have hfrom : ∀ listed : List β, (listed.Pairwise fun a b => name a < name b) →
      (items.foldl (fun listed item => insert name item listed) listed).Pairwise
        fun a b => name a < name b := by
    induction items with
    | nil => exact fun _ h => h
    | cons item rest ih => exact fun _ h => ih _ (pairwise_insert h)
  exact hfrom [] .nil

/-- An item of a new name is put in besides the others. -/
theorem insert_perm (h : ∀ other ∈ items, name other ≠ name item) :
    (insert name item items).Perm (item :: items) := by
  induction items with
  | nil => exact .refl _
  | cons head rest ih =>
      rw [List.forall_mem_cons] at h
      simp only [insert, beq_iff_eq]
      split
      · exact .refl _
      · rw [if_neg (Ne.symm h.1)]
        exact ((ih h.2).cons head).trans (.swap item head rest)

/-- Items of different names are all listed. -/
theorem ofList_perm (h : (items.map name).Nodup) : (ofList name items).Perm items := by
  have hfrom : ∀ listed : List β, ((listed ++ items).map name).Nodup →
      (items.foldl (fun listed item => insert name item listed) listed).Perm (listed ++ items) := by
    induction items with
    | nil => exact fun listed _ => .of_eq (List.append_nil listed).symm
    | cons item rest ih =>
        intro listed hlisted
        have hmiddle : (listed ++ item :: rest).Perm (item :: (listed ++ rest)) := List.perm_middle
        have hnodup := (hmiddle.map name).nodup_iff.1 hlisted
        have hnew : ∀ other ∈ listed, name other ≠ name item := by
          intro other hother heq
          refine (List.nodup_cons.1 hnodup).1 ?_
          rw [← heq]
          exact List.mem_map_of_mem (List.mem_append_left _ hother)
        have hput : (insert name item listed ++ rest).Perm (item :: (listed ++ rest)) :=
          (insert_perm hnew).append_right rest
        refine (ih (List.nodup_cons.1 (by simpa using h)).2 _ ?_).trans (hput.trans hmiddle.symm)
        exact ((hput.map name).nodup_iff).2 hnodup
  exact hfrom [] h

/-- Items of different names may come in any order. -/
theorem ofList_eq_of_perm {items' : List β} (h : items.Perm items')
    (hnames : (items.map name).Nodup) : ofList name items = ofList name items' := by
  refine List.Perm.eq_of_pairwise (fun a b _ _ hab hba => ?_) (pairwise_ofList name items)
    (pairwise_ofList name items') ?_
  · exact absurd hba hab.asymm
  · have hnames' : (items'.map name).Nodup := (h.map name).nodup_iff.1 hnames
    exact (ofList_perm hnames).trans (h.trans (ofList_perm hnames').symm)

end

/-! ## Lists of names -/

variable {name other : String} {names names' : List String}

/-- The names after an insertion are the new one and those before it. -/
theorem mem_insert : other ∈ insert id name names ↔ other = name ∨ other ∈ names := by
  induction names with
  | nil => simp [insert]
  | cons head rest ih =>
      simp only [insert, id_eq, beq_iff_eq]
      split
      · simp
      · split
        · rename_i heq
          subst heq
          simp
        · simp only [List.mem_cons, ih]
          tauto

/-- Adding a name once more changes nothing. -/
theorem insert_insert (name : String) (names : List String) :
    insert id name (insert id name names) = insert id name names := by
  induction names with
  | nil => simp [insert]
  | cons head rest ih =>
      by_cases hlt : name < head
      · simp [insert, hlt]
      · by_cases heq : name = head
        · simp [insert, heq]
        · simp [insert, hlt, heq, ih]

/-- Strictly ascending lists of the same names are equal. -/
theorem eq_of_mem_iff (h : names.Pairwise (· < ·)) (h' : names'.Pairwise (· < ·))
    (hmem : ∀ name, name ∈ names ↔ name ∈ names') : names = names' := by
  refine List.Perm.eq_of_pairwise (fun a b _ _ hab hba => ?_) h h' ?_
  · exact absurd hba hab.asymm
  · exact (List.perm_ext_iff_of_nodup (h.imp ne_of_lt) (h'.imp ne_of_lt)).2 hmem

end BusNetwork.Ascending
