import BusNetwork.Proofs.Json.Reading
import BusNetwork.Proofs.Outcome
import Mathlib.Data.List.Perm.Basic

/-!
# The members of an object, in any order

A reader takes what it needs of an object by name, so **what it takes of the object depends on the
members of each name and not on how they are mixed** (`Came`, `readTagged_eq_ok_iff`).

`Rearranged fields Passes Alike ms ms'` says that the members `ms'` are the members `ms` in another
order, apart from foreign ones, and with values that are alike in place of some. A reader who knows
no other names than `fields` takes the same of both (`Rearranged.came_iff`).
-/

namespace BusNetwork.Json

/-! ## Values by name -/

/-- Whether a key spells a name. -/
def Quotation.spells (name : String) (key : Quotation) : Bool :=
  match key.text with
  | .ok text => text == name
  | .error _ => false

/-- A key spells a name exactly if the name is its text. -/
theorem Quotation.spells_iff {key : Quotation} {name : String} :
    key.spells name = true ↔ key.text = .ok name := by
  unfold spells
  cases key.text <;> simp

/-- A key with a text spells that name and no other. -/
theorem Quotation.spells_of_text {key : Quotation} {name : String} (h : key.text = .ok name)
    (field : String) : key.spells field = (name == field) := by
  rw [spells, h]

section

variable {κ β γ : Type}

/-- The values of the members of whose key something is true. -/
def valuesUnder (p : κ → Bool) (members : List (κ × β)) : List β :=
  (members.filter fun m => p m.1).map Prod.snd

variable {p : κ → Bool} {ms ms' : List (κ × β)}

/-- The values under a name come from the first member, if it has the name, and from the rest. -/
theorem valuesUnder_cons (p : κ → Bool) (m : κ × β) (ms : List (κ × β)) :
    valuesUnder p (m :: ms) = if p m.1 then m.2 :: valuesUnder p ms else valuesUnder p ms := by
  unfold valuesUnder
  rw [List.filter_cons]
  split <;> rfl

/-- The values under a name are collected from two runs of members one after the other. -/
theorem valuesUnder_append : valuesUnder p (ms ++ ms') = valuesUnder p ms ++ valuesUnder p ms' := by
  simp [valuesUnder]

/-- Members in another order have the same values under a name, in another order. -/
theorem valuesUnder_perm (h : ms.Perm ms') : (valuesUnder p ms).Perm (valuesUnder p ms') :=
  (h.filter _).map _

/-- No member with the name leaves no value under it. -/
theorem valuesUnder_eq_nil (h : ∀ m ∈ ms, p m.1 = false) : valuesUnder p ms = [] := by
  simpa [valuesUnder] using h

/-! ## What comes under a name -/

/-- What a reader has of a name after values have come under it: what it had before, or the only
value, if it had none. -/
def Came (read : β → Except Fault γ) (former : Option γ) : List β → Option γ → Prop
  | [], later => later = former
  | value :: rest, later => former = none ∧ rest = [] ∧ ∃ x, read value = .ok x ∧ later = some x

variable {read : β → Except Fault γ} {former later : Option γ} {value : β} {values : List β}

/-- Values come one after the other. -/
theorem came_cons_iff (field : String) : Came read former (value :: values) later ↔
    ∃ found, once field former (read value) = .ok found ∧ Came read found values later := by
  simp only [once_eq_ok_iff]
  constructor
  · rintro ⟨hformer, rfl, x, hx, hlater⟩
    exact ⟨some x, ⟨hformer, x, hx, rfl⟩, hlater⟩
  · rintro ⟨_, ⟨hformer, x, hx, rfl⟩, hcame⟩
    cases values with
    | nil => exact ⟨hformer, rfl, x, hx, hcame⟩
    | cons next rest => cases hcame.1

/-- A draft that takes in what comes under a name goes on with what was found. -/
theorem exists_once_iff {δ : Type} {field : String} {found : Except Fault γ} {put : Option γ → δ}
    {GoesOn : δ → Prop} :
    (∃ d, (do return put (← once field former found)) = .ok d ∧ GoesOn d) ↔
      ∃ later, once field former found = .ok later ∧ GoesOn (put later) := by
  simp only [bind_eq_ok_iff, pure_eq_ok_iff]
  constructor
  · rintro ⟨_, ⟨later, honce, rfl⟩, hd⟩
    exact ⟨later, honce, hd⟩
  · rintro ⟨later, honce, hd⟩
    exact ⟨_, ⟨later, honce, rfl⟩, hd⟩

/-- Where more than one value has to come, the order is of no matter. -/
theorem Came.perm {values' : List β} (h : values.Perm values') :
    Came read former values later ↔ Came read former values' later := by
  match values, values', h with
  | [], [], _ => exact Iff.rfl
  | [a], [b], h =>
      obtain rfl : a = b := by simpa using h
      exact Iff.rfl
  | a :: b :: rest, c :: d :: rest', _ => simp [Came]
  | [], _ :: _, h => cases h.length_eq
  | _ :: _, [], h => cases h.length_eq
  | [_], _ :: _ :: _, h => cases h.length_eq
  | _ :: _ :: _, [_], h => cases h.length_eq

/-- Values that are read alike. -/
theorem Came.congr {β' : Type} {read' : β' → Except Fault γ} {values' : List β'}
    (h : List.Forall₂ (fun value value' => ∀ x, read value = .ok x ↔ read' value' = .ok x) values
      values') : Came read former values later ↔ Came read' former values' later := by
  cases h with
  | nil => exact Iff.rfl
  | cons hvalue hrest => cases hrest <;> simp [Came, hvalue]

end

/-! ## Objects with a tag -/

/-- The members of an object with a tag, apart from the tag, as they are read. -/
def ReadAs (depth : Nat) (ms : List (Quotation × Tree)) (named : List (String × Value)) : Prop :=
  List.Forall₂ (fun m n => m.1.text = .ok n.1 ∧ m.2.read depth = .ok n.2)
    (ms.filter fun m => !m.1.spells tagField) named

section

variable {known : List String} {depth : Nat} {former later : Option String} {key : Quotation}
  {member : Tree} {ms : List (Quotation × Tree)} {named : List (String × Value)}

/-- A tag at the front is taken down, and the other members are read after it. -/
theorem readTagged_cons_tag (h : key.text = .ok tagField) :
    readTagged known depth former ((key, member) :: ms) = .ok (later, named) ↔
      ∃ found, once tagField former (readTag known member) = .ok found ∧
        readTagged known depth found ms = .ok (later, named) := by
  simp only [readTagged, h, bind_eq_ok_iff, liftM_break_eq_ok_iff, Except.ok.injEq,
    exists_eq_left', beq_self_eq_true, if_true]

/-- A member at the front that is not the tag is read and kept before the others. -/
theorem readTagged_cons_other (h : key.text ≠ .ok tagField) :
    readTagged known depth former ((key, member) :: ms) = .ok (later, named) ↔
      ∃ n members, (key.text = .ok n.1 ∧ member.read depth = .ok n.2) ∧
        readTagged known depth former ms = .ok (later, members) ∧ named = n :: members := by
  simp only [readTagged, bind_eq_ok_iff, liftM_break_eq_ok_iff, Prod.exists]
  refine exists_congr fun name => ?_
  simp only [and_assoc, exists_and_left]
  refine and_congr_right fun hname => ?_
  have hne : (name == tagField) = false := beq_false_of_ne fun heq => h (heq ▸ hname)
  simp only [hne, Bool.false_eq_true, if_false, bind_eq_ok_iff, liftM_break_eq_ok_iff,
    pure_eq_ok_iff, Prod.exists, Prod.mk.injEq]
  constructor
  · rintro ⟨value, hvalue, _, members, hmembers, rfl, rfl⟩
    exact ⟨value, hvalue, members, hmembers, rfl⟩
  · rintro ⟨value, hvalue, members, hmembers, rfl⟩
    exact ⟨value, hvalue, later, members, hmembers, rfl, rfl⟩

/-- **An object with a tag is read if its tag comes once at most and is a known one, and all else
can be read.** -/
theorem readTagged_eq_ok_iff : readTagged known depth former ms = .ok (later, named) ↔
    Came (readTag known) former (valuesUnder (Quotation.spells tagField) ms) later ∧
      ReadAs depth ms named := by
  induction ms generalizing former named with
  | nil => simp [readTagged, valuesUnder, Came, ReadAs, eq_comm]
  | cons m rest ih =>
      obtain ⟨key, member⟩ := m
      rw [valuesUnder_cons, ReadAs, List.filter_cons]
      by_cases htag : key.text = .ok tagField
      · have hspells : key.spells tagField = true := Quotation.spells_iff.2 htag
        simp only [readTagged_cons_tag htag, ih, hspells, came_cons_iff tagField, Bool.not_true,
          Bool.false_eq_true, if_false, if_true, ReadAs, ← and_assoc, exists_and_right]
      · have hspells : key.spells tagField = false :=
          Bool.eq_false_iff.2 fun h => htag (Quotation.spells_iff.1 h)
        simp only [readTagged_cons_other htag, ih, hspells, Bool.not_false, Bool.false_eq_true,
          if_false, if_true, List.forall₂_cons_left_iff, ReadAs, ← exists_and_left, and_assoc,
          and_left_comm]

end

/-- All but the tag can be read if the values of all other keys can. -/
theorem exists_readAs_iff {depth : Nat} {ms : List (Quotation × Tree)} :
    (∃ named, ReadAs depth ms named) ↔ ∀ m ∈ ms, ∃ name, m.1.text = .ok name ∧
      (name ≠ tagField → ∃ v, m.2.read depth = .ok v) := by
  constructor
  · rintro ⟨named, h⟩ m hm
    cases hspells : m.1.spells tagField with
    | true => exact ⟨tagField, Quotation.spells_iff.1 hspells, fun hne => absurd rfl hne⟩
    | false =>
        obtain ⟨n, -, hname, hvalue⟩ :=
          exists_mem_of_forall₂ h.flip (List.mem_filter.2 ⟨hm, by simp [hspells]⟩)
        exact ⟨n.1, hname, fun _ => ⟨n.2, hvalue⟩⟩
  · intro h
    refine exists_forall₂ fun m hm => ?_
    obtain ⟨hmem, hspells⟩ := List.mem_filter.1 hm
    obtain ⟨name, hname, hvalue⟩ := h m hmem
    have hne : name ≠ tagField := by
      rintro rfl
      simp [Quotation.spells_iff.2 hname] at hspells
    obtain ⟨v, hv⟩ := hvalue hne
    exact ⟨(name, v), hname, hv⟩

/-- A reading of values as a reading of trees. -/
def ofValue {γ : Type} (depth : Nat) (read : Value → Except Fault γ) (t : Tree) :
    Except Fault γ := do
  read (← t.read depth)

/-- What comes of a value is what comes of the tree that it is read from. -/
theorem came_readAs_iff {γ : Type} {read : Value → Except Fault γ} {former later : Option γ}
    {depth : Nat} {ms : List (Quotation × Tree)} {named : List (String × Value)}
    (h : ReadAs depth ms named) {field : String} (hfield : field ≠ tagField) :
    Came read former (valuesUnder (· == field) named) later ↔
      Came (ofValue depth read) former (valuesUnder (Quotation.spells field) ms) later := by
  have hother : valuesUnder (Quotation.spells field) ms =
      valuesUnder (Quotation.spells field) (ms.filter fun m => !m.1.spells tagField) := by
    unfold valuesUnder
    rw [List.filter_filter]
    congr 1
    refine List.filter_congr fun m _ => ?_
    cases hspells : m.1.spells field with
    | false => rfl
    | true =>
        have htext := Quotation.spells_iff.1 hspells
        simp [Quotation.spells, htext, hfield]
  rw [hother]
  refine (Came.congr ?_).symm
  unfold ReadAs at h
  generalize (ms.filter fun m => !m.1.spells tagField) = others at h ⊢
  induction h with
  | nil => exact .nil
  | @cons m n _ _ hmn _ ih =>
      obtain ⟨hname, hvalue⟩ := hmn
      have hsame : m.1.spells field = (n.1 == field) := Quotation.spells_of_text hname field
      rw [valuesUnder_cons, valuesUnder_cons, hsame]
      split
      · refine .cons (fun x => ?_) ih
        simp [ofValue, bind_eq_ok_iff, liftM_break_eq_ok_iff, hvalue]
      · exact ih

/-! ## The same members in another order -/

/-- A member that a reader of `fields` does not know: its key is a text and none of them, and its
value passes. -/
def Foreign (fields : List String) (Passes : Tree → Prop) (m : Quotation × Tree) : Prop :=
  ∃ name, m.1.text = .ok name ∧ name ∉ fields ∧ Passes m.2

/-- A member with the same key and the same value, or with a value that is alike under a known
key. -/
def Kept (fields : List String) (Alike : String → Tree → Tree → Prop) (m m' : Quotation × Tree) :
    Prop :=
  m.1 = m'.1 ∧ (m.2 = m'.2 ∨ ∃ name ∈ fields, m.1.text = .ok name ∧ Alike name m.2 m'.2)

/-- The members of an object in another order, some foreign ones taken away and others put in. -/
def Rearranged (fields : List String) (Passes : Tree → Prop) (Alike : String → Tree → Tree → Prop)
    (ms ms' : List (Quotation × Tree)) : Prop :=
  ∃ kept kept' foreign foreign', ms.Perm (kept ++ foreign) ∧ ms'.Perm (kept' ++ foreign') ∧
    List.Forall₂ (Kept fields Alike) kept kept' ∧ ∀ m ∈ foreign ++ foreign', Foreign fields Passes m

/-- The same value, or an object with rearranged members. -/
def SameRecord (fields : List (Quotation × Tree) → List String) (Passes : Tree → Prop)
    (Alike : String → Tree → Tree → Prop) (t t' : Tree) : Prop :=
  t = t' ∨ ∃ ms ms', t = .object ms none ∧ t' = .object ms' none ∧
    Rearranged (fields ms) Passes Alike ms ms'

namespace Rearranged

variable {fields : List String} {Passes : Tree → Prop} {Alike : String → Tree → Tree → Prop}
  {ms ms' : List (Quotation × Tree)}

/-- What is true of foreign members, and of a kept one if it is of the one it was, is true of all
members if it was. -/
theorem forall_iff {Good : Quotation × Tree → Prop} (h : Rearranged fields Passes Alike ms ms')
    (hkept : ∀ m m', Kept fields Alike m m' → (Good m ↔ Good m'))
    (hforeign : ∀ m, Foreign fields Passes m → Good m) :
    (∀ m ∈ ms, Good m) ↔ ∀ m ∈ ms', Good m := by
  obtain ⟨kept, kept', foreign, foreign', hms, hms', hsame, hpass⟩ := h
  simp only [List.forall_mem_append] at hpass
  have hkeep : (∀ m ∈ kept, Good m) ↔ ∀ m ∈ kept', Good m := by
    clear hms hms'
    induction hsame with
    | nil => simp
    | cons hmm' _ ih => rw [List.forall_mem_cons, List.forall_mem_cons, hkept _ _ hmm', ih]
  simp only [hms.mem_iff, hms'.mem_iff, List.forall_mem_append, hkeep]
  refine and_congr_right fun _ => ⟨fun _ m hm => ?_, fun _ m hm => ?_⟩
  · exact hforeign m (hpass.2 m hm)
  · exact hforeign m (hpass.1 m hm)

/-- Foreign members leave no value under a field. -/
theorem valuesUnder_foreign {foreign : List (Quotation × Tree)}
    (h : ∀ m ∈ foreign, Foreign fields Passes m) {field : String} (hfield : field ∈ fields) :
    valuesUnder (Quotation.spells field) foreign = [] := by
  refine valuesUnder_eq_nil fun m hm => ?_
  obtain ⟨name, hname, hmem, -⟩ := h m hm
  have hne : name ≠ field := fun heq => hmem (heq ▸ hfield)
  simp [Quotation.spells, hname, hne]

/-- **A reader takes the same of a known name**, if it reads values that are alike in the same
way. -/
theorem came_iff {γ : Type} {read : Tree → Except Fault γ} {former later : Option γ}
    (h : Rearranged fields Passes Alike ms ms') {field : String} (hfield : field ∈ fields)
    (hread : ∀ t t', Alike field t t' → ∀ x, read t = .ok x ↔ read t' = .ok x) :
    Came read former (valuesUnder (Quotation.spells field) ms) later ↔
      Came read former (valuesUnder (Quotation.spells field) ms') later := by
  obtain ⟨kept, kept', foreign, foreign', hms, hms', hsame, hpass⟩ := h
  simp only [List.forall_mem_append] at hpass
  rw [Came.perm (valuesUnder_perm hms), Came.perm (valuesUnder_perm hms'), valuesUnder_append,
    valuesUnder_append, valuesUnder_foreign hpass.1 hfield, valuesUnder_foreign hpass.2 hfield,
    List.append_nil, List.append_nil]
  refine Came.congr ?_
  clear hms hms'
  induction hsame with
  | nil => exact .nil
  | @cons m m' _ _ hmm' _ ih =>
      obtain ⟨hkey, hvalue⟩ := hmm'
      rw [valuesUnder_cons, valuesUnder_cons, hkey]
      split
      · rename_i hspells
        refine .cons ?_ ih
        rcases hvalue with heq | ⟨name, -, hname, halike⟩
        · rw [heq]
          exact fun _ => Iff.rfl
        · rw [hkey, Quotation.spells_iff.1 hspells] at hname
          obtain rfl : field = name := Except.ok.inj hname
          exact hread _ _ halike
      · exact ih

/-- A reader of the values of an object with a tag takes the same of a known name, if it reads
values that are alike in the same way. -/
theorem came_named_iff {γ : Type} {depth : Nat} {read : Value → Except Fault γ}
    {former later : Option γ} {named named' : List (String × Value)}
    (h : Rearranged (tagField :: fields) Passes Alike ms ms') (htag : tagField ∉ fields)
    (hread : ReadAs depth ms named) (hread' : ReadAs depth ms' named') (field : String)
    (hfield : field ∈ fields)
    (halike : ∀ t t', Alike field t t' → ∀ x,
      ofValue depth read t = .ok x ↔ ofValue depth read t' = .ok x) :
    Came read former (valuesUnder (· == field) named) later ↔
      Came read former (valuesUnder (· == field) named') later := by
  have hne : field ≠ tagField := fun heq => htag (heq ▸ hfield)
  rw [came_readAs_iff hread hne, came_readAs_iff hread' hne]
  exact h.came_iff (List.mem_cons_of_mem _ hfield) halike

end Rearranged

end BusNetwork.Json
