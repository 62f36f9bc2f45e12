import BusNetwork.Proofs.Decimal.Interchange

/-!
# Values that are written and read back

**The text of a value has the value for its tree** (`ofBytes_lay`): nothing is lost, nothing is
left over, and every bracket is closed. White space between tokens is of no matter, so neither is
how deep the lines of a text are set in; and a number ends where its line does.

A number that has no spelling, because it is not finite, has the tree of nothing (`numberTree`).
-/

namespace BusNetwork.Json

/-! ## Induction on values -/

/-- A property of values that each has of its items and members. -/
@[elab_as_elim]
theorem Value.induction {motive : Value → Prop} (null : motive .null)
    (boolean : ∀ b, motive (.boolean b)) (number : ∀ n, motive (.number n))
    (string : ∀ text, motive (.string text))
    (array : ∀ items, (∀ v ∈ items, motive v) → motive (.array items))
    (object : ∀ members, (∀ m ∈ members, motive m.2) → motive (.object members)) :
    ∀ v, motive v
  | .null => null
  | .boolean b => boolean b
  | .number n => number n
  | .string text => string text
  | .array items => array items fun v _ => induction null boolean number string array object v
  | .object members =>
      object members fun m _ => induction null boolean number string array object m.2
termination_by v => sizeOf v
decreasing_by
  · have := List.sizeOf_lt_of_mem ‹v ∈ items›
    simp only [Value.array.sizeOf_spec]
    omega
  · have hlt := List.sizeOf_lt_of_mem ‹m ∈ members›
    obtain ⟨key, v⟩ := m
    simp only [Value.object.sizeOf_spec, Prod.mk.sizeOf_spec] at hlt ⊢
    omega

/-! ## Trees of values -/

/-- The tree of a number: its token if it has a spelling. -/
def numberTree (n : Number) : Tree :=
  match Numeral.scan (bytesOf (layNumber n)) with
  | .ok (token, _) => .number token
  | .error _ => .null

mutual

/-- A value as a tree. -/
def treeOf : Value → Tree
  | .null => .null
  | .boolean b => .boolean b
  | .number n => numberTree n
  | .string text => .string (.spelling text)
  | .array items => .array (treesOf items) none
  | .object members => .object (memberTreesOf members) none

/-- The trees of an array's items. -/
def treesOf : List Value → List Tree
  | [] => []
  | item :: rest => treeOf item :: treesOf rest

/-- The keys and trees of an object's members. -/
def memberTreesOf : List (String × Value) → List (Quotation × Tree)
  | [] => []
  | (key, value) :: rest => (.spelling key, treeOf value) :: memberTreesOf rest

end

/-- The trees of the elements of an array are those of its values. -/
theorem treesOf_eq_map (items : List Value) : treesOf items = items.map treeOf := by
  induction items with
  | nil => rfl
  | cons item rest ih => rw [treesOf, ih, List.map_cons]

/-- The trees of the members of an object are those of its values under the same names. -/
theorem memberTreesOf_eq_map (members : List (String × Value)) :
    memberTreesOf members = members.map fun m => (.spelling m.1, treeOf m.2) := by
  induction members with
  | nil => rfl
  | cons m rest ih => rw [memberTreesOf, ih, List.map_cons]

/-- A number with a spelling has the token of the spelling. -/
theorem numberTree_eq {n : Number} {token : Numeral} (hformed : token.WellFormed)
    (hspell : token.spell = bytesOf (layNumber n)) : numberTree n = .number token := by
  have hscan : Numeral.scan (token.spell ++ []) = .ok (token, []) :=
    Numeral.scan_spell hformed nofun
  rw [List.append_nil, hspell] at hscan
  rw [numberTree, hscan]

/-- An integer is laid out as its decimal numeral. -/
theorem numberTree_integer (n : Int) : numberTree (.integer n) = .number (.ofInteger n) :=
  numberTree_eq (Numeral.wellFormed_ofInteger n) (Numeral.spell_ofInteger n)

/-- What is not finite is written as nothing. -/
theorem numberTree_of_not_isFinite {x : Float} (h : x.isFinite = false) :
    layNumber (.float x) = ['n', 'u', 'l', 'l'] ∧ numberTree (.float x) = .null := by
  have htext : layNumber (.float x) = ['n', 'u', 'l', 'l'] := by
    rw [layNumber, Decimal.interchange_of_not_isFinite h]
    rfl
  refine ⟨htext, ?_⟩
  rw [numberTree, htext]
  rfl

/-- **A number is written as a numeral, or as nothing.** -/
theorem layNumber_cases (n : Number) :
    (∃ token : Numeral, token.WellFormed ∧ token.spell = bytesOf (layNumber n)) ∨
      layNumber n = ['n', 'u', 'l', 'l'] ∧ numberTree n = .null := by
  cases n with
  | integer n => exact .inl ⟨_, Numeral.wellFormed_ofInteger n, Numeral.spell_ofInteger n⟩
  | float x =>
      cases hx : x.isFinite with
      | true => exact .inl (Decimal.isNumeral_interchange hx)
      | false => exact .inr (numberTree_of_not_isFinite hx)

/-! ## White space -/

namespace Tree

variable {b : UInt8} {bytes bytes' blanks rest : List UInt8} {fuel depth : Nat}

/-- Blanks in front of bytes are skipped with the blanks that these begin with. -/
theorem skipBlank_append (h : ∀ b ∈ blanks, isBlank b = true) :
    skipBlank (blanks ++ bytes) = skipBlank bytes :=
  List.dropWhile_append_of_pos h

/-- Nothing is skipped before a byte that is no blank. -/
theorem skipBlank_cons (h : isBlank b = false) : skipBlank (b :: bytes) = b :: bytes := by
  rw [skipBlank, List.dropWhile_cons_of_neg (by simp [h])]

/-- White space in front of a value is of no matter. -/
theorem value_append (blanks : List UInt8) (h : ∀ b ∈ blanks, isBlank b = true) :
    value fuel (blanks ++ bytes) = value fuel bytes := by
  cases fuel with
  | zero => rw [value, value]
  | succ fuel => rw [value, value, skipBlank_append h]

/-- A line break and its indentation are blank. -/
theorem isBlank_layBreak (depth : Nat) : ∀ b ∈ bytesOf (layBreak depth), isBlank b = true := by
  intro b hb
  obtain ⟨c, hc, hbc⟩ := List.mem_flatMap.1 hb
  have hblank : c = '\n' ∨ c = ' ' :=
    (List.mem_cons.1 hc).imp_right List.eq_of_mem_replicate
  rcases hblank with rfl | rfl <;>
  · rw [utf8EncodeChar_of_lt (by decide), List.mem_singleton] at hbc
    rw [hbc]
    rfl

/-! ## Values at the front of a text -/

/-- A value is read back from a text that starts with it and goes on with nothing that belongs to a
number, whatever the depth. -/
def ReadsBack (v : Value) : Prop :=
  ∀ ⦃depth fuel rest⦄, Numeral.Ends rest → 2 * (bytesOf (lay depth v) ++ rest).length ≤ fuel →
    value fuel (bytesOf (lay depth v) ++ rest) = (treeOf v, some rest)

/-- Fuel enough for a text is enough for a step and what follows the text's first byte. -/
theorem exists_fuel (h : 2 * (b :: bytes).length ≤ fuel) :
    ∃ less, fuel = less + 1 ∧ 2 * bytes.length < less := by
  rw [List.length_cons] at h
  exact ⟨fuel - 1, by omega, by omega⟩

/-- The layout of `null` is read back. -/
theorem readsBack_null : ReadsBack .null := by
  intro depth fuel rest _ hfuel
  obtain ⟨less, rfl, -⟩ := exists_fuel hfuel
  rfl

/-- The layout of a boolean is read back. -/
theorem readsBack_boolean (b : Bool) : ReadsBack (.boolean b) := by
  intro depth fuel rest _ hfuel
  cases b with
  | true =>
      obtain ⟨less, rfl, -⟩ := exists_fuel hfuel
      rfl
  | false =>
      obtain ⟨less, rfl, -⟩ := exists_fuel hfuel
      rfl

/-- The layout of a string is read back. -/
theorem readsBack_string (text : String) : ReadsBack (.string text) := by
  intro depth fuel rest _ hfuel
  obtain ⟨inner, hbytes, hscan⟩ := Quotation.scan_layString text rest
  rw [lay, hbytes] at hfuel ⊢
  obtain ⟨less, rfl, -⟩ := exists_fuel hfuel
  change (string (Quotation.scan inner).1, afterQuotation (Quotation.scan inner).1
    (Quotation.scan inner).2) = _
  rw [hscan]
  rfl

/-- A byte that a number starts with is no white space and starts nothing else. -/
theorem value_numeral (h : b = byteOf '-' ∨ isDigit b = true) :
    value (fuel + 1) (b :: bytes) = ofNumeral (b :: bytes) := by
  have hother : [' ', '\n', '\t', '\r', 'n', 't', 'f', '"', '[', '\x7b'].all
      (fun c => byteOf c != byteOf '-' && !isDigit (byteOf c)) = true := by
    decide
  have hne : ∀ c ∈ [' ', '\n', '\t', '\r', 'n', 't', 'f', '"', '[', '\x7b'],
      (b == byteOf c) = false := by
    refine fun c hc => beq_false_of_ne ?_
    rintro rfl
    have := List.all_eq_true.1 hother c hc
    rcases h with h | h <;> simp [h] at this
  simp only [List.forall_mem_cons] at hne
  obtain ⟨hspace, hline, htab, hreturn, hn, ht, hf, hquote, hbracket, hbrace, -⟩ := hne
  have hblank : isBlank b = false := by
    rw [isBlank, hspace, hline, htab, hreturn]
    rfl
  rw [value, skipBlank_cons hblank]
  simp only [hn, ht, hf, hquote, hbracket, hbrace, Bool.false_eq_true, if_false]
  exact if_pos (by simpa using h)

/-- A numeral starts with a sign or a digit. -/
theorem exists_cons_spell {token : Numeral} (h : token.WellFormed) :
    ∃ b later, token.spell = b :: later ∧ (b = byteOf '-' ∨ isDigit b = true) := by
  obtain ⟨b, later, hwhole⟩ := List.exists_cons_of_ne_nil h.whole.ne_nil
  cases hnegative : token.negative with
  | true => exact ⟨_, _, by rw [Numeral.spell, hnegative]; rfl, .inl rfl⟩
  | false =>
      refine ⟨b, _, by rw [Numeral.spell, hnegative, hwhole]; rfl, .inr ?_⟩
      exact h.whole.isDigit b (hwhole ▸ List.mem_cons_self)

/-- The layout of a number is read back. -/
theorem readsBack_number (n : Number) : ReadsBack (.number n) := by
  intro depth fuel rest hrest hfuel
  rcases layNumber_cases n with ⟨token, hformed, hbytes⟩ | ⟨htext, htree⟩
  · have htree := numberTree_eq hformed hbytes
    rw [lay, ← hbytes] at hfuel ⊢
    have hscan := Numeral.scan_spell hformed hrest
    obtain ⟨b, later, hspell, hb⟩ := exists_cons_spell hformed
    rw [hspell, List.cons_append] at hfuel hscan ⊢
    obtain ⟨less, rfl, -⟩ := exists_fuel hfuel
    rw [value_numeral hb, ofNumeral, hscan, treeOf, htree]
  · rw [lay, htext] at hfuel ⊢
    rw [treeOf, htree]
    exact @readsBack_null depth _ _ hrest hfuel

/-! ## Elements of a collection -/

/-- What follows an element of a collection: the later elements, each after a comma and on a line of
its own, and the closing bracket. -/
def layRest (closing : Char) (depth : Nat) (elements : List (List Char)) : List UInt8 :=
  bytesOf (elements.flatMap (fun element => ',' :: (layBreak (depth + 1) ++ element))
    ++ layBreak depth ++ [closing])

variable {opening closing : Char} {element : List Char} {elements : List (List Char)}

/-- A filled bracket is its opening, the first element on a line of its own, and what follows
this. -/
theorem bytesOf_layBetween (hopening : opening.toNat < 128) :
    bytesOf (layBetween opening closing depth (element :: elements)) ++ rest =
      byteOf opening :: (bytesOf (layBreak (depth + 1)) ++
        (bytesOf element ++ (layRest closing depth elements ++ rest))) := by
  simp [layBetween, layRest, utf8EncodeChar_of_lt hopening]

/-- After the last element the closing bracket stands on a line of its own. -/
theorem layRest_nil (hclosing : closing.toNat < 128) :
    layRest closing depth [] = bytesOf (layBreak depth) ++ [byteOf closing] := by
  simp [layRest, utf8EncodeChar_of_lt hclosing]

/-- After an element a comma stands before the next one, which has a line of its own. -/
theorem layRest_cons : layRest closing depth (element :: elements) ++ rest =
    byteOf ',' :: (bytesOf (layBreak (depth + 1)) ++
      (bytesOf element ++ (layRest closing depth elements ++ rest))) := by
  simp [layRest, utf8EncodeChar_of_lt (c := ',') (by decide)]

/-- A closing bracket is found behind the last element. -/
theorem following_layRest_nil (closing : Char) (h : closing = ']' ∨ closing = '\x7d') :
    following (byteOf closing) (layRest closing depth [] ++ rest) = .close rest := by
  rcases h with rfl | rfl <;>
    rw [layRest_nil (by decide), List.append_assoc, following,
      skipBlank_append (isBlank_layBreak depth)] <;> rfl

/-- A comma is found behind any other element. -/
theorem following_layRest_cons (bracket : UInt8) :
    following bracket (layRest closing depth (element :: elements) ++ rest) =
      .another (bytesOf (layBreak (depth + 1)) ++
        (bytesOf element ++ (layRest closing depth elements ++ rest))) := by
  rw [layRest_cons]
  simp [following, skipBlank_cons (b := byteOf ',') (by decide)]

/-- A number ends where its line does. -/
theorem ends_layRest : Numeral.Ends (layRest closing depth elements ++ rest) := by
  cases elements with
  | nil =>
      rintro b ⟨rfl⟩
      decide
  | cons element elements =>
      rw [layRest_cons]
      rintro b ⟨rfl⟩
      decide

/-- **The items of an array are read back one after the other.** -/
theorem nextItems_lay {first : Value} {later : List Value}
    (hitems : ∀ v ∈ first :: later, ReadsBack v)
    (hfuel : 2 * (bytesOf (layBreak (depth + 1)) ++ (bytesOf (lay (depth + 1) first) ++
      (layRest ']' depth (layItems (depth + 1) later) ++ rest))).length < fuel) :
    nextItems fuel (bytesOf (layBreak (depth + 1)) ++ (bytesOf (lay (depth + 1) first) ++
      (layRest ']' depth (layItems (depth + 1) later) ++ rest))) =
        (treesOf (first :: later), none, some rest) := by
  induction later generalizing first fuel with
  | nil =>
      obtain ⟨hfirst, -⟩ := List.forall_mem_cons.1 hitems
      obtain ⟨less, rfl⟩ := Nat.exists_eq_add_one_of_ne_zero (Nat.ne_zero_of_lt hfuel)
      rw [List.length_append] at hfuel
      rw [nextItems, value_append _ (isBlank_layBreak _), hfirst ends_layRest (by omega)]
      simp only [layItems, following_layRest_nil ']' (.inl rfl)]
      rfl
  | cons next later ih =>
      obtain ⟨hfirst, hlater⟩ := List.forall_mem_cons.1 hitems
      obtain ⟨less, rfl⟩ := Nat.exists_eq_add_one_of_ne_zero (Nat.ne_zero_of_lt hfuel)
      rw [List.length_append] at hfuel
      rw [nextItems, value_append _ (isBlank_layBreak _), hfirst ends_layRest (by omega)]
      rw [layItems, layRest_cons, List.length_append, List.length_cons] at hfuel
      simp only [layItems, following_layRest_cons]
      rw [ih hlater (by omega)]
      rfl

/-- A member as it is written, from the opening quote of its key on. -/
theorem bytesOf_member (key : String) (v : Value) :
    bytesOf (layString key ++ [':', ' '] ++ lay depth v) ++ rest =
      bytesOf (layString key) ++
        (byteOf ':' :: ([byteOf ' '] ++ (bytesOf (lay depth v) ++ rest))) := by
  simp [utf8EncodeChar_of_lt (c := ':') (by decide), utf8EncodeChar_of_lt (c := ' ') (by decide)]

/-- The first member of an object, of which the value is read back, is the last one or is followed
by others. -/
theorem nextMembers_member {key : String} {v : Value} (hv : ReadsBack v) (hrest : Numeral.Ends rest)
    (hfuel : 2 * (bytesOf (layBreak depth) ++
      (bytesOf (layString key ++ [':', ' '] ++ lay depth v) ++ rest)).length ≤ fuel)
    (after : List UInt8) :
    (following (byteOf '\x7d') rest = .close after →
      nextMembers (fuel + 1) (bytesOf (layBreak depth) ++
          (bytesOf (layString key ++ [':', ' '] ++ lay depth v) ++ rest)) =
        ([(.spelling key, treeOf v)], none, some after)) ∧
    (following (byteOf '\x7d') rest = .another after →
      nextMembers (fuel + 1) (bytesOf (layBreak depth) ++
          (bytesOf (layString key ++ [':', ' '] ++ lay depth v) ++ rest)) =
        ((.spelling key, treeOf v) :: (nextMembers fuel after).1, (nextMembers fuel after).2.1,
          (nextMembers fuel after).2.2)) := by
  obtain ⟨inner, hbytes, hscan⟩ := Quotation.scan_layString key
    (byteOf ':' :: ([byteOf ' '] ++ (bytesOf (lay depth v) ++ rest)))
  rw [bytesOf_member] at hfuel ⊢
  have hvalue : value fuel ([byteOf ' '] ++ (bytesOf (lay depth v) ++ rest)) =
      (treeOf v, some rest) := by
    rw [value_append [byteOf ' '] (List.forall_mem_singleton.2 rfl)]
    apply hv hrest
    simp only [List.length_append, List.length_cons] at hfuel ⊢
    omega
  have hcolon : skipBlank (byteOf ':' :: ([byteOf ' '] ++ (bytesOf (lay depth v) ++ rest))) =
      byteOf ':' :: ([byteOf ' '] ++ (bytesOf (lay depth v) ++ rest)) := skipBlank_cons rfl
  rw [nextMembers, skipBlank_append (isBlank_layBreak _), hbytes, skipBlank_cons (by decide)]
  constructor <;> intro hafter <;>
    simp only [hscan, hcolon, bne_self_eq_false, Bool.false_eq_true, if_false, hvalue, hafter]

/-- **The members of an object are read back one after the other**, each key before its value. -/
theorem nextMembers_lay {first : String × Value} {later : List (String × Value)}
    (hmembers : ∀ m ∈ first :: later, ReadsBack m.2)
    (hfuel : 2 * (bytesOf (layBreak (depth + 1)) ++
      (bytesOf (layString first.1 ++ [':', ' '] ++ lay (depth + 1) first.2) ++
        (layRest '\x7d' depth (layMembers (depth + 1) later) ++ rest))).length < fuel) :
    nextMembers fuel (bytesOf (layBreak (depth + 1)) ++
      (bytesOf (layString first.1 ++ [':', ' '] ++ lay (depth + 1) first.2) ++
        (layRest '\x7d' depth (layMembers (depth + 1) later) ++ rest))) =
          (memberTreesOf (first :: later), none, some rest) := by
  induction later generalizing first fuel with
  | nil =>
      obtain ⟨hfirst, -⟩ := List.forall_mem_cons.1 hmembers
      obtain ⟨less, rfl⟩ := Nat.exists_eq_add_one_of_ne_zero (Nat.ne_zero_of_lt hfuel)
      rw [(nextMembers_member hfirst ends_layRest (Nat.le_of_lt_succ hfuel) rest).1
        (following_layRest_nil '\x7d' (.inr rfl))]
      rfl
  | cons next later ih =>
      obtain ⟨hfirst, hlater⟩ := List.forall_mem_cons.1 hmembers
      obtain ⟨less, rfl⟩ := Nat.exists_eq_add_one_of_ne_zero (Nat.ne_zero_of_lt hfuel)
      rw [(nextMembers_member hfirst ends_layRest (Nat.le_of_lt_succ hfuel) _).2
        (following_layRest_cons _)]
      rw [layMembers, layRest_cons, List.length_append, List.length_append,
        List.length_cons] at hfuel
      rw [ih hlater (by omega)]
      rfl

/-! ## Whole values -/

/-- What starts a value does not close a bracket. -/
theorem exists_cons_of_value {result : Tree} (h : value fuel bytes = (result, some rest)) :
    ∃ b later, skipBlank bytes = b :: later ∧ b ≠ byteOf ']' := by
  cases fuel with
  | zero => cases h
  | succ less =>
      rw [value] at h
      cases hskip : skipBlank bytes with
      | nil =>
          rw [hskip] at h
          cases h
      | cons b later =>
          refine ⟨b, later, rfl, ?_⟩
          rintro rfl
          rw [hskip] at h
          cases h

/-- An opening bracket that is not closed at once is read as the array of the items after it. -/
theorem value_array {later : List UInt8} (hskip : skipBlank bytes = b :: later)
    (hb : b ≠ byteOf ']') : value (fuel + 1) (byteOf '[' :: bytes) =
      (.array (nextItems fuel bytes).1 (nextItems fuel bytes).2.1, (nextItems fuel bytes).2.2) := by
  rw [value, skipBlank_cons (by decide)]
  dsimp only
  rw [if_neg (by decide), if_neg (by decide), if_neg (by decide), if_neg (by decide),
    if_pos (by decide), hskip]
  simp only [beq_false_of_ne hb, Bool.false_eq_true, if_false]

/-- An opening brace that is not closed at once is read as the object of the members after it. -/
theorem value_object {later : List UInt8} (hskip : skipBlank bytes = b :: later)
    (hb : b ≠ byteOf '\x7d') : value (fuel + 1) (byteOf '\x7b' :: bytes) =
      (.object (nextMembers fuel bytes).1 (nextMembers fuel bytes).2.1,
        (nextMembers fuel bytes).2.2) := by
  rw [value, skipBlank_cons (by decide)]
  dsimp only
  rw [if_neg (by decide), if_neg (by decide), if_neg (by decide), if_neg (by decide),
    if_neg (by decide), if_pos (by decide), hskip]
  simp only [beq_false_of_ne hb, Bool.false_eq_true, if_false]

/-- The layout of an array is read back if that of each of its items is. -/
theorem readsBack_array {items : List Value} (h : ∀ v ∈ items, ReadsBack v) :
    ReadsBack (.array items) := by
  intro depth fuel rest _ hfuel
  cases items with
  | nil =>
      obtain ⟨less, rfl, -⟩ := exists_fuel hfuel
      rfl
  | cons first later =>
      rw [lay, layItems, bytesOf_layBetween (by decide)] at hfuel ⊢
      obtain ⟨less, rfl, hless⟩ := exists_fuel hfuel
      have hitems := nextItems_lay h hless
      have hfirst : value _ (bytesOf (lay (depth + 1) first) ++
          (layRest ']' depth (layItems (depth + 1) later) ++ rest)) = (treeOf first, some _) :=
        h first List.mem_cons_self ends_layRest (Nat.le_refl _)
      obtain ⟨b, inner, hskip, hb⟩ := exists_cons_of_value hfirst
      rw [value_array ((skipBlank_append (isBlank_layBreak _)).trans hskip) hb, hitems]
      rfl

/-- The layout of an object is read back if that of each of its values is. -/
theorem readsBack_object {members : List (String × Value)} (h : ∀ m ∈ members, ReadsBack m.2) :
    ReadsBack (.object members) := by
  intro depth fuel rest _ hfuel
  cases members with
  | nil =>
      obtain ⟨less, rfl, -⟩ := exists_fuel hfuel
      rfl
  | cons first later =>
      rw [lay, layMembers, bytesOf_layBetween (by decide)] at hfuel ⊢
      obtain ⟨less, rfl, hless⟩ := exists_fuel hfuel
      have hmembers := nextMembers_lay h hless
      obtain ⟨inner, hkey, -⟩ := Quotation.scan_layString first.1 (byteOf ':' :: ([byteOf ' '] ++
        (bytesOf (lay (depth + 1) first.2) ++
          (layRest '\x7d' depth (layMembers (depth + 1) later) ++ rest))))
      have hskip : skipBlank (bytesOf (layBreak (depth + 1)) ++ byteOf '"' :: inner) = _ :=
        skipBlank_append (isBlank_layBreak (depth + 1))
      rw [← hkey, ← bytesOf_member] at hskip
      rw [value_object hskip (by decide), hmembers]
      rfl

/-- **Every value is read back.** -/
theorem readsBack (v : Value) : ReadsBack v := by
  induction v using Value.induction with
  | null => exact readsBack_null
  | boolean b => exact readsBack_boolean b
  | number n => exact readsBack_number n
  | string text => exact readsBack_string text
  | array items ih => exact readsBack_array ih
  | object members ih => exact readsBack_object ih

/-- **The text of a value has the value for its tree, and nothing is left over**, with or without
white space at its end. -/
theorem ofBytes_lay (depth : Nat) (v : Value) (blanks : List UInt8)
    (h : ∀ b ∈ blanks, isBlank b = true) :
    ofBytes (bytesOf (lay depth v) ++ blanks) = (treeOf v, false) := by
  have hends : Numeral.Ends blanks := by
    intro b hb
    have hblank := h b (List.mem_of_mem_head? hb)
    simp only [isBlank, Bool.or_eq_true, beq_iff_eq] at hblank
    rcases hblank with ((rfl | rfl) | rfl) | rfl <;> decide
  rw [ofBytes, readsBack v hends (by omega)]
  have hskip : skipBlank blanks = [] := List.dropWhile_eq_nil_iff.2 h
  simp [hskip]

/-! ## Whole trees -/

/-- Items that can each be skipped can be skipped together. -/
theorem skipItems_eq_ok {trees : List Tree} (h : ∀ tree ∈ trees, tree.skip = .ok ()) :
    skipItems trees = .ok () := by
  induction trees with
  | nil => rfl
  | cons tree rest ih =>
      obtain ⟨hfirst, hrest⟩ := List.forall_mem_cons.1 h
      rw [skipItems, hfirst, ok_bind, ih hrest]

/-- Members with unbroken keys and values that can be skipped can be skipped together. -/
theorem skipMembers_eq_ok {members : List (Quotation × Tree)}
    (h : ∀ m ∈ members, m.1.broken = none ∧ m.2.skip = .ok ()) : skipMembers members = .ok () := by
  induction members with
  | nil => rfl
  | cons m rest ih =>
      obtain ⟨⟨hkey, hfirst⟩, hrest⟩ := List.forall_mem_cons.1 h
      rw [skipMembers, hkey, closed, ok_bind, hfirst, ok_bind, ih hrest]

/-- **The tree of a value is whole**: nothing in it is malformed or cut off. -/
theorem skip_treeOf (v : Value) : (treeOf v).skip = .ok () := by
  induction v using Value.induction with
  | null => rfl
  | boolean b => rfl
  | number n =>
      rcases layNumber_cases n with ⟨token, hformed, hbytes⟩ | ⟨-, htree⟩
      · rw [treeOf, numberTree_eq hformed hbytes, skip]
      · rw [treeOf, htree, skip]
  | string text => rfl
  | array items ih =>
      rw [treeOf, treesOf_eq_map, skip, skipItems_eq_ok (by simpa using ih)]
      rfl
  | object members ih =>
      rw [treeOf, memberTreesOf_eq_map, skip, skipMembers_eq_ok]
      · rfl
      · rintro _ hm
        obtain ⟨m, hmem, rfl⟩ := List.mem_map.1 hm
        exact ⟨rfl, ih m hmem⟩

end Tree

end BusNetwork.Json
