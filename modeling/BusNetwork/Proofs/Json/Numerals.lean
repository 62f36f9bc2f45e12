import BusNetwork.Proofs.Json.Escapes
import Mathlib.Data.List.TakeWhile

/-!
# Numbers that are written and read back

A number is spelled with digits, perhaps a point and more digits, and perhaps an exponent with its
sign. **A well-formed spelling is scanned as the token that it spells** (`scan_spell`), unless what
follows it goes on with a number. An integer within 64 bits, written in full, is one, and **its
token has the integer for its value** (`value_ofInteger`).
-/

namespace BusNetwork.Json

namespace Numeral

variable {digits digits' rest : List UInt8}

/-! ## Spellings -/

/-- Digits, and at least one. -/
structure IsDigits (digits : List UInt8) : Prop where
  ne_nil : digits ≠ []
  isDigit : ∀ b ∈ digits, Json.isDigit b = true

/-- A point and the digits after it. -/
def spellFraction : Option (List UInt8) → List UInt8
  | none => []
  | some digits => byteOf '.' :: digits

/-- An exponent with its sign. -/
def spellExponent : Option (Bool × List UInt8) → List UInt8
  | none => []
  | some (negative, digits) => byteOf 'e' :: byteOf (if negative then '-' else '+') :: digits

/-- A token as it is written, with a sign in every exponent. -/
def spell (token : Numeral) : List UInt8 :=
  (if token.negative then [byteOf '-'] else [])
    ++ (token.whole ++ (spellFraction token.fraction ++ spellExponent token.exponent))

/-- A token that can be written: there are digits wherever digits have to be, and no zero in front
of the digits before the point. -/
structure WellFormed (token : Numeral) : Prop where
  whole : IsDigits token.whole
  leading : token.whole.head? = some (byteOf '0') → token.whole.length = 1
  fraction : ∀ digits ∈ token.fraction, IsDigits digits
  exponent : ∀ e ∈ token.exponent, IsDigits e.2

/-- What a text may go on with after a number: with nothing that belongs to a number. -/
def Ends (rest : List UInt8) : Prop :=
  ∀ b ∈ rest.head?, isDigit b = false ∧ b ≠ byteOf '.' ∧ b ≠ byteOf 'e' ∧ b ≠ byteOf 'E'

/-- What ends a number does not begin with a digit. -/
theorem Ends.isDigit (h : Ends rest) : ∀ b ∈ rest.head?, Json.isDigit b = false :=
  fun b hb => (h b hb).1

/-! ## Scanning a spelling -/

/-- Digits before something that begins with no digit are all that is taken. -/
theorem takeWhile_digits (h : ∀ b ∈ digits, isDigit b = true)
    (hrest : ∀ b ∈ rest.head?, isDigit b = false) :
    (digits ++ rest).takeWhile isDigit = digits ∧ (digits ++ rest).dropWhile isDigit = rest := by
  rw [List.takeWhile_append_of_pos h, List.dropWhile_append_of_pos h]
  cases rest with
  | nil => simp
  | cons b later => simp [hrest b rfl]

/-- Digits are read where there must be some. -/
theorem someDigits_append (h : IsDigits digits) (hrest : ∀ b ∈ rest.head?, isDigit b = false) :
    someDigits (digits ++ rest) = .ok (digits, rest) := by
  obtain ⟨htake, hdrop⟩ := takeWhile_digits h.isDigit hrest
  obtain ⟨b, later, rfl⟩ := List.exists_cons_of_ne_nil h.ne_nil
  rw [List.cons_append] at htake hdrop ⊢
  rw [someDigits, if_pos (h.isDigit b List.mem_cons_self), htake, hdrop]

/-- A minus in front of digits is read as the sign. -/
theorem scanMinus_append {negative : Bool} (h : IsDigits digits) :
    scanMinus ((if negative then [byteOf '-'] else []) ++ (digits ++ rest)) =
      (negative, digits ++ rest) := by
  obtain ⟨b, later, rfl⟩ := List.exists_cons_of_ne_nil h.ne_nil
  have hb := h.isDigit b List.mem_cons_self
  cases negative with
  | true => rfl
  | false =>
      have : b ≠ 0x2D := by
        rintro rfl
        exact absurd hb (by decide)
      simp only [Bool.false_eq_true, if_false, List.nil_append, List.cons_append]
      rw [scanMinus]
      simp_all

/-- The whole part of a number is read if it has no needless zero in front. -/
theorem scanWhole_append (h : IsDigits digits)
    (hleading : digits.head? = some (byteOf '0') → digits.length = 1)
    (hrest : ∀ b ∈ rest.head?, isDigit b = false) :
    scanWhole (digits ++ rest) = .ok (digits, rest) := by
  have hcheck : (digits.head? == some (byteOf '0') && decide (1 < digits.length)) = false := by
    simp only [Bool.and_eq_false_imp, beq_iff_eq, decide_eq_false_iff_not]
    intro hzero
    rw [hleading hzero]
    decide
  simp only [scanWhole, someDigits_append h hrest, ok_bind, hcheck, Bool.false_eq_true, if_false]
  rfl

/-- The fraction of a number, or the lack of one, is read. -/
theorem scanFraction_append {fraction : Option (List UInt8)}
    (h : ∀ digits ∈ fraction, IsDigits digits)
    (hrest : ∀ b ∈ rest.head?, isDigit b = false ∧ b ≠ byteOf '.') :
    scanFraction (spellFraction fraction ++ rest) = .ok (fraction, rest) := by
  cases fraction with
  | none =>
      rw [spellFraction, List.nil_append, scanFraction]
      · rfl
      · rintro later rfl
        exact (hrest _ rfl).2 rfl
  | some digits =>
      rw [spellFraction, List.cons_append, show byteOf '.' = 0x2E from rfl, scanFraction,
        someDigits_append (h digits rfl) fun b hb => (hrest b hb).1]
      rfl

/-- The sign of an exponent is read. -/
theorem scanSign_append (negative : Bool) :
    scanSign (byteOf (if negative then '-' else '+') :: rest) = (negative, rest) := by
  cases negative <;> rfl

/-- The exponent of a number, or the lack of one, is read. -/
theorem scanExponent_append {exponent : Option (Bool × List UInt8)}
    (h : ∀ e ∈ exponent, IsDigits e.2) (hrest : Ends rest) :
    scanExponent (spellExponent exponent ++ rest) = .ok (exponent, rest) := by
  cases exponent with
  | none =>
      rw [spellExponent, List.nil_append]
      cases rest with
      | nil => rfl
      | cons b later =>
          obtain ⟨-, -, hlower, hupper⟩ := hrest b rfl
          simp only [scanExponent, beq_false_of_ne hlower, beq_false_of_ne hupper, Bool.or_self,
            Bool.false_eq_true, if_false]
          rfl
  | some e =>
      obtain ⟨negative, digits⟩ := e
      rw [spellExponent, List.cons_append, List.cons_append, scanExponent, if_pos (by decide),
        scanSign_append]
      simp only [someDigits_append (h (negative, digits) rfl) hrest.isDigit, ok_bind]
      rfl

/-- An exponent, or what follows the number, starts neither with a digit nor with a point. -/
theorem head?_spellExponent (exponent : Option (Bool × List UInt8)) (hrest : Ends rest) :
    ∀ b ∈ (spellExponent exponent ++ rest).head?, isDigit b = false ∧ b ≠ byteOf '.' := by
  cases exponent with
  | none => exact fun b hb => ⟨(hrest b hb).1, (hrest b hb).2.1⟩
  | some e =>
      rintro b ⟨rfl⟩
      exact ⟨rfl, by decide⟩

/-- What follows the digits before the point does not start with a digit. -/
theorem head?_spellFraction (fraction : Option (List UInt8))
    (hrest : ∀ b ∈ rest.head?, isDigit b = false) :
    ∀ b ∈ (spellFraction fraction ++ rest).head?, isDigit b = false := by
  cases fraction with
  | none => exact hrest
  | some digits =>
      rintro b ⟨rfl⟩
      rfl

/-- **A well-formed spelling is scanned as the token it spells.** -/
theorem scan_spell {token : Numeral} (h : token.WellFormed) (hrest : Ends rest) :
    scan (token.spell ++ rest) = .ok (token, rest) := by
  obtain ⟨negative, whole, fraction, exponent⟩ := token
  have hexponent := head?_spellExponent exponent hrest
  have hfraction := head?_spellFraction fraction fun b hb => (hexponent b hb).1
  simp only [spell, List.append_assoc, scan, scanMinus_append h.whole,
    scanWhole_append h.whole h.leading hfraction, ok_bind, scanFraction_append h.fraction hexponent,
    scanExponent_append h.exponent hrest]
  rfl

/-! ## Integers -/

/-- A number with digits appended to it. -/
def extend (n : Nat) (digits : List UInt8) : Nat :=
  digits.foldl (fun n digit => 10 * n + digitValue digit) n

/-- A digit behind a number makes ten times the number and the digit. -/
theorem extend_cons (n : Nat) (digit : UInt8) :
    extend n (digit :: digits) = extend (10 * n + digitValue digit) digits := by
  rw [extend, List.foldl_cons, extend]

/-- Two runs of digits behind a number are put there one after the other. -/
theorem extend_append (n : Nat) : extend n (digits ++ digits') = extend (extend n digits) digits' :=
  List.foldl_append

/-- Digits behind a number never make it smaller. -/
theorem le_extend (n : Nat) : n ≤ extend n digits := by
  induction digits generalizing n with
  | nil => exact Nat.le_refl n
  | cons digit later ih =>
      rw [extend_cons]
      exact Nat.le_trans (by omega) (ih _)

/-- Digits are absorbed in full as long as the number stays within 64 bits. -/
theorem absorb_eq {n : Nat} (h : extend n digits < UInt64.size) :
    absorb n digits = (extend n digits, []) := by
  induction digits generalizing n with
  | nil => rfl
  | cons digit later ih =>
      rw [extend_cons] at h ⊢
      have hlonger : 10 * n + digitValue digit < UInt64.size := Nat.lt_of_le_of_lt (le_extend _) h
      exact (if_pos hlonger).trans (ih h)

/-- A decimal digit is one byte. -/
theorem utf8EncodeChar_digit {c : Char} (h : c.isDigit = true) :
    String.utf8EncodeChar c = [byteOf c] ∧ isDigit (byteOf c) = true ∧
      (byteOf c).toNat = c.toNat := by
  have hrange : 48 ≤ c.toNat ∧ c.toNat ≤ 57 := Char.isDigit_iff_toNat.1 h
  have hbyte : (byteOf c).toNat = c.toNat := by
    simp only [byteOf, UInt8.toNat_ofNat']
    omega
  refine ⟨utf8EncodeChar_of_lt (by omega), ?_, hbyte⟩
  simp only [isDigit, Bool.and_eq_true, decide_eq_true_eq, UInt8.le_iff_toNat_le, hbyte]
  exact hrange

/-- The bytes of digit characters are digits to a reader. -/
theorem isDigits_bytesOf {cs : List Char} (hne : cs ≠ []) (h : ∀ c ∈ cs, c.isDigit = true) :
    IsDigits (bytesOf cs) := by
  constructor
  · obtain ⟨c, later, rfl⟩ := List.exists_cons_of_ne_nil hne
    rw [bytesOf_cons, (utf8EncodeChar_digit (h c List.mem_cons_self)).1]
    exact List.cons_ne_nil _ _
  · intro b hb
    obtain ⟨c, hc, hbc⟩ := List.mem_flatMap.1 hb
    obtain ⟨hbytes, hdigit, -⟩ := utf8EncodeChar_digit (h c hc)
    rw [hbytes, List.mem_singleton] at hbc
    exact hbc ▸ hdigit

/-- The digits of a number, in bytes. -/
def digitsOf (n : Nat) : List UInt8 := bytesOf (Nat.toDigits 10 n)

/-- The digits of a natural number are digits to a reader. -/
theorem isDigits_digitsOf (n : Nat) : IsDigits (digitsOf n) :=
  isDigits_bytesOf Nat.toDigits_ne_nil fun _ hc =>
    Nat.isDigit_of_mem_toDigits (by decide) (by decide) hc

/-- A number below ten is one digit, which is zero for zero alone. -/
theorem digitsOf_digit {n : Nat} (h : n < 10) : ∃ digit, digitsOf n = [digit] ∧
    digitValue digit = n ∧ (digit = byteOf '0' → n = 0) := by
  have hchar := Nat.toNat_digitChar_of_lt_ten h
  obtain ⟨hbytes, -, hbyte⟩ := utf8EncodeChar_digit (c := n.digitChar) (by simp [h])
  refine ⟨byteOf n.digitChar, ?_, ?_, ?_⟩
  · rw [digitsOf, Nat.toDigits_of_lt_base h, bytesOf_cons, hbytes]
    rfl
  · rw [digitValue, hbyte, hchar]
    omega
  · intro hzero
    rw [hzero, hchar] at hbyte
    have : (byteOf '0').toNat = 48 := rfl
    omega

/-- The digits of a number are those of its tenth and then its last one. -/
theorem digitsOf_of_le {n : Nat} (h : 10 ≤ n) :
    digitsOf n = digitsOf (n / 10) ++ digitsOf (n % 10) := by
  rw [digitsOf, Nat.toDigits_of_base_le (by decide) h, bytesOf_append, digitsOf, digitsOf,
    Nat.toDigits_of_lt_base (Nat.mod_lt n (by decide))]

/-- The digits of a number, appended to nothing, give the number. -/
theorem extend_digitsOf (n : Nat) : extend 0 (digitsOf n) = n := by
  induction n using Nat.strongRecOn with
  | ind n ih =>
      rcases Nat.lt_or_ge n 10 with hlt | hge
      · obtain ⟨digit, hdigits, hvalue, -⟩ := digitsOf_digit hlt
        rw [hdigits, extend_cons, hvalue]
        simp [extend]
      · obtain ⟨digit, hdigits, hvalue, -⟩ := digitsOf_digit (Nat.mod_lt n (y := 10) (by decide))
        rw [digitsOf_of_le hge, extend_append, ih (n / 10) (by omega), hdigits, extend_cons, hvalue]
        exact Nat.div_add_mod n 10

/-- The leading digit of a number is not zero, unless the number is. -/
theorem head?_digitsOf {n : Nat} (h : (digitsOf n).head? = some (byteOf '0')) : n = 0 := by
  induction n using Nat.strongRecOn with
  | ind n ih =>
      rcases Nat.lt_or_ge n 10 with hlt | hge
      · obtain ⟨digit, hdigits, -, hzero⟩ := digitsOf_digit hlt
        rw [hdigits] at h
        exact hzero (Option.some.inj h)
      · rw [digitsOf_of_le hge, List.head?_append_of_ne_nil _ (isDigits_digitsOf _).ne_nil] at h
        have := ih (n / 10) (by omega) h
        omega

/-- An integer as a token. -/
def ofInteger (n : Int) : Numeral := ⟨n < 0, digitsOf n.natAbs, none, none⟩

/-- The numeral of an integer is well formed. -/
theorem wellFormed_ofInteger (n : Int) : (ofInteger n).WellFormed where
  whole := isDigits_digitsOf _
  leading h := by
    simp only [ofInteger, head?_digitsOf h]
    decide
  fraction := nofun
  exponent := nofun

/-- An integer is written as the spelling of its token. -/
theorem spell_ofInteger (n : Int) : (ofInteger n).spell = bytesOf (toString n).toList := by
  have htext : (toString n).toList =
      if n < 0 then '-' :: Nat.toDigits 10 n.natAbs else Nat.toDigits 10 n.natAbs := by
    cases n with
    | ofNat m => simp [toString, Int.repr]
    | negSucc m => simp [toString, Int.repr]
  rw [htext]
  split <;> rename_i h
  · simp [spell, ofInteger, spellFraction, spellExponent, h, digitsOf,
      utf8EncodeChar_of_lt (c := '-') (by decide)]
  · simp [spell, ofInteger, spellFraction, spellExponent, h, digitsOf]

/-- **The token of an integer within 64 bits has the integer for its value.** -/
theorem value_ofInteger {n : Int} (hlow : Int64.minValue.toInt ≤ n) (hhigh : n < UInt64.size) :
    (ofInteger n).value = .ok (.integer n) := by
  have hmin : Int64.minValue.toInt = -9223372036854775808 := by decide
  have habsorb : absorb 0 (digitsOf n.natAbs) = (n.natAbs, []) := by
    rw [absorb_eq, extend_digitsOf]
    rw [extend_digitsOf]
    simp only [UInt64.size] at hhigh ⊢
    omega
  simp only [value, ofInteger, habsorb, List.isEmpty_nil, Option.isNone_none, Bool.and_self,
    Bool.true_and, Bool.not_eq_true']
  by_cases h : n < 0
  · have hneg : -(n.natAbs : Int) = n := by omega
    have hrange : 0 < n.natAbs ∧ Int64.minValue.toInt ≤ n := ⟨by omega, hlow⟩
    simp only [h, hneg, hrange]
    simp
  · have hpos : (n.natAbs : Int) = n := by omega
    simp [h, hpos]

end Numeral

end BusNetwork.Json
