import BusNetwork.Proofs.Json.Numerals
import Mathlib

/-!
# Floating point numbers in documents

**A finite number is written as a JSON number** (`isNumeral_interchange`), positionally or with an
exponent, and `null` stands for any other (`interchange_of_not_isFinite`). All that is needed of the
shortest digits for that is that there is one and that the first is not zero (`AreLeading`); which
number they stand for is of no matter here.
-/

namespace BusNetwork.Decimal

open Json (bytesOf byteOf bytesOf_cons bytesOf_append)
open Json.Numeral (IsDigits spell WellFormed)

/-! ## Digits that are characters -/

/-- Digits, and at least one. -/
structure AreDigits (cs : List Char) : Prop where
  ne_nil : cs ≠ []
  isDigit : ∀ c ∈ cs, c.isDigit = true

/-- Digits that a number can start with. -/
structure AreLeading (cs : List Char) : Prop extends AreDigits cs where
  head : cs.head? ≠ some '0'

variable {cs cs' : List Char} {negative : Bool}

/-- The bytes of digit characters are digits to a reader. -/
theorem AreDigits.isDigits (h : AreDigits cs) : IsDigits (bytesOf cs) :=
  Json.Numeral.isDigits_bytesOf h.ne_nil h.isDigit

/-- The decimal form of a natural number is made of digits. -/
theorem areDigits_toDigits (n : Nat) : AreDigits (Nat.toDigits 10 n) where
  ne_nil := Nat.toDigits_ne_nil
  isDigit _ hc := Nat.isDigit_of_mem_toDigits (by decide) (by decide) hc

/-- Digits followed by digits are digits. -/
theorem AreDigits.append_right (h : AreDigits cs) (h' : ∀ c ∈ cs', c.isDigit = true) :
    AreDigits (cs ++ cs') where
  ne_nil := List.append_ne_nil_of_left_ne_nil h.ne_nil _
  isDigit _ hc := (List.mem_append.1 hc).elim (h.isDigit _) (h' _)

/-- Digits preceded by digits are digits. -/
theorem AreDigits.append_left (h : AreDigits cs) (h' : ∀ c ∈ cs', c.isDigit = true) :
    AreDigits (cs' ++ cs) where
  ne_nil := List.append_ne_nil_of_right_ne_nil _ h.ne_nil
  isDigit _ hc := (List.mem_append.1 hc).elim (h' _) (h.isDigit _)

/-- One digit character makes digits. -/
theorem areDigits_singleton {c : Char} (h : c.isDigit = true) : AreDigits [c] :=
  ⟨List.cons_ne_nil _ _, by simpa using h⟩

/-- Digits after leading digits do not change what leads. -/
theorem AreLeading.append (h : AreLeading cs) (h' : ∀ c ∈ cs', c.isDigit = true) :
    AreLeading (cs ++ cs') where
  toAreDigits := h.toAreDigits.append_right h'
  head := by
    rw [List.head?_append_of_ne_nil _ h.ne_nil]
    exact h.head

/-- A front part of leading digits leads as they do. -/
theorem AreLeading.of_front (h : AreLeading cs) (hfront : cs' <+: cs) (hne : cs' ≠ []) :
    AreLeading cs' where
  ne_nil := hne
  isDigit c hc := h.isDigit c (hfront.subset hc)
  head := by
    obtain ⟨later, rfl⟩ := hfront
    have hhead := h.head
    rw [List.head?_append_of_ne_nil _ hne] at hhead
    exact hhead

/-- Zeros are digits. -/
theorem isDigit_replicate_zero (n : Nat) : ∀ c ∈ List.replicate n '0', c.isDigit = true := by
  intro c hc
  rw [List.eq_of_mem_replicate hc]
  rfl

/-! ## Characters that spell a number -/

/-- Characters that are the spelling of a number. -/
def IsNumeral (cs : List Char) : Prop :=
  ∃ token : Json.Numeral, token.WellFormed ∧ token.spell = bytesOf cs

/-- A sign as characters. -/
def signOf (negative : Bool) : List Char := if negative then ['-'] else []

/-- Digits before the point: a zero alone, or digits that a number can start with. -/
def AreWhole (cs : List Char) : Prop := cs = ['0'] ∨ AreLeading cs

/-- The characters of a whole number are digits. -/
theorem AreWhole.areDigits (h : AreWhole cs) : AreDigits cs := by
  rcases h with rfl | h
  · exact areDigits_singleton rfl
  · exact h.toAreDigits

/-- A whole number that begins with a zero is that zero alone. -/
theorem AreWhole.leading (h : AreWhole cs) (hzero : (bytesOf cs).head? = some (byteOf '0')) :
    (bytesOf cs).length = 1 := by
  rcases h with rfl | h
  · rfl
  · obtain ⟨c, later, rfl⟩ := List.exists_cons_of_ne_nil h.ne_nil
    obtain ⟨hbytes, -, hbyte⟩ :=
      Json.Numeral.utf8EncodeChar_digit (h.isDigit c List.mem_cons_self)
    rw [bytesOf_cons, hbytes] at hzero
    have hnat : c.toNat = '0'.toNat :=
      hbyte.symm.trans (congrArg UInt8.toNat (Option.some.inj hzero))
    exact absurd (congrArg some (Char.toNat_inj.1 hnat)) h.head

/-- The sign of a number is one minus byte or none. -/
theorem bytesOf_signOf :
    bytesOf (signOf negative) = if negative then [byteOf '-'] else [] := by
  cases negative <;> decide

/-- A fraction with its point as characters, and an exponent with its sign. -/
def fractionOf : Option (List Char) → List Char
  | none => []
  | some digits => '.' :: digits

@[inherit_doc fractionOf]
def exponentOf : Option (Bool × List Char) → List Char
  | none => []
  | some (below, digits) => 'e' :: (if below then '-' else '+') :: digits

/-- **Digits wherever digits have to be make a number.** -/
theorem isNumeral_of_areDigits (negative : Bool) (fraction : Option (List Char))
    (exponent : Option (Bool × List Char)) (hwhole : AreWhole cs)
    (hfraction : ∀ digits ∈ fraction, AreDigits digits)
    (hexponent : ∀ e ∈ exponent, AreDigits e.2) :
    IsNumeral (signOf negative ++ (cs ++ (fractionOf fraction ++ exponentOf exponent))) := by
  have hpoint : bytesOf (fractionOf fraction) =
      Json.Numeral.spellFraction (fraction.map bytesOf) := by
    cases fraction with
    | none => rfl
    | some digits =>
        rw [fractionOf, bytesOf_cons, Json.utf8EncodeChar_of_lt (by decide)]
        rfl
  have hsign : bytesOf (exponentOf exponent) =
      Json.Numeral.spellExponent (exponent.map fun e => (e.1, bytesOf e.2)) := by
    cases exponent with
    | none => rfl
    | some e =>
        obtain ⟨below, digits⟩ := e
        rw [exponentOf, bytesOf_cons, bytesOf_cons, Json.utf8EncodeChar_of_lt (by decide),
          Json.utf8EncodeChar_of_lt (by split <;> decide)]
        rfl
  refine ⟨⟨negative, bytesOf cs, fraction.map bytesOf, exponent.map fun e => (e.1, bytesOf e.2)⟩,
    ⟨hwhole.areDigits.isDigits, hwhole.leading, ?_, ?_⟩, ?_⟩
  · intro digits hdigits
    obtain ⟨cs', hcs', rfl⟩ := Option.map_eq_some_iff.1 hdigits
    exact (hfraction cs' hcs').isDigits
  · intro e he
    obtain ⟨e', he', rfl⟩ := Option.map_eq_some_iff.1 he
    exact (hexponent e' he').isDigits
  · simp only [spell, bytesOf_append, bytesOf_signOf, hpoint, hsign]

/-- A number with a point and no exponent. -/
theorem isNumeral_point (negative : Bool) (hwhole : AreWhole cs) (hfraction : AreDigits cs') :
    IsNumeral (signOf negative ++ (cs ++ '.' :: cs')) := by
  have := isNumeral_of_areDigits negative (some cs') none hwhole (by simpa using hfraction) nofun
  simpa [fractionOf, exponentOf] using this

/-! ## Shortest digits -/

/-- A number above zero has leading digits. -/
theorem areLeading_toDigits {n : Nat} (h : 0 < n) : AreLeading (Nat.toDigits 10 n) where
  toAreDigits := areDigits_toDigits n
  head := by
    induction n using Nat.strongRecOn with
    | ind n ih =>
        rcases Nat.lt_or_ge n 10 with hlt | hge
        · rw [Nat.toDigits_of_lt_base hlt, List.head?_cons, ne_eq, Option.some.injEq,
            Nat.digitChar_eq_zero]
          exact Nat.ne_of_gt h
        · rw [Nat.toDigits_of_base_le (by decide) hge,
            List.head?_append_of_ne_nil _ Nat.toDigits_ne_nil]
          exact ih (n / 10) (by omega) (by omega)

/-- Without the zeros at their end, leading digits are leading digits. -/
theorem AreLeading.rdropWhile (h : AreLeading cs) : AreLeading (cs.rdropWhile (· == '0')) := by
  have hne : cs.rdropWhile (· == '0') ≠ [] := by
    intro hnil
    obtain ⟨c, later, rfl⟩ := List.exists_cons_of_ne_nil h.ne_nil
    have hzero := List.rdropWhile_eq_nil_iff.1 hnil c List.mem_cons_self
    exact h.head (congrArg some (beq_iff_eq.1 hzero))
  exact h.of_front (List.rdropWhile_prefix _ _) hne

/-- The shortest digits of a positive number do not begin with a zero. -/
theorem areLeading_ofScaled {n : Nat} (h : 0 < n) (exponent : Int) :
    AreLeading (Digits.ofScaled n exponent).digits :=
  (areLeading_toDigits h).rdropWhile

variable {x : Magnitude} {tie : Tie} {g : Int} {n : Nat}

/-- The unit in which the gaps are counted is positive. -/
theorem unit_pos (x : Magnitude) (g : Int) : 0 < x.unit g := by
  rw [Magnitude.unit, Nat.shiftLeft_eq]
  exact Nat.mul_pos (Nat.pow_pos (by decide)) (Nat.two_pow_pos _)

/-- A number that lies further off than the gap is not covered by it. -/
theorem not_covers {doubled gap : Nat} (h : gap < doubled) : x.covers doubled gap = false := by
  have hle : ¬ doubled < gap := by omega
  have hne : (doubled == gap) = false := beq_false_of_ne (by omega)
  simp [Magnitude.covers, hle, hne]

/-- A grid's zero does not read back as a number above zero. -/
theorem onGrid_pos (h : 0 < x.significand) (hn : x.onGrid tie g = some n) : 0 < n := by
  refine Nat.pos_of_ne_zero ?_
  rintro rfl
  have hunit := unit_pos x g
  rcases Nat.eq_zero_or_pos (x.significand * x.unit g / x.scale g) with hzero | hpos
  · have hrest := Nat.div_add_mod (x.significand * x.unit g) (x.scale g)
    have hfar : x.unit g ≤ x.significand * x.unit g := Nat.le_mul_of_pos_left _ h
    rw [hzero, Nat.mul_zero, Nat.zero_add] at hrest
    have hbelow : x.covers ((if x.narrowBelow then 4 else 2) * (x.significand * x.unit g))
        (x.unit g) = false := by
      apply not_covers
      split <;> omega
    simp only [Magnitude.onGrid, hzero, hrest, hbelow, Bool.false_and, Bool.false_eq_true,
      if_false] at hn
    split at hn
    · cases Option.some.inj hn
    · cases hn
  · simp only [Magnitude.onGrid] at hn
    generalize x.significand * x.unit g / x.scale g = below at hn hpos
    grind

/-- **The shortest digits of a number above zero are leading digits.** -/
theorem areLeading_shortest (h : 0 < x.significand) (tie : Tie) :
    AreLeading (x.shortest tie).digits := by
  unfold Magnitude.shortest
  cases hhit : (List.range 17).findSome? fun (k : Nat) =>
      (x.onGrid tie (x.leading - k)).map (Digits.ofScaled · (x.leading - k)) with
  | none =>
      refine areLeading_ofScaled (Nat.mul_pos ?_ (Nat.pow_pos (by decide))) _
      rw [Nat.shiftLeft_eq]
      exact Nat.mul_pos h (Nat.two_pow_pos _)
  | some d =>
      obtain ⟨k, -, hk⟩ := List.exists_of_findSome?_eq_some hhit
      obtain ⟨n, hn, rfl⟩ := Option.map_eq_some_iff.1 hk
      exact areLeading_ofScaled (onGrid_pos h hn) _

/-! ## Layouts -/

variable {d : Digits}

/-- Below one, a zero stands before the point; a whole number has a zero after it. -/
theorem isNumeral_layPositional (h : AreLeading d.digits) :
    IsNumeral (signOf negative ++ (Style.interchange.layPositional d).toList) := by
  simp only [Style.layPositional]
  split
  · have hfraction := h.append_left (isDigit_replicate_zero (-d.leading - 1).toNat)
    simpa using isNumeral_point negative (.inl rfl) hfraction
  · generalize d.leading.toNat + 1 - (d.digits.take (d.leading.toNat + 1)).length = missing
    have htake : d.digits.take (d.leading.toNat + 1) ≠ [] := by
      simpa using h.ne_nil
    have hwhole : AreWhole (d.digits.take (d.leading.toNat + 1) ++ List.replicate missing '0') :=
      .inr ((h.of_front (List.take_prefix _ _) htake).append (isDigit_replicate_zero missing))
    split
    · simpa [Style.interchange] using isNumeral_point negative hwhole (areDigits_singleton rfl)
    · next hsome =>
        have hfraction : AreDigits (d.digits.drop (d.leading.toNat + 1)) :=
          ⟨by simpa using hsome, fun c hc => h.isDigit c (List.mem_of_mem_drop hc)⟩
        simpa using isNumeral_point negative hwhole hfraction

/-- What the scientific layout writes of leading digits is a numeral. -/
theorem isNumeral_layScientific (h : AreLeading d.digits) :
    IsNumeral (signOf negative ++ (Style.layScientific d).toList) := by
  have hexponent := areDigits_toDigits d.leading.natAbs
  have hsign : (if d.leading < 0 then "-" else "+").toList =
      [if decide (d.leading < 0) then '-' else '+'] := by
    by_cases h : d.leading < 0 <;> simp [h]
  unfold Style.layScientific
  match hdigits : d.digits with
  | [] => exact absurd hdigits h.ne_nil
  | [first] =>
      have hwhole : AreWhole [first] := .inr (hdigits ▸ h)
      have := isNumeral_of_areDigits negative none (some (d.leading < 0, _)) hwhole nofun
        (by simpa using hexponent)
      simpa [fractionOf, exponentOf, hsign] using this
  | first :: second :: rest =>
      have hwhole : AreWhole [first] :=
        .inr (h.of_front ⟨second :: rest, hdigits.symm⟩ (List.cons_ne_nil _ _))
      have hfraction : AreDigits (second :: rest) :=
        ⟨List.cons_ne_nil _ _, fun c hc => h.isDigit c (hdigits ▸ List.mem_cons_of_mem _ hc)⟩
      have := isNumeral_of_areDigits negative (some (second :: rest)) (some (d.leading < 0, _))
        hwhole (by simpa using hfraction) (by simpa using hexponent)
      simpa [fractionOf, exponentOf, hsign] using this

/-- What the interchange style writes of leading digits is a numeral. -/
theorem isNumeral_lay (h : AreLeading d.digits) :
    IsNumeral (signOf negative ++ (Style.interchange.lay d).toList) := by
  unfold Style.lay
  split
  · exact isNumeral_layPositional h
  · exact isNumeral_layScientific h

/-! ## Numbers -/

open Float.Model.UnpackedFloat in
/-- A number is finite unless its exponent is all ones. -/
theorem isFinite_iff_toBits (x : Float) :
    x.isFinite = true ↔ x.toBits.toNat / 0x10000000000000 % 0x800 ≠ 0x7FF := by
  let bits : BitVec Float.Model.Format.binary64.numBits := x.toBits.toBitVec
  have hexponent : (unpackExponent bits).toNat = x.toBits.toNat / 0x10000000000000 % 0x800 := by
    unfold unpackExponent
    rw [BitVec.toNat_cast, BitVec.extractLsb_toNat, Nat.shiftRight_eq_div_pow]
    rfl
  have hones : x.toBits.toNat / 0x10000000000000 % 0x800 ≠ 0x7FF ↔
      unpackExponent bits ≠ -1#11 := by
    rw [← hexponent]
    exact not_congr (BitVec.toNat_inj (y := -1#11))
  rw [hones]
  change (unpack .binary64 bits).isFinite = true ↔ _
  dsimp only [unpack]
  split
  · next h => split <;> exact iff_of_false Bool.false_ne_true (not_not_intro h)
  · next h =>
      split
      · split <;> exact iff_of_true rfl h
      · exact iff_of_true rfl h

/-- A double that is not zero has a positive significand. -/
theorem significand_ofBits_pos {bits : UInt64} (h : bits.toNat % 0x8000000000000000 ≠ 0) :
    0 < (Magnitude.ofBits bits).significand := by
  simp only [Magnitude.ofBits]
  split
  · show 0 < bits.toNat % 0x10000000000000
    omega
  · exact Nat.add_pos_left (by decide) _

/-- What is not finite is written as `null`. -/
theorem interchange_of_not_isFinite {x : Float} (h : x.isFinite = false) :
    Style.interchange.write x = "null" := by
  have hbits : x.toBits.toNat / 0x10000000000000 % 0x800 = 0x7FF := by
    simpa [h] using isFinite_iff_toBits x
  simp [Style.write, Style.writeBits, hbits, Style.interchange]

/-- **A finite number is written as a number.** -/
theorem isNumeral_interchange {x : Float} (h : x.isFinite = true) :
    IsNumeral (Style.interchange.write x).toList := by
  have hbits := (isFinite_iff_toBits x).1 h
  simp only [Style.write, Style.writeBits, beq_iff_eq, if_neg hbits]
  have hsign : (if x.toBits.toNat / 0x8000000000000000 = 1 then "-" else "").toList =
      signOf (decide (x.toBits.toNat / 0x8000000000000000 = 1)) := by
    by_cases h : x.toBits.toNat / 0x8000000000000000 = 1 <;> simp [signOf, h]
  split
  · simpa [hsign, Style.interchange] using
      isNumeral_point _ (.inl rfl) (areDigits_singleton (c := '0') rfl)
  · next hzero =>
      rw [String.toList_append, hsign]
      exact isNumeral_lay (areLeading_shortest (significand_ofBits_pos hzero) _)

end BusNetwork.Decimal
