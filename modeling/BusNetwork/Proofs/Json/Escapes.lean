import BusNetwork.Json.Layout
import BusNetwork.Proofs.Json.Reading

/-!
# Strings that are written and read back

A string is written as the bytes of its characters, with escapes for those that may not stand in a
string as they are. **Every text is read back as it was** (`Quotation.text_spelling`), whatever
characters it is made of, and its token ends at the closing quote (`scan_layString`).

A character above the ASCII range is written as bytes of which none is below `0x80`, so none of them
is taken for a quote, a backslash or a control character.
-/

namespace BusNetwork.Json

/-! ## Bytes of characters -/

/-- The bytes of characters as text. -/
def bytesOf (cs : List Char) : List UInt8 := cs.flatMap String.utf8EncodeChar

variable {c : Char} {cs cs' : List Char} {b : UInt8} {rest : List UInt8}

/-- No character takes no byte. -/
@[simp] theorem bytesOf_nil : bytesOf [] = [] := rfl

/-- The bytes of a text are those of its first character and then those of the rest. -/
@[simp] theorem bytesOf_cons : bytesOf (c :: cs) = String.utf8EncodeChar c ++ bytesOf cs :=
  List.flatMap_cons

/-- The bytes of two texts in a row are the bytes of the one and then of the other. -/
@[simp] theorem bytesOf_append : bytesOf (cs ++ cs') = bytesOf cs ++ bytesOf cs' :=
  List.flatMap_append

/-- The bytes of a text. -/
theorem toByteArray_eq (text : String) : text.toByteArray = ⟨(bytesOf text.toList).toArray⟩ := by
  rw [← String.utf8Encode_toList, List.utf8Encode, bytesOf]
  apply ByteArray.ext
  apply Array.ext'
  rw [List.toList_data_toByteArray]

/-- A text is stored as the bytes of its characters. -/
theorem toList_toUTF8 (text : String) : text.toUTF8.data.toList = bytesOf text.toList := by
  rw [String.toUTF8_eq_toByteArray, toByteArray_eq]

/-- The bytes of a text read as text. -/
theorem fromUTF8?_bytesOf (text : String) :
    String.fromUTF8? ⟨(bytesOf text.toList).toArray⟩ = some text := by
  rw [← toByteArray_eq, String.fromUTF8?, dif_pos text.isValidUTF8]
  rfl

/-- A character below 128 takes one byte, which is its number. -/
theorem utf8EncodeChar_of_lt (h : c.toNat < 128) : String.utf8EncodeChar c = [byteOf c] := by
  have hle : c.val.toNat ≤ 0x7f := by
    rw [Char.toNat] at h
    omega
  simp only [String.utf8EncodeChar, if_pos hle]
  rfl

/-- Above the ASCII range there are no ASCII bytes. -/
theorem le_of_mem_utf8EncodeChar (h : 128 ≤ c.toNat) :
    ∀ b ∈ String.utf8EncodeChar c, 128 ≤ b.toNat := by
  have hgt : ¬ c.val.toNat ≤ 0x7f := by
    rw [Char.toNat] at h
    omega
  simp only [String.utf8EncodeChar, if_neg hgt]
  split
  · simp
    omega
  · split
    · simp
      omega
    · simp
      omega

/-! ## Characters in a string -/

namespace Quotation

/-- A token with pieces in front. -/
def prepend (pieces : List Piece) (token : Quotation) : Quotation :=
  { token with pieces := pieces ++ token.pieces }

/-- What a character is read as: a code unit if it is written by its number, and the bytes of the
character otherwise. -/
def piecesOf (c : Char) : List Piece :=
  if c.toNat < 32 ∧ c ∉ ['\x08', '\x0c', '\n', '\r', '\t'] then [.unit c.toNat]
  else (String.utf8EncodeChar c).map .byte

/-- The token of a text. -/
def spelling (text : String) : Quotation := ⟨text.toList.flatMap piecesOf, none⟩

/-- A byte that stands for itself. -/
theorem scan_byte (hlow : 0x20 ≤ b) (hquote : b ≠ 0x22) (hslash : b ≠ 0x5C) :
    scan (b :: rest) = ((scan rest).1.cons (.byte b), (scan rest).2) := by
  have hlow : ¬ b < 0x20 := UInt8.not_lt.2 hlow
  rw [scan, if_neg hlow] <;> simp_all

/-- Bytes that stand for themselves. -/
theorem scan_bytes {bytes : List UInt8} (h : ∀ b ∈ bytes, 0x20 ≤ b ∧ b ≠ 0x22 ∧ b ≠ 0x5C) :
    scan (bytes ++ rest) = ((scan rest).1.prepend (bytes.map .byte), (scan rest).2) := by
  induction bytes with
  | nil => rfl
  | cons b later ih =>
      obtain ⟨⟨hlow, hquote, hslash⟩, hlater⟩ := List.forall_mem_cons.1 h
      rw [List.cons_append, scan_byte hlow hquote hslash, ih hlater]
      rfl

/-- What an escape stands for. -/
def readEscape : List UInt8 → Option Piece
  | [slash, letter] => if slash = 0x5C then (escaped letter).map .byte else none
  | [slash, letter, a, b, c, d] =>
    if slash = 0x5C ∧ letter = 0x75 then (codeUnit a b c d).map .unit else none
  | _ => none

/-- An escape sequence is read as one piece of the token. -/
theorem scan_escape {bytes : List UInt8} {piece : Piece} (h : readEscape bytes = some piece) :
    scan (bytes ++ rest) = ((scan rest).1.cons piece, (scan rest).2) := by
  unfold readEscape at h
  split at h
  · next slash letter =>
      obtain ⟨rfl, h⟩ := Option.ite_none_right_eq_some.1 h
      obtain ⟨b, hb, rfl⟩ := Option.map_eq_some_iff.1 h
      have hletter : letter ≠ 0x75 := by
        rintro rfl
        cases hb.symm.trans (by decide : escaped 0x75 = none)
      rw [List.cons_append, List.cons_append, List.nil_append, scan, hb] <;> simp_all
  · obtain ⟨⟨rfl, rfl⟩, h⟩ := Option.ite_none_right_eq_some.1 h
    obtain ⟨code, hcode, rfl⟩ := Option.map_eq_some_iff.1 h
    simp only [List.cons_append, List.nil_append, scan, hcode]
  · cases h

/-- A control character is escaped in such a way that it is read back as itself. -/
theorem readEscape_control : ∀ n < 32,
    (readEscape (bytesOf (escapeChar (Char.ofNat n)))).map ([·]) =
      some (piecesOf (Char.ofNat n)) := by
  decide +kernel

/-- The characters that are escaped. -/
theorem readEscape_escapeChar (h : c.toNat < 32 ∨ c = '"' ∨ c = '\\') :
    ∃ piece, readEscape (bytesOf (escapeChar c)) = some piece ∧ [piece] = piecesOf c := by
  rw [← Option.map_eq_some_iff]
  rcases h with hlow | rfl | rfl
  · rw [← Char.ofNat_toNat c]
    exact readEscape_control c.toNat hlow
  · decide
  · decide

/-- The characters that stand for themselves. -/
theorem escapeChar_eq_self (hlow : 32 ≤ c.toNat) (hquote : c ≠ '"') (hslash : c ≠ '\\') :
    escapeChar c = [c] := by
  have hne (d : Char) (hd : d.toNat < 32) : c ≠ d := by
    rintro rfl
    omega
  simp [escapeChar, hquote, hslash, hne '\x08' (by decide), hne '\x0c' (by decide),
    hne '\n' (by decide), hne '\r' (by decide), hne '\t' (by decide), hlow,
    show ¬ c.toNat < 16 by omega]

/-- A character that needs no escape has no byte that ends the token, begins an escape or is
forbidden. -/
theorem plain_of_mem_utf8EncodeChar (hlow : 32 ≤ c.toNat) (hquote : c ≠ '"') (hslash : c ≠ '\\') :
    ∀ b ∈ String.utf8EncodeChar c, 0x20 ≤ b ∧ b ≠ 0x22 ∧ b ≠ 0x5C := by
  intro b hb
  rcases Nat.lt_or_ge c.toNat 128 with hascii | hhigh
  · rw [utf8EncodeChar_of_lt hascii, List.mem_singleton] at hb
    subst hb
    have hnat : (byteOf c).toNat = c.toNat := by
      simp only [byteOf, UInt8.toNat_ofNat']
      omega
    refine ⟨UInt8.le_iff_toNat_le.2 (hnat ▸ hlow), fun h => hquote ?_, fun h => hslash ?_⟩ <;>
      exact Char.toNat_inj.1 (hnat.symm.trans (congrArg UInt8.toNat h))
  · have hle := le_of_mem_utf8EncodeChar hhigh b hb
    refine ⟨UInt8.le_iff_toNat_le.2 (Nat.le_trans (by decide) hle), ?_, ?_⟩ <;>
    · rintro rfl
      exact absurd hle (by decide)

/-- **A character in a string is read as its pieces**, and what comes after it as before. -/
theorem scan_escapeChar (c : Char) (rest : List UInt8) :
    scan (bytesOf (escapeChar c) ++ rest) =
      ((scan rest).1.prepend (piecesOf c), (scan rest).2) := by
  by_cases h : c.toNat < 32 ∨ c = '"' ∨ c = '\\'
  · obtain ⟨piece, hread, hpieces⟩ := readEscape_escapeChar h
    rw [scan_escape hread, ← hpieces]
    rfl
  · simp only [not_or, Nat.not_lt] at h
    obtain ⟨hlow, hquote, hslash⟩ := h
    have hpieces : piecesOf c = (String.utf8EncodeChar c).map .byte :=
      if_neg fun h => absurd h.1 (by omega)
    rw [escapeChar_eq_self hlow hquote hslash, bytesOf_cons, bytesOf_nil, List.append_nil,
      scan_bytes (plain_of_mem_utf8EncodeChar hlow hquote hslash), hpieces]

/-- Two runs of pieces are put before a token one after the other. -/
theorem prepend_append (pieces pieces' : List Piece) (token : Quotation) :
    token.prepend (pieces ++ pieces') = (token.prepend pieces').prepend pieces := by
  simp [prepend]

/-- The escaped form of a text is read back as the pieces of its characters. -/
theorem scan_escaped (cs : List Char) (rest : List UInt8) :
    scan (bytesOf (cs.flatMap escapeChar) ++ rest) =
      ((scan rest).1.prepend (cs.flatMap piecesOf), (scan rest).2) := by
  induction cs with
  | nil => rfl
  | cons c later ih =>
      rw [List.flatMap_cons, bytesOf_append, List.append_assoc, scan_escapeChar, ih,
        List.flatMap_cons, prepend_append]

/-- **A string that is written is scanned as the spelling of its text**, and its token ends at the
closing quote. -/
theorem scan_layString (text : String) (rest : List UInt8) : ∃ inner,
    bytesOf (layString text) ++ rest = byteOf '"' :: inner ∧
      scan inner = (spelling text, rest) := by
  refine ⟨bytesOf (text.toList.flatMap escapeChar) ++ (byteOf '"' :: rest), ?_, ?_⟩
  · rw [layString, bytesOf_cons, bytesOf_append, utf8EncodeChar_of_lt (by decide)]
    simp [utf8EncodeChar_of_lt (c := '"') (by decide)]
  · rw [scan_escaped]
    simp [scan, byteOf, nothing, prepend, spelling]

/-! ## Texts of tokens -/

variable {broken : Option Break} {pieces : List Piece}

/-- Bytes that stand for themselves are decoded to themselves. -/
theorem pieceBytes_bytes (bytes : List UInt8) :
    pieceBytes broken (bytes.map .byte ++ pieces) = (bytes ++ ·) <$> pieceBytes broken pieces := by
  induction bytes with
  | nil => simp
  | cons b later ih =>
      rw [List.map_cons, List.cons_append, pieceBytes, ih]
      cases pieceBytes broken pieces <;> rfl

/-- A code unit below those that come in pairs. -/
theorem pieceBytes_unit {code : Nat} (h : code < 0xD800) :
    pieceBytes broken (.unit code :: pieces) =
      (pointBytes code ++ ·) <$> pieceBytes broken pieces := by
  have hleading : isLeading code = false := by simp [isLeading]; omega
  have htrailing : isTrailing code = false := by simp [isTrailing]; omega
  match pieces with
  | [] => simp [pieceBytes, hleading, htrailing, Functor.map, Except.map]
  | .unit next :: rest => simp [pieceBytes, hleading, htrailing]
  | .byte b :: rest => simp [pieceBytes, hleading, htrailing]

/-- The pieces of a character are decoded to its bytes. -/
theorem pieceBytes_piecesOf (c : Char) : pieceBytes broken (piecesOf c ++ pieces) =
    (String.utf8EncodeChar c ++ ·) <$> pieceBytes broken pieces := by
  unfold piecesOf
  split
  · next h =>
      have hpoint : pointBytes c.toNat = String.utf8EncodeChar c := by
        rw [pointBytes, Char.ofNat_toNat]
      rw [List.singleton_append, pieceBytes_unit (by omega), hpoint]
  · exact pieceBytes_bytes _

/-- The pieces of a text are decoded to its bytes. -/
theorem pieceBytes_flatMap (cs : List Char) :
    pieceBytes broken (cs.flatMap piecesOf) = .ok (bytesOf cs) := by
  induction cs with
  | nil => rfl
  | cons c later ih =>
      rw [List.flatMap_cons, pieceBytes_piecesOf, ih, bytesOf_cons]
      rfl

/-- **The spelling of a text is read as the text.** -/
theorem text_spelling (text : String) : (spelling text).text = .ok text := by
  simp only [Quotation.text, spelling, pieceBytes_flatMap, ok_bind, fromUTF8?_bytesOf]
  rfl

end Quotation

end BusNetwork.Json
