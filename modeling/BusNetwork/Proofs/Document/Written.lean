import BusNetwork.Document.Writing
import BusNetwork.Proofs.Json.Layout

/-!
# Responses that are written and read back

**What is written can be read back** (`Response.writeAll_isTold`): the text of the responses is one
JSON array and a new line, with one object for each response, which has the members of its kind in
their order and no others. Texts and whole numbers are read as what they were; a number in floating
point is a JSON number if it is finite, and `null` otherwise.

Whether a JSON number in floating point is read as the number that was written is another question:
reading rounds at every step.
-/

namespace BusNetwork

open Json

/-! ## What a tree tells -/

/-- The tree is an integer. -/
def TellsInteger (n : Int) (tree : Tree) : Prop :=
  ∃ token, tree = .number token ∧ token.value = .ok (.integer n)

/-- The tree is a number for a finite one, and nothing for any other. -/
def TellsFloat (x : Float) (tree : Tree) : Prop :=
  if x.isFinite then ∃ token, tree = .number token else tree = .null

/-- The tree is a text. -/
def TellsText (text : String) (tree : Tree) : Prop :=
  ∃ token, tree = .string token ∧ token.text = .ok text

/-- The tree is an array that is closed, with so many items. -/
def TellsList (items : List (Tree → Prop)) (tree : Tree) : Prop :=
  ∃ trees, tree = .array trees none ∧ List.Forall₂ (fun item tree => item tree) items trees

/-- The tree is an object that is closed, with members of these names in this order. -/
def TellsRecord (fields : List (String × (Tree → Prop))) (tree : Tree) : Prop :=
  ∃ members, tree = .object members none ∧
    List.Forall₂ (fun field member => member.1.text = .ok field.1 ∧ field.2 member.2) fields members

/-- The tree tells a step of a journey. -/
def RouteItem.IsTold : RouteItem Float → Tree → Prop
  | wait stop time =>
    TellsRecord [("type", TellsText "Wait"), ("stop_name", TellsText stop),
      ("time", TellsFloat time)]
  | ride bus span time =>
    TellsRecord [("type", TellsText "Bus"), ("bus", TellsText bus),
      ("span_count", TellsInteger span), ("time", TellsFloat time)]

/-- The tree tells a response. -/
def Response.IsTold : Response Float → Tree → Prop
  | bus id curvature routeLength stopCount uniqueStopCount =>
    TellsRecord [("request_id", TellsInteger id), ("curvature", TellsFloat curvature),
      ("route_length", TellsInteger routeLength), ("stop_count", TellsInteger stopCount),
      ("unique_stop_count", TellsInteger uniqueStopCount)]
  | stop id buses =>
    TellsRecord [("request_id", TellsInteger id), ("buses", TellsList (buses.map TellsText))]
  | route id totalTime items =>
    TellsRecord [("request_id", TellsInteger id), ("total_time", TellsFloat totalTime),
      ("items", TellsList (items.map RouteItem.IsTold))]
  | map id drawing => TellsRecord [("request_id", TellsInteger id), ("map", TellsText drawing)]
  | error id message =>
    TellsRecord [("request_id", TellsInteger id), ("error_message", TellsText message)]

/-! ## Sizes -/

/-- The count of a step is one of 64 bits. -/
def RouteItem.Fits : RouteItem Float → Prop
  | wait _ _ => True
  | ride _ span _ => span < UInt64.size

/-- The counts of a response are ones of 64 bits. -/
def Response.CountsFit : Response Float → Prop
  | bus _ _ routeLength stopCount uniqueStopCount =>
    routeLength < UInt64.size ∧ stopCount < UInt64.size ∧ uniqueStopCount < UInt64.size
  | route _ _ items => ∀ item ∈ items, item.Fits
  | stop _ _ | map _ _ | error _ _ => True

/-- The numbers of a response are in their ranges: that of the question in the signed range of 64
bits, counts in the unsigned one. -/
structure Response.Fits (response : Response Float) : Prop where
  low : Int64.minValue.toInt ≤ response.id
  high : response.id ≤ Int64.maxValue.toInt
  counts : response.CountsFit

/-! ## Trees of written values -/

/-- An integer within 64 bits is told by the tree it is written as. -/
theorem tellsInteger_treeOf {n : Int} (hlow : Int64.minValue.toInt ≤ n) (hhigh : n < UInt64.size) :
    TellsInteger n (treeOf (.number (.integer n))) :=
  ⟨_, numberTree_integer n, Numeral.value_ofInteger hlow hhigh⟩

/-- A count below 2^64 is told by the tree it is written as. -/
theorem tellsInteger_countValue {n : Nat} (h : n < UInt64.size) :
    TellsInteger n (treeOf (countValue n)) :=
  tellsInteger_treeOf (Int.le_trans (by decide) (Int.natCast_nonneg n)) (Int.ofNat_lt.2 h)

/-- A float is told by the tree it is written as. -/
theorem tellsFloat_floatValue (x : Float) : TellsFloat x (treeOf (floatValue x)) := by
  unfold TellsFloat
  split
  · next h =>
      obtain ⟨token, hformed, hspell⟩ := Decimal.isNumeral_interchange h
      exact ⟨token, numberTree_eq hformed hspell⟩
  · next h => exact (numberTree_of_not_isFinite (Bool.eq_false_iff.2 h)).2

/-- A text is told by the tree it is written as. -/
theorem tellsText_treeOf (text : String) : TellsText text (treeOf (.string text)) :=
  ⟨_, rfl, Quotation.text_spelling text⟩

/-- A list is told by the array of what its elements are written as. -/
theorem tellsList_treeOf {α : Type} {xs : List α} {told : α → Tree → Prop} {toValue : α → Value}
    (h : ∀ x ∈ xs, told x (treeOf (toValue x))) :
    TellsList (xs.map told) (treeOf (.array (xs.map toValue))) := by
  refine ⟨_, by rw [treeOf, treesOf_eq_map], ?_⟩
  rw [List.map_map, List.forall₂_map_left_iff, List.forall₂_map_right_iff, List.forall₂_same]
  exact h

/-- A record is told member by member. -/
theorem tellsRecord_treeOf {fields : List (String × (Tree → Prop))}
    {members : List (String × Value)}
    (h : List.Forall₂ (fun field m => m.1 = field.1 ∧ field.2 (treeOf m.2)) fields members) :
    TellsRecord fields (treeOf (.object members)) := by
  refine ⟨_, by rw [treeOf, memberTreesOf_eq_map], ?_⟩
  rw [List.forall₂_map_right_iff]
  refine h.imp fun field m hm => ⟨?_, hm.2⟩
  rw [Quotation.text_spelling, hm.1]

/-- An item of a route that fits is told by the tree it is written as. -/
theorem RouteItem.isTold_treeOf {item : RouteItem Float} (h : item.Fits) :
    item.IsTold (treeOf item.toValue) := by
  cases item with
  | wait stop time =>
      apply tellsRecord_treeOf
      simp [tellsText_treeOf, tellsFloat_floatValue]
  | ride bus span time =>
      apply tellsRecord_treeOf
      simp [tellsText_treeOf, tellsFloat_floatValue, tellsInteger_countValue h]

/-- **A response is told by what is written for it.** -/
theorem Response.isTold_treeOf {response : Response Float} (h : response.Fits) :
    response.IsTold (treeOf response.toValue) := by
  obtain ⟨hlow, hhigh, hcounts⟩ := h
  have hid := tellsInteger_treeOf hlow (Int.lt_of_le_of_lt hhigh (by decide))
  cases response with
  | bus id curvature routeLength stopCount uniqueStopCount =>
      obtain ⟨hlength, hstops, hunique⟩ := hcounts
      apply tellsRecord_treeOf
      simpa [members, Response.id, tellsFloat_floatValue, tellsInteger_countValue hlength,
        tellsInteger_countValue hstops, tellsInteger_countValue hunique] using hid
  | stop id buses =>
      have hbuses : TellsList (buses.map TellsText) (treeOf (.array (buses.map .string))) :=
        tellsList_treeOf fun name _ => tellsText_treeOf name
      apply tellsRecord_treeOf
      simpa [members, Response.id, hbuses] using hid
  | route id totalTime items =>
      have hitems : TellsList (items.map RouteItem.IsTold)
          (treeOf (.array (items.map RouteItem.toValue))) :=
        tellsList_treeOf fun item hitem => RouteItem.isTold_treeOf (hcounts item hitem)
      apply tellsRecord_treeOf
      simpa [members, Response.id, tellsFloat_floatValue, hitems] using hid
  | map id drawing =>
      apply tellsRecord_treeOf
      simpa [members, Response.id, tellsText_treeOf] using hid
  | error id message =>
      apply tellsRecord_treeOf
      simpa [members, Response.id, tellsText_treeOf] using hid

/-! ## The text of all responses -/

/-- The last character of what is laid between brackets is the closing bracket. -/
theorem getLast?_layBetween (opening closing : Char) (depth : Nat) (elements : List (List Char)) :
    (layBetween opening closing depth elements).getLast? = some closing := by
  cases elements with
  | nil => rfl
  | cons first rest =>
      rw [layBetween, ← List.cons_append]
      exact List.getLast?_concat

/-- **What is written can be read back.** -/
theorem Response.writeAll_isTold (responses : List (Response Float))
    (h : ∀ response ∈ responses, response.Fits) :
    ∃ (body : String) (trees : List Tree),
      Response.writeAll responses = body ++ "\n" ∧ body.toList.getLast? = some ']' ∧
      Tree.ofBytes body.toUTF8.data.toList = (.array trees none, false) ∧
      Tree.ofBytes (Response.writeAll responses).toUTF8.data.toList = (.array trees none, false) ∧
      (Tree.array trees none).skip = .ok () ∧
      List.Forall₂ Response.IsTold responses trees := by
  let v : Value := .array (responses.map toValue)
  have htree : treeOf v = .array (responses.map fun response => treeOf response.toValue) none := by
    rw [treeOf, treesOf_eq_map, List.map_map]
    rfl
  refine ⟨String.ofList (lay 0 v), responses.map fun response => treeOf response.toValue,
    String.ofList_append, ?_, ?_, ?_, ?_, ?_⟩
  · rw [String.toList_ofList]
    exact getLast?_layBetween _ _ _ _
  · have hbody := Tree.ofBytes_lay 0 v [] (List.forall_mem_nil _)
    rw [toList_toUTF8, String.toList_ofList, ← htree, ← hbody, List.append_nil]
  · rw [toList_toUTF8, writeAll, String.toList_ofList, bytesOf_append, ← htree]
    exact Tree.ofBytes_lay 0 v [byteOf '\n'] (List.forall_mem_singleton.2 rfl)
  · rw [← htree]
    exact Tree.skip_treeOf v
  · rw [List.forall₂_map_right_iff, List.forall₂_same]
    exact fun response hresponse => isTold_treeOf (h response hresponse)

/-- One response of each kind, with names that have to be escaped and a curvature that is
undefined. -/
def oneOfEach : List (Response Float) :=
  [.bus (-9223372036854775808) (0.0 / 0.0) 18446744073709551615 2 2,
    .stop (-1) ["\"7\" \\", "\n\x01\x7f", "Ж 😀"],
    .route 0 6.5 [.wait "A" 6.0, .ride "\t" 1 0.5],
    .map 1 "",
    .error 9223372036854775807 "not found"]

/-- One response of each kind is written and told. -/
theorem Response.writeAll_isTold_oneOfEach :
    (∀ response ∈ oneOfEach, response.Fits) ∧ ∃ (body : String) (trees : List Tree),
      Response.writeAll oneOfEach = body ++ "\n" ∧ body.toList.getLast? = some ']' ∧
      Tree.ofBytes body.toUTF8.data.toList = (.array trees none, false) ∧
      Tree.ofBytes (Response.writeAll oneOfEach).toUTF8.data.toList = (.array trees none, false) ∧
      (Tree.array trees none).skip = .ok () ∧
      List.Forall₂ Response.IsTold oneOfEach trees := by
  have hfits : ∀ response ∈ oneOfEach, response.Fits := by
    simp only [oneOfEach, List.forall_mem_cons]
    refine ⟨⟨by decide, by decide, by decide, by decide, by decide⟩,
      ⟨by decide, by decide, trivial⟩, ⟨by decide, by decide, ?_⟩, ⟨by decide, by decide, trivial⟩,
      ⟨by decide, by decide, trivial⟩, List.forall_mem_nil _⟩
    have hspan : 1 < UInt64.size := by decide
    exact List.forall_mem_cons.2 ⟨trivial, List.forall_mem_singleton.2 hspan⟩
  exact ⟨hfits, Response.writeAll_isTold oneOfEach hfits⟩

end BusNetwork
