import BusNetwork.Document.Reading.BaseRequest
import BusNetwork.Document.Reading.Query
import BusNetwork.Document.Reading.Settings

/-!
# Reading documents

A document is one JSON record. **It is read from the left and refused for the first thing that is
wrong with it**: a member that comes twice, a value of the wrong kind, a break of the text. Entries
of the network's description and questions are records with a tag, of which only the tag is checked
on the way; what else may be wrong with one shows when its last bracket has closed.

Only the settings have to be there. Map styling may be any value that can be read; nothing but its
presence is kept.
-/

namespace BusNetwork

open Json

/-- A list, each item read by `read`. -/
def readList {β : Type} (read : Nat → Tree → Except Fault β) (depth : Nat) :
    Tree → Except Fault (List β)
  | .array items ending => do
    let depth ← deeper depth
    let values ← items.mapM (read depth)
    closed ending values
  | other => do throw (.mismatch (.invalidType (← other.found) "a sequence"))

/-- Whether there is map styling: any value but `null`, as long as it can be read. -/
def readStyling (depth : Nat) : Tree → Except Fault Bool
  | .null => return false
  | tree => do
    let _ ← tree.read depth
    return true

/-- The members of a document that have come. -/
structure DocumentDraft where
  /-- The description of the network. -/
  baseRequests : Option (List (BaseRequest Float)) := none
  /-- How long boarding takes and how fast buses run. -/
  settings : Option (Settings Float) := none
  /-- Whether there is map styling. -/
  hasRenderSettings : Option Bool := none
  /-- The questions. -/
  queries : Option (List Query) := none

namespace DocumentDraft

/-- A document with one more member. -/
def addMember (depth : Nat) (d : DocumentDraft) (member : Quotation × Tree) :
    Except Fault DocumentDraft := do
  let (key, value) := member
  let key ← key.text
  if key == "base_requests" then
    return { d with
      baseRequests := ← once key d.baseRequests (readList BaseRequest.read depth value) }
  else if key == "routing_settings" then
    return { d with settings := ← once key d.settings (Settings.read depth value) }
  else if key == "render_settings" then
    return { d with
      hasRenderSettings := ← once key d.hasRenderSettings (readStyling depth value) }
  else if key == "stat_requests" then
    return { d with queries := ← once key d.queries (readList Query.read depth value) }
  else
    value.skip
    return d

end DocumentDraft

namespace Document

/-- The item that an array has next, read by `read`, and the items after it. -/
def readNext {β : Type} (read : Tree → Except Fault β) (items : List Tree)
    (ending : Option Break) : Except Fault (Option β × List Tree) := do
  match ← nextItem items ending with
  | some (item, rest) => return (some (← read item), rest)
  | none => return (none, [])

/-- A document. -/
def read (depth : Nat) : Tree → Except Fault (Document Float)
  | .object members ending => do
    let depth ← deeper depth
    let draft ← members.foldlM (DocumentDraft.addMember depth) {}
    closed ending ()
    let settings ← required "routing_settings" draft.settings
    return ⟨draft.baseRequests.getD [], settings, draft.hasRenderSettings.getD false,
      draft.queries.getD []⟩
  | .array items ending => do
    let depth ← deeper depth
    let (baseRequests, items) ← readNext (readList BaseRequest.read depth) items ending
    let (settings, items) ← readNext (Settings.read depth) items ending
    match settings with
    | none => throw (.mismatch (.invalidLength 1 "struct RequestDocument with 4 elements"))
    | some settings =>
      let (hasRenderSettings, items) ← readNext (readStyling depth) items ending
      let (queries, items) ← readNext (readList Query.read depth) items ending
      noMoreItems items ending
      return ⟨baseRequests.getD [], settings, hasRenderSettings.getD false, queries.getD []⟩
  | other => do throw (.mismatch (.invalidType (← other.found) "struct RequestDocument"))

end Document

/-- A whole text, its value read by `read` and followed by nothing but white space. -/
def readText {β : Type} (read : Nat → Tree → Except Fault β) (bytes : List UInt8) :
    Except Fault β := do
  let (tree, hasMore) := Tree.ofBytes bytes
  let result ← read 0 tree
  if hasMore then throw (.broken .malformed)
  return result

/-- The document that a text holds. -/
def Document.ofBytes : List UInt8 → Except Fault (Document Float) := readText Document.read

end BusNetwork
