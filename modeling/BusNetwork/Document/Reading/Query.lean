import BusNetwork.Json.Record
import BusNetwork.Query

/-!
# Reading questions

A question is a record with a tag, and the tag says which of its members count. **A member that a
question of another kind would need is passed over like any foreign one.**
-/

namespace BusNetwork

open Json

/-- The members of a question that have come. -/
structure QueryDraft where
  /-- The number under which it is answered. -/
  id : Option Int := none
  /-- The name that it asks about. -/
  name : Option String := none
  /-- The name of the stop where a route starts. -/
  origin : Option String := none
  /-- The name of the stop where a route ends. -/
  target : Option String := none

namespace QueryDraft

/-- A question with one more member, out of those that a question of its kind can have. -/
def addMember (known : List String) (d : QueryDraft) (member : String × Value) :
    Except Fault QueryDraft := do
  let (key, value) := member
  if !known.contains key then return d
  else if key == "id" then return { d with id := ← once key d.id value.found.asInteger64 }
  else if key == "name" then return { d with name := ← once key d.name value.found.asText }
  else if key == "from" then return { d with origin := ← once key d.origin value.found.asText }
  else if key == "to" then return { d with target := ← once key d.target value.found.asText }
  else return d

end QueryDraft

namespace Query

/-- A question about one name: `make` makes it of its number and that name. -/
def readNamed (kind : String) (make : Int → String → Query) : Content → Except Fault Query
  | .named members => do
    let draft ← members.foldlM (QueryDraft.addMember ["id", "name"]) {}
    return make (← required "id" draft.id) (← required "name" draft.name)
  | .positional values => do
    let wanted := "struct variant StatRequestDto::" ++ kind ++ " with 2 elements"
    let id ← (← valueAt wanted values 0).found.asInteger64
    let name ← (← valueAt wanted values 1).found.asText
    atMost 2 values
    return make id name

/-- A question for a route. -/
def readRoute : Content → Except Fault Query
  | .named members => do
    let draft ← members.foldlM (QueryDraft.addMember ["id", "from", "to"]) {}
    let id ← required "id" draft.id
    let origin ← required "from" draft.origin
    let target ← required "to" draft.target
    return .route id origin target
  | .positional values => do
    let wanted := "struct variant StatRequestDto::Route with 3 elements"
    let id ← (← valueAt wanted values 0).found.asInteger64
    let origin ← (← valueAt wanted values 1).found.asText
    let target ← (← valueAt wanted values 2).found.asText
    atMost 3 values
    return .route id origin target

/-- A question for a map. -/
def readMap : Content → Except Fault Query
  | .named members => do
    let draft ← members.foldlM (QueryDraft.addMember ["id"]) {}
    return .map (← required "id" draft.id)
  | .positional values => do
    let wanted := "struct variant StatRequestDto::Map with 1 element"
    let id ← (← valueAt wanted values 0).found.asInteger64
    atMost 1 values
    return .map id

/-- One question. -/
def read (depth : Nat) (tree : Tree) : Except Fault Query := do
  let (tag, content) ← tree.tagged "internally tagged enum StatRequestDto"
    ["Bus", "Stop", "Route", "Map"] depth
  if tag == "Bus" then readNamed tag .bus content
  else if tag == "Stop" then readNamed tag .stop content
  else if tag == "Route" then readRoute content
  else readMap content

end Query

end BusNetwork
