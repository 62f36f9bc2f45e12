import BusNetwork.Ascending
import BusNetwork.Document
import BusNetwork.Json.Record

/-!
# Reading the description of a network

A stop and a bus are records with a tag. **A member that does not belong to the kind that the tag
names is passed over, whatever it holds**; of those that belong, only the roads from a stop may be
left out.
-/

namespace BusNetwork

open Json

/-! ## Lists and maps -/

/-- A list of texts. -/
def readTexts : Value → Except Fault (List String)
  | .array items => items.mapM fun item => item.found.asText
  | other => throw (.mismatch (.invalidType other.found "a sequence"))

/-- Road lengths by the name of their far end, ascending; of two under one name the last counts. -/
def readRoads : Value → Except Fault (List (String × Float))
  | .object members => do
    let roads ← members.mapM fun (name, value) => return (name, ← value.found.asFloat)
    return Ascending.ofList Prod.fst roads
  | other => throw (.mismatch (.invalidType other.found "a map"))

/-! ## Stops and buses -/

/-- The members of a stop that have come. -/
structure StopDraft where
  /-- The name. -/
  name : Option String := none
  /-- The latitude. -/
  latitude : Option Float := none
  /-- The longitude. -/
  longitude : Option Float := none
  /-- The roads. -/
  roads : Option (List (String × Float)) := none

namespace StopDraft

/-- A stop with one more member. -/
def addMember (d : StopDraft) (member : String × Value) : Except Fault StopDraft := do
  let (key, value) := member
  if key == "name" then return { d with name := ← once key d.name value.found.asText }
  else if key == "latitude" then
    return { d with latitude := ← once key d.latitude value.found.asFloat }
  else if key == "longitude" then
    return { d with longitude := ← once key d.longitude value.found.asFloat }
  else if key == "road_distances" then
    return { d with roads := ← once key d.roads (readRoads value) }
  else return d

/-- The stop, if all members have come that have to. -/
def finish (d : StopDraft) : Except Fault (BaseRequest Float) := do
  let name ← required "name" d.name
  let latitude ← required "latitude" d.latitude
  let longitude ← required "longitude" d.longitude
  return .stop name latitude longitude (d.roads.getD [])

end StopDraft

/-- The members of a bus that have come. -/
structure BusDraft where
  /-- The name. -/
  name : Option String := none
  /-- The names of its stops. -/
  stops : Option (List String) := none
  /-- Whether it is a round trip. -/
  isRoundTrip : Option Bool := none

namespace BusDraft

/-- A bus with one more member. -/
def addMember (d : BusDraft) (member : String × Value) : Except Fault BusDraft := do
  let (key, value) := member
  if key == "name" then return { d with name := ← once key d.name value.found.asText }
  else if key == "stops" then return { d with stops := ← once key d.stops (readTexts value) }
  else if key == "is_roundtrip" then
    return { d with isRoundTrip := ← once key d.isRoundTrip value.found.asBoolean }
  else return d

/-- The bus, if all members have come. -/
def finish (d : BusDraft) : Except Fault (BaseRequest Float) := do
  let name ← required "name" d.name
  let stops ← required "stops" d.stops
  let isRoundTrip ← required "is_roundtrip" d.isRoundTrip
  return .bus name stops isRoundTrip

end BusDraft

namespace BaseRequest

/-- The stop with the given members. -/
def readStop : Content → Except Fault (BaseRequest Float)
  | .named members => do
    let draft ← members.foldlM StopDraft.addMember {}
    draft.finish
  | .positional values => do
    let wanted := "struct variant BaseRequest::Stop with 4 elements"
    let name ← (← valueAt wanted values 0).found.asText
    let latitude ← (← valueAt wanted values 1).found.asFloat
    let longitude ← (← valueAt wanted values 2).found.asFloat
    let roads ← match values[3]? with
      | some value => readRoads value
      | none => pure []
    atMost 4 values
    return .stop name latitude longitude roads

/-- The bus with the given members. -/
def readBus : Content → Except Fault (BaseRequest Float)
  | .named members => do
    let draft ← members.foldlM BusDraft.addMember {}
    draft.finish
  | .positional values => do
    let wanted := "struct variant BaseRequest::Bus with 3 elements"
    let name ← (← valueAt wanted values 0).found.asText
    let stops ← readTexts (← valueAt wanted values 1)
    let isRoundTrip ← (← valueAt wanted values 2).found.asBoolean
    atMost 3 values
    return .bus name stops isRoundTrip

/-- One entry of a network's description. -/
def read (depth : Nat) (tree : Tree) : Except Fault (BaseRequest Float) := do
  let (tag, content) ← tree.tagged "internally tagged enum BaseRequest" ["Stop", "Bus"] depth
  if tag == "Stop" then readStop content else readBus content

end BaseRequest

end BusNetwork
