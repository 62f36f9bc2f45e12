import BusNetwork.Json.Record
import BusNetwork.Settings

/-!
# Reading settings

Settings are a record of two members, and **both have to be there**. What else an object holds is
passed over without being read.
-/

namespace BusNetwork

open Json

/-- The members of settings that have come. -/
structure SettingsDraft where
  /-- The waiting time. -/
  busWaitTime : Option Nat := none
  /-- The speed. -/
  busVelocity : Option Float := none

namespace SettingsDraft

/-- Settings with one more member. -/
def addMember (d : SettingsDraft) (member : Quotation × Tree) : Except Fault SettingsDraft := do
  let (key, value) := member
  let key ← key.text
  if key == "bus_wait_time" then
    return { d with busWaitTime := ← once key d.busWaitTime do (← value.found).asNatural32 }
  else if key == "bus_velocity" then
    return { d with busVelocity := ← once key d.busVelocity do (← value.found).asFloat }
  else
    value.skip
    return d

end SettingsDraft

/-- Settings. -/
def Settings.read (depth : Nat) : Tree → Except Fault (Settings Float)
  | .object members ending => do
    let _ ← deeper depth
    let draft ← members.foldlM SettingsDraft.addMember {}
    closed ending ()
    let busWaitTime ← required "bus_wait_time" draft.busWaitTime
    let busVelocity ← required "bus_velocity" draft.busVelocity
    return ⟨busWaitTime, busVelocity⟩
  | .array items ending => do
    let _ ← deeper depth
    let wanted := "struct RoutingSettings with 2 elements"
    match ← nextItem items ending with
    | none => throw (.mismatch (.invalidLength 0 wanted))
    | some (first, items) =>
      let busWaitTime ← (← first.found).asNatural32
      match ← nextItem items ending with
      | none => throw (.mismatch (.invalidLength 1 wanted))
      | some (second, items) =>
        let busVelocity ← (← second.found).asFloat
        noMoreItems items ending
        return ⟨busWaitTime, busVelocity⟩
  | other => do throw (.mismatch (.invalidType (← other.found) "struct RoutingSettings"))

end BusNetwork
