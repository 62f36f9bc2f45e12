import BusNetwork.Json.Mismatch

/-!
# Records: objects with known members

A record is written as an object with its members in any order, or as an array of its members'
values in a fixed order. **Members that a record does not know are passed over, and a member that
it knows may come only once.**

A record can carry its kind in a member of its own, the tag. Such a record is first taken in whole,
since what its other members mean is known only once the tag is; the tag itself is checked where it
stands.
-/

namespace BusNetwork.Json

/-- The brackets open after one more. -/
def deeper (depth : Nat) : Except Break Nat :=
  if depth < nestingLimit then .ok (depth + 1) else .error .malformed

/-- The value of a member that has come, unless it had come before. -/
def once {β : Type} (field : String) (former : Option β) (value : Except Fault β) :
    Except Fault (Option β) :=
  match former with
  | some _ => .error (.mismatch (.duplicateField field))
  | none => some <$> value

/-- The value of a member that has to come. -/
def required {β : Type} (field : String) : Option β → Except Mismatch β
  | some value => .ok value
  | none => .error (.missingField field)

/-- The next item of an array, if there is one; failing that the array has to be closed. -/
def nextItem (items : List Tree) (ending : Option Break) :
    Except Break (Option (Tree × List Tree)) :=
  match items with
  | item :: rest => .ok (some (item, rest))
  | [] => closed ending none

/-- What is left of an array whose items were all taken: nothing, and it has to be closed. -/
def noMoreItems (items : List Tree) (ending : Option Break) : Except Break Unit :=
  if items.isEmpty then closed ending () else .error .malformed

/-! ## Records with a tag -/

/-- The members of a record without its tag. -/
inductive Content where
  /-- The values in the record's order. -/
  | positional (values : List Value)
  /-- The values by name. -/
  | named (members : List (String × Value))
  deriving Repr

/-- The member that holds the tag. -/
def tagField : String := "type"

/-- A tag, which has to be one of the known ones. -/
def readTag (known : List String) (tree : Tree) : Except Fault String := do
  match ← tree.found with
  | .string name =>
    if known.contains name then return name
    else throw (.mismatch (.unknownVariant name known))
  | other => throw (.mismatch (.invalidType other "variant identifier"))

/-- The members of an object, the tag apart from the others. -/
def readTagged (known : List String) (depth : Nat) (tag : Option String) :
    List (Quotation × Tree) → Except Fault (Option String × List (String × Value))
  | [] => .ok (tag, [])
  | (key, member) :: rest => do
    let name ← key.text
    if name == tagField then
      let tag ← once tagField tag (readTag known member)
      readTagged known depth tag rest
    else
      let value ← member.read depth
      let (tag, members) ← readTagged known depth tag rest
      return (tag, (name, value) :: members)

/-- The tag and the members of a record that is described as `wanted`. -/
def Tree.tagged (wanted : String) (known : List String) (depth : Nat) :
    Tree → Except Fault (String × Content)
  | array items ending => do
    let depth ← deeper depth
    match ← nextItem items ending with
    | none => throw (.mismatch (.missingField tagField))
    | some (first, rest) =>
      let tag ← readTag known first
      let values ← Tree.readItems depth rest
      closed ending (tag, .positional values)
  | object members ending => do
    let depth ← deeper depth
    let (tag, named) ← readTagged known depth none members
    closed ending ()
    let tag ← required tagField tag
    return (tag, .named named)
  | other => do throw (.mismatch (.invalidType (← other.found) wanted))

/-- The value at a position of a record that needs it. -/
def valueAt (wanted : String) (values : List Value) (position : Nat) : Except Mismatch Value :=
  match values[position]? with
  | some value => .ok value
  | none => .error (.invalidLength position wanted)

/-- A record may not have more values than it has members. -/
def atMost (count : Nat) (values : List Value) : Except Mismatch Unit :=
  if values.length ≤ count then .ok ()
  else
    let plural := if count == 1 then "" else "s"
    .error (.invalidLength values.length
      (toString count ++ " element" ++ plural ++ " in sequence"))

end BusNetwork.Json
