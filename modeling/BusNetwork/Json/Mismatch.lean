import BusNetwork.Decimal.Style
import BusNetwork.Json.Value
import BusNetwork.Text.Quoted

/-!
# Mismatches: JSON that is not what was wanted

A text can be JSON and yet not say what its reader asks for. **A mismatch names what was wanted and
what was found instead**, by its kind alone where it is an array or an object: what stands inside
them plays no part. `Fault` is either a mismatch or a break of the text itself.
-/

namespace BusNetwork.Json

/-- What is seen of a value from outside. -/
inductive Found where
  /-- Nothing. -/
  | null
  /-- A truth value. -/
  | boolean (b : Bool)
  /-- An integer. -/
  | integer (n : Int)
  /-- A number in floating point. -/
  | float (x : Float)
  /-- A text. -/
  | string (text : String)
  /-- Some array. -/
  | sequence
  /-- Some object. -/
  | map
  deriving Repr

/-- What was found, in words. -/
def Found.describe : Found → String
  | null => "null"
  | boolean true => "boolean `true`"
  | boolean false => "boolean `false`"
  | integer n => "integer `" ++ toString n ++ "`"
  | float x => "floating point `" ++ Decimal.Style.interchange.write x ++ "`"
  | string text => "string " ++ Text.quote text
  | sequence => "sequence"
  | map => "map"

/-- How a value differs from what was wanted. -/
inductive Mismatch where
  /-- It is of another kind. -/
  | invalidType (found : Found) (wanted : String)
  /-- It is of the right kind and out of range. -/
  | invalidValue (found : Found) (wanted : String)
  /-- It has too few or too many elements. -/
  | invalidLength (length : Nat) (wanted : String)
  /-- It lacks a member. -/
  | missingField (name : String)
  /-- It has a member twice. -/
  | duplicateField (name : String)
  /-- It names a kind of object that there is not. -/
  | unknownVariant (name : String) (known : List String)
  deriving Repr

namespace Mismatch

/-- A name between backquotes. -/
def backquoted (name : String) : String := "`" ++ name ++ "`"

/-- A choice of names in words. -/
def choice : List String → String
  | [only] => backquoted only
  | [one, other] => backquoted one ++ " or " ++ backquoted other
  | names => "one of " ++ ", ".intercalate (names.map backquoted)

/-- The difference in words. -/
def message : Mismatch → String
  | invalidType found wanted => "invalid type: " ++ found.describe ++ ", expected " ++ wanted
  | invalidValue found wanted => "invalid value: " ++ found.describe ++ ", expected " ++ wanted
  | invalidLength length wanted =>
    "invalid length " ++ toString length ++ ", expected " ++ wanted
  | missingField name => "missing field " ++ backquoted name
  | duplicateField name => "duplicate field " ++ backquoted name
  | unknownVariant name known =>
    "unknown variant " ++ backquoted name ++ ", expected " ++ choice known

end Mismatch

/-- Why a text was not understood. -/
inductive Fault where
  /-- It is no JSON. -/
  | broken (cause : Break)
  /-- It does not say what was wanted. -/
  | mismatch (difference : Mismatch)
  deriving Repr

/-- A break in the text may come up wherever a fault may. -/
instance : MonadLift (Except Break) (Except Fault) := ⟨Except.mapError .broken⟩

/-- A mismatch with what is wanted may come up wherever a fault may. -/
instance : MonadLift (Except Mismatch) (Except Fault) := ⟨Except.mapError .mismatch⟩

/-! ## Looking at a value from outside -/

/-- A number as it is seen. -/
def Number.found : Number → Found
  | integer n => .integer n
  | float x => .float x

/-- A value as it is seen from outside. -/
def Value.found : Value → Found
  | null => .null
  | boolean b => .boolean b
  | number n => n.found
  | string text => .string text
  | array _ => .sequence
  | object _ => .map

/-- A tree as it is seen from outside. Of an array or an object only its bracket is seen. -/
def Tree.found : Tree → Except Break Found
  | null => .ok .null
  | boolean b => .ok (.boolean b)
  | number token => do return (← token.value).found
  | cutNumber => .error .truncated
  | string token => do return .string (← token.text)
  | array _ _ => .ok .sequence
  | object _ _ => .ok .map
  | broken cause => .error cause

namespace Found

/-- A text was wanted. -/
def asText : Found → Except Mismatch String
  | string text => .ok text
  | other => .error (.invalidType other "a string")

/-- A truth value was wanted. -/
def asBoolean : Found → Except Mismatch Bool
  | boolean b => .ok b
  | other => .error (.invalidType other "a boolean")

/-- A number in floating point was wanted; an integer will do. -/
def asFloat : Found → Except Mismatch Float
  | integer n => .ok (Float.ofInt n)
  | float x => .ok x
  | other => .error (.invalidType other "f64")

/-- An integer between two bounds was wanted. -/
def asIntegerWithin (low high : Int) (wanted : String) : Found → Except Mismatch Int
  | integer n =>
    if low ≤ n && n ≤ high then .ok n else .error (.invalidValue (.integer n) wanted)
  | other => .error (.invalidType other wanted)

/-- An unsigned integer of 32 bits was wanted. -/
def asNatural32 (found : Found) : Except Mismatch Nat := do
  return (← found.asIntegerWithin 0 (UInt32.size - 1) "u32").toNat

/-- A signed integer of 64 bits was wanted. -/
def asInteger64 : Found → Except Mismatch Int :=
  asIntegerWithin Int64.minValue.toInt Int64.maxValue.toInt "i64"

end Found

end BusNetwork.Json
