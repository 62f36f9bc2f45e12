import BusNetwork.Decimal.Style
import BusNetwork.Json.Value
import BusNetwork.Text.Quoted

/-!
# Layout: JSON text over several lines

A value is written with one element to a line, two spaces deeper than what it belongs to. **Texts
are written as they are, apart from quotes, backslashes and control characters**; a floating point
number always has a point or an exponent, and `null` stands for one that is not finite.
-/

namespace BusNetwork.Json

/-- A character as it stands in a JSON string. -/
def escapeChar (c : Char) : List Char :=
  if c == '"' then ['\\', '"']
  else if c == '\\' then ['\\', '\\']
  else if c == '\x08' then ['\\', 'b']
  else if c == '\x0c' then ['\\', 'f']
  else if c == '\n' then ['\\', 'n']
  else if c == '\r' then ['\\', 'r']
  else if c == '\t' then ['\\', 't']
  else if c.toNat < 16 then ['\\', 'u', '0', '0', '0'] ++ Text.hexDigits c.toNat
  else if c.toNat < 32 then ['\\', 'u', '0', '0'] ++ Text.hexDigits c.toNat
  else [c]

/-- A text as a JSON string. -/
def layString (text : String) : List Char := '"' :: (text.toList.flatMap escapeChar ++ ['"'])

/-- A number as JSON. -/
def layNumber : Number → List Char
  | .integer n => (toString n).toList
  | .float x => (Decimal.Style.interchange.write x).toList

/-- A new line, `depth` steps in. -/
def layBreak (depth : Nat) : List Char := '\n' :: List.replicate (2 * depth) ' '

/-- Elements between two brackets: nothing between them if there are none, and otherwise each
element on a line of its own. -/
def layBetween (opening closing : Char) (depth : Nat) : List (List Char) → List Char
  | [] => [opening, closing]
  | first :: rest =>
    opening :: (layBreak (depth + 1) ++ first
      ++ rest.flatMap (fun element => ',' :: (layBreak (depth + 1) ++ element))
      ++ layBreak depth ++ [closing])

mutual

/-- A value as JSON, its closing bracket `depth` steps in. -/
def lay (depth : Nat) : Value → List Char
  | .null => ['n', 'u', 'l', 'l']
  | .boolean true => ['t', 'r', 'u', 'e']
  | .boolean false => ['f', 'a', 'l', 's', 'e']
  | .number n => layNumber n
  | .string text => layString text
  | .array items => layBetween '[' ']' depth (layItems (depth + 1) items)
  | .object members => layBetween '\x7b' '\x7d' depth (layMembers (depth + 1) members)

/-- The items of an array. -/
def layItems (depth : Nat) : List Value → List (List Char)
  | [] => []
  | item :: rest => lay depth item :: layItems depth rest

/-- The members of an object. -/
def layMembers (depth : Nat) : List (String × Value) → List (List Char)
  | [] => []
  | (key, value) :: rest =>
    (layString key ++ [':', ' '] ++ lay depth value) :: layMembers depth rest

end

end BusNetwork.Json
