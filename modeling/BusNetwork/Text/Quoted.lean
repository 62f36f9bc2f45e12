import BusNetwork.Text.Unprintable

/-!
# Quoted text: a text as messages show it

A message shows a text between double quotes, on one line and unambiguously: **the quote and the
backslash are preceded by a backslash, line breaks and their like go by a letter, and what is
unprintable goes by its number.**
-/

namespace BusNetwork.Text

/-- The digits of a number in base sixteen, in lower case. -/
def hexDigits (n : Nat) : List Char := Nat.toDigits 16 n

/-- A character as it stands in a quoted text. -/
def quoteChar (c : Char) : List Char :=
  if c == '\x00' then ['\\', '0']
  else if c == '\t' then ['\\', 't']
  else if c == '\n' then ['\\', 'n']
  else if c == '\r' then ['\\', 'r']
  else if c == '"' then ['\\', '"']
  else if c == '\\' then ['\\', '\\']
  else if isUnprintable c then ['\\', 'u', '\x7b'] ++ hexDigits c.toNat ++ ['\x7d']
  else [c]

/-- A text as messages show it. -/
def quote (text : String) : String :=
  String.ofList ('"' :: (text.toList.flatMap quoteChar ++ ['"']))

example : quote "a\"b\\\n" = "\"a\\\"b\\\\\\n\"" := by decide +kernel

example : quote "\u200bé" = "\"\\u\x7b200b\x7dé\"" := by decide +kernel

end BusNetwork.Text
