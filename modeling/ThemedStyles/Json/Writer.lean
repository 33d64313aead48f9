import ThemedStyles.Binary64.Shortest
import ThemedStyles.Json

namespace ThemedStyles
namespace Json

/-!
# Writing JSON texts

The compact form has no blanks.  Quotes, backslashes and controls are escaped,
every other character stands for itself.  Numbers that are not finite have no
JSON form and are written as `null`.
-/

/-- A control written by its code, in four hexadecimal digits. -/
def controlEscape (code : Nat) : List Char :=
  let digits := Nat.toDigits 16 code
  ['\\', 'u'] ++ List.replicate (4 - digits.length) '0' ++ digits

/-- How one character of a string is written. -/
def writtenChar (char : Char) : List Char :=
  if char = '"' then ['\\', '"']
  else if char = '\\' then ['\\', '\\']
  else if char = '\n' then ['\\', 'n']
  else if char = '\r' then ['\\', 'r']
  else if char = '\t' then ['\\', 't']
  else if char = '\x08' then ['\\', 'b']
  else if char = '\x0c' then ['\\', 'f']
  else if char.toNat < 0x20 then controlEscape char.toNat
  else [char]

/-- A string in quotes. -/
def writtenString (text : String) : String :=
  String.ofList ('"' :: text.toList.flatMap writtenChar ++ ['"'])

/-- A binary number, always with a point or an exponent. -/
def writtenFloat (number : Binary64) : String :=
  if number.isFinite then Binary64.Layout.document.text number else "null"

mutual

/-- The compact text of a value. -/
def compact : Json -> String
  | null => "null"
  | boolean value => if value then "true" else "false"
  | integer value => toString value
  | float value => writtenFloat value
  | string text => writtenString text
  | list items => "[" ++ String.intercalate "," (compactItems items) ++ "]"
  | object fields => "\x7b" ++ String.intercalate "," (compactFields fields) ++ "\x7d"

/-- The texts of all items. -/
def compactItems : List Json -> List String
  | [] => []
  | item :: rest => item.compact :: compactItems rest

/-- The texts of all fields, each with its name and a colon. -/
def compactFields : List (String × Json) -> List String
  | [] => []
  | (name, value) :: rest => (writtenString name ++ ":" ++ value.compact) :: compactFields rest

end

end Json
end ThemedStyles
