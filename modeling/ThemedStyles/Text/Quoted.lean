import ThemedStyles.Text.Hidden

namespace ThemedStyles
namespace Text

/-!
# Quoted texts and listings in diagnostics

A diagnostic description of a registry or an observer shows names in double
quotes.  Quotes and backslashes are preceded by a backslash, the common
controls have a letter each, and any other hidden character is shown by its
code in braces.
-/

/-- The hexadecimal digits of a number, in small letters and without leading zeros. -/
def hexDigits (number : Nat) : List Char := Nat.toDigits 16 number

/-- How one character is shown between the quotes. -/
def quotedChar (char : Char) : List Char :=
  if char = '"' then ['\\', '"']
  else if char = '\\' then ['\\', '\\']
  else if char = '\n' then ['\\', 'n']
  else if char = '\t' then ['\\', 't']
  else if char = '\r' then ['\\', 'r']
  else if char.toNat = 0 then ['\\', '0']
  else if isHidden char then ['\\', 'u', '\x7b'] ++ hexDigits char.toNat ++ ['\x7d']
  else [char]

/-- The text in double quotes. -/
def quoted (text : String) : String :=
  String.ofList ('"' :: text.toList.flatMap quotedChar ++ ['"'])

/-- Quoted texts in square brackets, with commas between them. -/
def quotedList (texts : List String) : String :=
  "[" ++ String.intercalate ", " (texts.map quoted) ++ "]"

/-- A value that may be missing, as it is shown in a description. -/
def optional (value : Option String) : String :=
  match value with
  | some shown => "Some(" ++ shown ++ ")"
  | none => "None"

/-- A description of a record: its name, then its fields in braces. -/
def described (name : String) (fields : List (String × String)) : String :=
  let shown := fields.map fun field => field.1 ++ ": " ++ field.2
  name ++ " \x7b " ++ String.intercalate ", " shown ++ " \x7d"

end Text
end ThemedStyles
