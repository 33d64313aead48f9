import ThemedStyles.Binary64.Literal
import ThemedStyles.Json
import ThemedStyles.Text.Blank

namespace ThemedStyles
namespace Json

/-!
# Pointers into JSON values

A pointer is the empty text, which denotes the whole value, or a sequence of
steps with a slash before each.  A step names a field of an object or counts an
item of a list.  Within a step `~1` stands for a slash and `~0` for a tilde.
-/

/-- Undo the escapes of a step. -/
def unescapedStep : List Char -> List Char
  | [] => []
  | '~' :: '1' :: rest => '/' :: unescapedStep rest
  | '~' :: '0' :: rest => '~' :: unescapedStep rest
  | char :: rest => char :: unescapedStep rest

/-- A count of items in plain decimal digits, without a sign or leading zeros. -/
def itemIndex? (step : List Char) : Option Nat :=
  if step.isEmpty || !step.all Char.isDigit then none
  else if step.head? = some '0' ∧ 1 < step.length then none
  else some (Binary64.digitsValue step)

/-- The value one step further. -/
def child? (value : Json) (step : List Char) : Option Json :=
  match value with
  | object fields => Entries.get? fields (String.ofList step)
  | list items => (itemIndex? step).bind fun index => items[index]?
  | _ => none

/-- The value at the end of a path of steps. -/
def descend? : Json -> List (List Char) -> Option Json
  | value, [] => some value
  | value, step :: rest => (child? value step).bind fun inner => descend? inner rest

/-- The part of a value that a pointer denotes. -/
def pointed? (value : Json) (pointer : String) : Option Json :=
  match pointer.toList with
  | [] => some value
  | '/' :: steps => descend? value ((Text.splitWhere (· = '/') steps).map unescapedStep)
  | _ => none

end Json
end ThemedStyles
