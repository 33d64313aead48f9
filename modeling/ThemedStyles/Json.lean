import ThemedStyles.Binary64
import ThemedStyles.Entries

namespace ThemedStyles

/-!
# JSON values

Themes, settings and style books are exchanged as JSON.  A value keeps the
order of its object fields.  A text may repeat a field name; the value read
from it lists the field twice, and `collapsed` is the value after every
repetition has replaced its predecessor in place.

Numbers that fit 64 bits, signed or unsigned, are integers.  All others are
binary floating-point numbers.
-/

/-- A JSON value. -/
inductive Json where
  | null
  | boolean (value : Bool)
  | integer (value : Int)
  | float (value : Binary64)
  | string (text : String)
  | list (items : List Json)
  | object (fields : List (String × Json))
deriving Inhabited

namespace Json

/-- Is this the null value? -/
def isNull : Json -> Bool
  | null => true
  | _ => false

mutual

/-- The value in which every repeated field has replaced its predecessor. -/
def collapsed : Json -> Json
  | list items => list (collapsedItems items)
  | object fields => object (Entries.ofPairs (collapsedFields fields))
  | other => other

/-- Collapse every item of a list. -/
def collapsedItems : List Json -> List Json
  | [] => []
  | item :: rest => item.collapsed :: collapsedItems rest

/-- Collapse every field value; the field names stay as they are. -/
def collapsedFields : List (String × Json) -> List (String × Json)
  | [] => []
  | (name, value) :: rest => (name, value.collapsed) :: collapsedFields rest

end

/-- The kinds of value that a document can have at its root. -/
inductive Kind where
  | null
  | boolean
  | number
  | string
  | list
  | object
deriving DecidableEq

/-- The kind of a value. -/
def kind : Json -> Kind
  | null => .null
  | boolean _ => .boolean
  | integer _ => .number
  | float _ => .number
  | string _ => .string
  | list _ => .list
  | object _ => .object

/-- The words for a kind in messages. -/
def Kind.words : Kind -> String
  | .null => "null"
  | .boolean => "a boolean"
  | .number => "a number"
  | .string => "a string"
  | .list => "a list"
  | .object => "a mapping"

/-- The fields of a record with these names.  An object gives its fields as
they are, so unknown ones are simply never looked up.  A list gives its items
in the order of the names and must not be longer. -/
def record? (names : List String) : Json -> Option (Entries Json)
  | object fields => some fields
  | list items => if items.length ≤ names.length then some (names.zip items) else none
  | _ => none

end Json
end ThemedStyles
