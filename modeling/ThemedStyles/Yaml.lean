import ThemedStyles.Binary64.Literal
import ThemedStyles.Json.Reader

namespace ThemedStyles

/-!
# YAML values

Themes and settings may also be written in YAML.  A plain scalar stays its
source text until somebody asks for its value, because that depends on the
place: in a theme `true` is a truth value, in a setting that is a text it is
the text.  A quoted scalar is a text everywhere.

What a plain scalar means as a value is decided in this order: nothing at all
and the words for null, the words for truth, whole numbers in four bases, other
numbers, and at last texts.  A run of digits that begins with a needless zero
is a text.
-/

/-- A node of a document.  A missing value is an empty plain scalar. -/
inductive Yaml where
  | plain (text : String)
  | quoted (text : String)
  | list (items : List Yaml)
  | mapping (entries : List (Yaml × Yaml))
deriving Inhabited

namespace Yaml

/-- The node of a missing value. -/
def missing : Yaml := plain ""

/-- The text of a scalar. -/
def text? : Yaml -> Option String
  | plain text => some text
  | quoted text => some text
  | _ => none

/-- The truth value of a plain scalar. -/
def truth? : Yaml -> Option Bool
  | plain text =>
      if ["true", "True", "TRUE"].contains text then some true
      else if ["false", "False", "FALSE"].contains text then some false
      else none
  | _ => none

/-! ## Numbers -/

/-- The value of digits in a base of at most sixteen. -/
def digitsIn? (base : Nat) (digits : List Char) : Option Nat :=
  if digits.isEmpty then none
  else
    digits.foldlM
      (fun value digit => do
        let worth ← Json.hexValue? digit
        if worth < base then some (value * base + worth) else none)
      0

/-- The value of a whole number without a sign. -/
def magnitude? : List Char -> Option Nat
  | '0' :: 'x' :: digits => digitsIn? 16 digits
  | '0' :: 'o' :: digits => digitsIn? 8 digits
  | '0' :: 'b' :: digits => digitsIn? 2 digits
  | digits => digitsIn? 10 digits

/-- The value of a whole number. -/
def wholeNumber? : List Char -> Option Int
  | '-' :: rest => (magnitude? rest).map fun size => -(size : Int)
  | '+' :: rest => (magnitude? rest).map Int.ofNat
  | chars => (magnitude? chars).map Int.ofNat

/-- Is this a run of decimal digits with a needless zero in front? -/
def isPadded (chars : List Char) : Bool :=
  let digits := match chars with
    | '-' :: rest => rest
    | '+' :: rest => rest
    | _ => chars
  1 < digits.length && digits.head? == some '0' && digits.all Char.isDigit

/-- The words for numbers that are not finite. -/
def boundlessWords : List String :=
  [".inf", ".Inf", ".INF", "+.inf", "+.Inf", "+.INF", "-.inf", "-.Inf", "-.INF", ".nan", ".NaN",
   ".NAN"]

/-- The value of a plain scalar that is neither null, a truth value nor a whole
number of at most 128 bits.  Numbers that are not finite have no JSON form. -/
def otherValue (text : String) : Json :=
  if boundlessWords.contains text then .null
  else match Binary64.ofLiteral? text.toList with
    | some number => if number.isFinite then .float number else .string text
    | none => .string text

/-- The value of a plain scalar.  Whole numbers that need more than 64 bits are
refused, but those that need more than 128 are not read as whole numbers. -/
def plainValue? (text : String) : Option Json :=
  if ["", "~", "null", "Null", "NULL"].contains text then some .null
  else match truth? (plain text) with
    | some value => some (.boolean value)
    | none =>
        if isPadded text.toList then some (.string text)
        else match wholeNumber? text.toList with
          | some value =>
              if -Int.pow 2 63 ≤ value ∧ value < Int.pow 2 64 then some (.integer value)
              else if -Int.pow 2 127 ≤ value ∧ value < Int.pow 2 128 then none
              else some (otherValue text)
          | none => some (otherValue text)

/-! ## Nodes as JSON values -/

/-- How many lists and mappings may lie within each other. -/
def nestingLimit : Nat := 128

mutual

/-- The JSON value of a node with at most `depth` levels of nesting, with
repeated keys as they are written. -/
def written? : (depth : Nat) -> Yaml -> Option Json
  | _, plain text => plainValue? text
  | _, quoted text => some (.string text)
  | 0, _ => none
  | depth + 1, list items => (writtenItems? depth items).map Json.list
  | depth + 1, mapping entries => (writtenEntries? depth entries).map Json.object

/-- The values of all items. -/
def writtenItems? : (depth : Nat) -> List Yaml -> Option (List Json)
  | _, [] => some []
  | depth, item :: rest => do
      let value ← item.written? depth
      let values ← writtenItems? depth rest
      some (value :: values)

/-- The values of all entries.  Keys must be scalars and are taken as texts. -/
def writtenEntries? : (depth : Nat) -> List (Yaml × Yaml) -> Option (List (String × Json))
  | _, [] => some []
  | depth, (key, item) :: rest => do
      let name ← key.text?
      let value ← item.written? depth
      let values ← writtenEntries? depth rest
      some ((name, value) :: values)

end

/-- The JSON value of a node with at most `depth` levels of nesting. -/
def toJson? (depth : Nat) (node : Yaml) : Option Json := (node.written? depth).map Json.collapsed

end Yaml
end ThemedStyles
