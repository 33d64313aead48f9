import ThemedStyles.Json.Number

namespace ThemedStyles
namespace Json

/-!
# Reading JSON texts

Reading is strict: no comments, no trailing commas or text, no byte order mark.
It has two stages.  The first follows the grammar and yields a draft, in which a
number out of range and a string with half of a surrogate pair are still holes.
The second turns a draft into a value, refusing holes and nesting beyond a
limit.  A reader that skips a part of the text, such as an unknown setting,
needs the grammar of that part only and so leaves it a draft.
-/

/-- A text that follows the grammar.  A hole is a scalar without a value. -/
inductive Draft where
  | scalar (value : Option Json)
  | list (items : List Draft)
  | object (fields : List (Option String × Draft))
deriving Inhabited

/-- How many lists and objects may lie within each other. -/
def nestingLimit : Nat := 127

/-! ## The grammar -/

/-- Drop spaces, tabs and line ends. -/
def skipSpace (chars : List Char) : List Char :=
  chars.dropWhile fun char => char = ' ' || char = '\t' || char = '\n' || char = '\r'

/-- A piece of a string: a character, or a 16-bit code given by an escape. -/
inductive Piece where
  | char (char : Char)
  | code (unit : Nat)

/-- The value of a hexadecimal digit. -/
def hexValue? (digit : Char) : Option Nat :=
  if digit.isDigit then some (digit.toNat - 48)
  else if 'a' ≤ digit ∧ digit ≤ 'f' then some (digit.toNat - 87)
  else if 'A' ≤ digit ∧ digit ≤ 'F' then some (digit.toNat - 55)
  else none

/-- The value of a run of hexadecimal digits. -/
def hexNumber? (digits : List Char) : Option Nat :=
  digits.foldlM (fun value digit => (hexValue? digit).map (value * 16 + ·)) 0

/-- The characters with an escape of one letter. -/
def escapedChar? : Char -> Option Char
  | '"' => some '"'
  | '\\' => some '\\'
  | '/' => some '/'
  | 'b' => some '\x08'
  | 'f' => some '\x0c'
  | 'n' => some '\n'
  | 'r' => some '\r'
  | 't' => some '\t'
  | _ => none

/-- The pieces of a string up to its closing quote, and the text behind it. -/
def stringPieces? : List Char -> Option (List Piece × List Char)
  | [] => none
  | '"' :: rest => some ([], rest)
  | '\\' :: 'u' :: first :: second :: third :: fourth :: rest => do
      let unit ← hexNumber? [first, second, third, fourth]
      let (pieces, tail) ← stringPieces? rest
      some (.code unit :: pieces, tail)
  | '\\' :: letter :: rest => do
      let char ← escapedChar? letter
      let (pieces, tail) ← stringPieces? rest
      some (.char char :: pieces, tail)
  | char :: rest => do
      if char.toNat < 0x20 then none
      let (pieces, tail) ← stringPieces? rest
      some (.char char :: pieces, tail)

/-- Put the pieces together.  A high surrogate needs a low one right behind it,
and a low one never stands alone. -/
def assemble? : List Piece -> Option (List Char)
  | [] => some []
  | .char char :: rest => (assemble? rest).map (char :: ·)
  | .code unit :: rest =>
      if unit < 0xD800 ∨ 0xDFFF < unit then (assemble? rest).map (Char.ofNat unit :: ·)
      else match rest with
        | .code low :: tail =>
            if unit < 0xDC00 ∧ 0xDC00 ≤ low ∧ low ≤ 0xDFFF then
              (assemble? tail).map
                (Char.ofNat (0x10000 + (unit - 0xD800) * 0x400 + (low - 0xDC00)) :: ·)
            else none
        | _ => none

/-- A string behind its opening quote; its content is a hole when the pieces
do not fit together. -/
def stringAt? (chars : List Char) : Option (Option String × List Char) :=
  (stringPieces? chars).map fun (pieces, rest) => ((assemble? pieces).map String.ofList, rest)

/-- At least one digit, and what follows the digits. -/
def digitsAt? (chars : List Char) : Option (List Char × List Char) :=
  let digits := chars.takeWhile Char.isDigit
  if digits.isEmpty then none else some (digits, chars.dropWhile Char.isDigit)

/-- The optional fraction of a number. -/
def fractionAt? : List Char -> Option (Option (List Char) × List Char)
  | '.' :: rest => (digitsAt? rest).map fun (digits, tail) => (some digits, tail)
  | chars => some (none, chars)

/-- The optional exponent of a number. -/
def exponentAt? : List Char -> Option (Option Int × List Char)
  | mark :: rest =>
      if mark = 'e' ∨ mark = 'E' then do
        let (negative, unsigned) := match rest with
          | '+' :: tail => (false, tail)
          | '-' :: tail => (true, tail)
          | _ => (false, rest)
        let (digits, tail) ← digitsAt? unsigned
        let size : Int := Binary64.digitsValue digits
        some (some (if negative then -size else size), tail)
      else some (none, mark :: rest)
  | [] => some (none, [])

/-- A number.  Only the digit zero itself may begin with a zero. -/
def numberAt? (chars : List Char) : Option (NumberLiteral × List Char) := do
  let (negative, unsigned) := match chars with
    | '-' :: rest => (true, rest)
    | _ => (false, chars)
  let (whole, afterWhole) ← digitsAt? unsigned
  if whole.head? = some '0' ∧ 1 < whole.length then none
  let (fraction, afterFraction) ← fractionAt? afterWhole
  let (exponent, rest) ← exponentAt? afterFraction
  some (⟨negative, whole, fraction, exponent⟩, rest)

mutual

/-- A value at the start of the text, and what follows it.  Every step takes
at least one character, so fuel of twice the length of the text never runs out. -/
def draftAt? : (fuel : Nat) -> List Char -> Option (Draft × List Char)
  | 0, _ => none
  | fuel + 1, chars =>
      match skipSpace chars with
      | '\x7b' :: rest =>
          match skipSpace rest with
          | '\x7d' :: tail => some (.object [], tail)
          | _ => (fieldsAt? fuel rest).map fun (fields, tail) => (.object fields, tail)
      | '[' :: rest =>
          match skipSpace rest with
          | ']' :: tail => some (.list [], tail)
          | _ => (itemsAt? fuel rest).map fun (items, tail) => (.list items, tail)
      | '"' :: rest =>
          (stringAt? rest).map fun (content, tail) => (.scalar (content.map string), tail)
      | 't' :: 'r' :: 'u' :: 'e' :: rest => some (.scalar (some (boolean true)), rest)
      | 'f' :: 'a' :: 'l' :: 's' :: 'e' :: rest => some (.scalar (some (boolean false)), rest)
      | 'n' :: 'u' :: 'l' :: 'l' :: rest => some (.scalar (some null), rest)
      | start => (numberAt? start).map fun (literal, rest) => (.scalar literal.value?, rest)

/-- The fields of an object behind its brace, or behind a comma. -/
def fieldsAt? : (fuel : Nat) -> List Char -> Option (List (Option String × Draft) × List Char)
  | 0, _ => none
  | fuel + 1, chars =>
      match skipSpace chars with
      | '"' :: rest => do
          let (name, afterName) ← stringAt? rest
          match skipSpace afterName with
          | ':' :: start => do
              let (value, afterValue) ← draftAt? fuel start
              match skipSpace afterValue with
              | ',' :: next => do
                  let (fields, tail) ← fieldsAt? fuel next
                  some ((name, value) :: fields, tail)
              | '\x7d' :: tail => some ([(name, value)], tail)
              | _ => none
          | _ => none
      | _ => none

/-- The items of a list behind its bracket, or behind a comma. -/
def itemsAt? : (fuel : Nat) -> List Char -> Option (List Draft × List Char)
  | 0, _ => none
  | fuel + 1, chars => do
      let (item, afterItem) ← draftAt? fuel chars
      match skipSpace afterItem with
      | ',' :: next => do
          let (items, tail) ← itemsAt? fuel next
          some (item :: items, tail)
      | ']' :: tail => some ([item], tail)
      | _ => none

end

/-- The draft of a whole text. -/
def draft? (text : String) : Option Draft := do
  let chars := text.toList
  let (draft, rest) ← draftAt? (2 * chars.length + 2) chars
  if (skipSpace rest).isEmpty then some draft else none

/-! ## From drafts to values -/

namespace Draft

mutual

/-- The value of a draft with at most `depth` levels of nesting and no holes. -/
def value? : (depth : Nat) -> Draft -> Option Json
  | _, scalar value => value
  | 0, _ => none
  | depth + 1, list items => (values? depth items).map Json.list
  | depth + 1, object fields => (fieldValues? depth fields).map Json.object

/-- The values of all items. -/
def values? : (depth : Nat) -> List Draft -> Option (List Json)
  | _, [] => some []
  | depth, item :: rest => do
      let value ← item.value? depth
      let values ← values? depth rest
      some (value :: values)

/-- The values of all fields, whose names must be whole. -/
def fieldValues? : (depth : Nat) -> List (Option String × Draft) -> Option (List (String × Json))
  | _, [] => some []
  | depth, (name, item) :: rest => do
      let whole ← name
      let value ← item.value? depth
      let values ← fieldValues? depth rest
      some ((whole, value) :: values)

end

end Draft

/-- The value that a text denotes, with repeated fields as they are written. -/
def asWritten? (text : String) : Option Json := do
  let draft ← draft? text
  draft.value? nestingLimit

/-- The value that a text denotes. -/
def read? (text : String) : Option Json := (asWritten? text).map collapsed

end Json
end ThemedStyles
