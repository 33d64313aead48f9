import ThemedStyles.Binary64.Shortest
import ThemedStyles.Entries

namespace ThemedStyles

/-!
# Style values and style books

A style book lists entries by key.  At its top level a key denotes a selector
and the value is its body.  Within a body an entry is a declaration of a
property, or the body of a nested selector.  An absent value stands for an
optional part that was not supplied; it never produces any text.
-/

/-- A value in a style book. -/
inductive Value where
  | text (content : String)
  | number (value : Binary64)
  | book (entries : List (String × Value))
  | absent
deriving Inhabited

/-- Values by key.  Their order decides the order of the written rules. -/
abbrev Book := Entries Value

namespace Value

instance : Coe String Value := ⟨Value.text⟩

instance : Coe (List (String × Value)) Value := ⟨Value.book⟩

instance (value : Nat) : OfNat Value value := ⟨.number (OfNat.ofNat value)⟩

instance : OfScientific Value :=
  ⟨fun digits negativeExponent exponent =>
    .number (OfScientific.ofScientific digits negativeExponent exponent)⟩

/-- Texts and numbers become declarations directly. -/
def isTerminal : Value -> Bool
  | text _ => true
  | number _ => true
  | _ => false

/-- Is this the absent value? -/
def isAbsent : Value -> Bool
  | absent => true
  | _ => false

/-- The entries of a book, `none` for any other value. -/
def book? : Value -> Option Book
  | book entries => some entries
  | _ => none

mutual

/-- The text of a value in a stylesheet.  A book is a compound value: the texts
of its entries with a space between them.  A value without any text has none. -/
def css? : Value -> Option String
  | text content => some content
  | number value => some (Binary64.Layout.positional.text value)
  | book entries =>
      match cssParts entries with
      | [] => none
      | parts => some (String.intercalate " " parts)
  | absent => none

/-- The texts of those entries that have one. -/
def cssParts : List (String × Value) -> List String
  | [] => []
  | (_, value) :: rest =>
      match value.css? with
      | some part => part :: cssParts rest
      | none => cssParts rest

end

mutual

/-- Equality of values.  Books are equal when they have the same entries in any
order; numbers are compared numerically. -/
def same : Value -> Value -> Bool
  | text content, text other => content == other
  | number value, number other => value.same other
  | book entries, book others => entries.length == others.length && allFound entries others
  | absent, absent => true
  | _, _ => false

/-- Does every entry have an equal one among the others? -/
def allFound : List (String × Value) -> List (String × Value) -> Bool
  | [], _ => true
  | (key, value) :: rest, others =>
      (match Entries.get? others key with
        | some other => value.same other
        | none => false) && allFound rest others

end

mutual

/-- The value in which every repeated key of a book has replaced its
predecessor. -/
def collapsed : Value -> Value
  | book entries => book (Entries.ofPairs (collapsedEntries entries))
  | other => other

/-- Collapse every entry; the keys stay as they are. -/
def collapsedEntries : List (String × Value) -> List (String × Value)
  | [] => []
  | (key, value) :: rest => (key, value.collapsed) :: collapsedEntries rest

end

end Value

namespace Book

/-- Equality of books: the same entries in any order. -/
def same (first second : Book) : Bool := Value.same (.book first) (.book second)

/-- The books put together from left to right, later values winning. -/
def merged (books : List Book) : Book := books.foldl Entries.putAll []

end Book
end ThemedStyles
