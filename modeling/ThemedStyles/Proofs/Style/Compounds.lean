import ThemedStyles.Style

namespace ThemedStyles
namespace Value

/-!
# Compound values by their leaves

A book that stands for the value of a property is written as the texts of its entries,
with a space between them.  An entry may be such a book itself, and it may be without any
text; then it must not leave a space behind.

What is written depends on the leaves only, the texts and numbers at any depth, and not on
the books that they are gathered in.  Both facts come from one law: the text of two lists
of leaves is made of their two texts, where a list without leaves has no text and counts
for nothing.  An empty text is a leaf like any other, and the spaces around it stay.
-/

/-- A text or a number within a value. -/
inductive Leaf where
  | text (content : String)
  | number (value : Binary64)

/-- The text of a leaf in a stylesheet. -/
def Leaf.written : Leaf -> String
  | text content => content
  | number value => Binary64.Layout.positional.text value

mutual

/-- The leaves of a value, in the order in which they stand. -/
def leaves : Value -> List Leaf
  | text content => [.text content]
  | number value => [.number value]
  | book entries => leavesOf entries
  | absent => []

/-- The leaves of all entries. -/
def leavesOf : List (String × Value) -> List Leaf
  | [] => []
  | (_, value) :: rest => value.leaves ++ leavesOf rest

end

/-! ## Texts with a space between them -/

/-- Texts with a space between them, if there are any. -/
def spaced? : List String -> Option String
  | [] => none
  | texts => some (" ".intercalate texts)

theorem spaced?_eq_none_iff (texts : List String) : spaced? texts = none ↔ texts = [] := by
  cases texts <;> simp [spaced?]

theorem spaced?_eq_some_iff (texts : List String) (text : String) :
    spaced? texts = some text ↔ texts ≠ [] ∧ " ".intercalate texts = text := by
  cases texts <;> simp [spaced?]

/-- A list without texts leaves no space behind. -/
theorem spaced?_append (first rest : List String) :
    spaced? (first ++ rest) = (spaced? first).merge (· ++ " " ++ ·) (spaced? rest) := by
  cases first with
  | nil => exact Option.merge_none_left.symm
  | cons text texts =>
      cases rest with
      | nil =>
          rw [List.append_nil]
          exact Option.merge_none_right.symm
      | cons other others =>
          exact congrArg some (String.intercalate_append_of_ne_nil (List.cons_ne_nil text texts)
            (List.cons_ne_nil other others))

/-- A text, or none, by itself. -/
theorem spaced?_toList (text : Option String) : spaced? text.toList = text := by
  cases text with
  | none => rfl
  | some text => exact congrArg some String.intercalate_singleton

/-! ## The text of a value -/

theorem css?_book (entries : List (String × Value)) :
    (book entries).css? = spaced? (cssParts entries) := by
  rw [css?]
  cases cssParts entries <;> rfl

theorem cssParts_cons (key : String) (value : Value) (rest : List (String × Value)) :
    cssParts ((key, value) :: rest) = value.css?.toList ++ cssParts rest := by
  rw [cssParts]
  cases value.css? <;> rfl

mutual

theorem css?_eq_spaced? : forall value : Value,
    value.css? = spaced? (value.leaves.map Leaf.written)
  | text content => (spaced?_toList (some content)).symm
  | number value => (spaced?_toList (some (Binary64.Layout.positional.text value))).symm
  | absent => rfl
  | book entries => by rw [css?_book, leaves, spaced?_cssParts entries]

/-- Entries that are written one by one give what their leaves give together. -/
theorem spaced?_cssParts : forall entries : List (String × Value),
    spaced? (cssParts entries) = spaced? ((leavesOf entries).map Leaf.written)
  | [] => rfl
  | (key, value) :: rest => by
      rw [cssParts_cons, leavesOf, List.map_append, spaced?_append, spaced?_append,
        spaced?_toList, css?_eq_spaced? value, spaced?_cssParts rest]

end

/-- A value is written exactly if it has a leaf, at any depth.  Its text then consists of
the texts of its leaves in their order with a space between them, however they are gathered
in books, and whatever books without leaves stand among them. -/
theorem css?_leaf_by_leaf (value : Value) :
    (value.css? = none ↔ value.leaves = []) ∧
      forall text, value.css? = some text ↔
        value.leaves ≠ [] ∧ " ".intercalate (value.leaves.map Leaf.written) = text := by
  rw [css?_eq_spaced?, spaced?_eq_none_iff, List.map_eq_nil_iff]
  refine ⟨Iff.rfl, fun text => ?_⟩
  rw [spaced?_eq_some_iff, ne_eq, List.map_eq_nil_iff]

/-- A book of books without leaves vanishes, and an empty text does not. -/
example :
    (book [("a", .book [("b", .absent), ("c", .book [])]), ("d", .book [("e", ""), ("f", "x")]),
      ("g", .absent)]).css? = some " x" := by
  decide +kernel

end Value
end ThemedStyles
