import Mathlib.Data.List.DropRight
import ThemedStyles.Proofs.Selectors.Extension

namespace ThemedStyles

/-!
# Selectors converted once more

A selector that a key has become may be taken for a key again, under the same scope.
It then stays as it is.  What was a key with a marker comes back as a plain key, and
the entries of a list come back as one text; all of this is settled by how the text
begins.  The first entry of the scope is a root of its own, so whatever a key becomes
under the scope begins with that entry, and a plain key that does so is written out.

Three things can keep the text from being recognised, and are excluded below.  A blank
in front of the scope is trimmed off its first entry only, an empty first entry is
never looked for, and a scope that begins with a marker turns the result into a key
with that marker.
-/

namespace Text

theorem trim_trim (text : List Char) : trim (trim text) = trim text := by
  let rest := text.dropWhile isBlank
  have front : (rest.rdropWhile isBlank).dropWhile isBlank = rest.rdropWhile isBlank := by
    rw [List.dropWhile_eq_self_iff]
    intro nonempty
    have begins : rest.rdropWhile isBlank <+: rest := List.rdropWhile_prefix isBlank rest
    rw [begins.getElem nonempty]
    exact List.dropWhile_get_zero_not isBlank text (nonempty.trans_le begins.length_le)
  calc trim (trim text)
      = ((rest.rdropWhile isBlank).dropWhile isBlank).rdropWhile isBlank := rfl
    _ = (rest.rdropWhile isBlank).rdropWhile isBlank := by rw [front]
    _ = trim text := List.rdropWhile_idempotent isBlank rest

/-- Where a text has no blank in front, trimming shortens it at its end only. -/
theorem trim_begins {text : List Char} (unindented : text.head?.any isBlank = false) :
    trim text <+: text := by
  rcases exists_eq_append_trim text with ⟨before, after, split, blank, _⟩
  cases before with
  | nil => exact ⟨after, split.symm⟩
  | cons char more =>
      rw [split, List.cons_append, List.head?_cons, Option.any_some,
        blank char List.mem_cons_self] at unindented
      exact Bool.noConfusion unindented

end Text

namespace Selector

theorem head?_eq_of_begins {first text : List Char} (begins : first <+: text)
    (nonempty : first ≠ []) : text.head? = first.head? := by
  rcases List.exists_cons_of_ne_nil nonempty with ⟨char, more, rfl⟩
  rcases begins with ⟨tail, rfl⟩
  rfl

/-- The first entry of a selector is a root, unless it is empty. -/
theorem isRoot_of_first_entry {selector first : List Char} {rest : List (List Char)}
    (parts : entries selector = first :: rest) (nonempty : first ≠ []) : IsRoot first := by
  rcases List.map_eq_cons_iff.mp parts with ⟨piece, pieces, cut, rfl, _⟩
  have whole : ∃ behind, depthBehind? [','] 0 piece = some behind := by
    have isCut := isCut_cutAtCommas 0 selector
    rw [cut] at isCut
    cases isCut with
    | last whole => exact ⟨_, whole⟩
    | cons closed _ => exact ⟨0, closed⟩
  rcases whole with ⟨behind, whole⟩
  rw [← depthBehind?_trim (by simp [delimiters])] at whole
  refine ⟨nonempty, Text.trim_trim piece, ?_⟩
  rw [entries, cutAtCommas_of_whole (List.mem_singleton_self ',') whole, List.map_singleton,
    List.length_singleton]

/-- A selector begins with its first entry, unless there is a blank in front of it. -/
theorem begins_with_first_entry {selector first : List Char} {rest : List (List Char)}
    (parts : entries selector = first :: rest)
    (unindented : selector.head?.any Text.isBlank = false) : first <+: selector := by
  rcases List.map_eq_cons_iff.mp parts with ⟨piece, pieces, cut, rfl, _⟩
  have begins : piece <+: selector := by
    have whole := prefix_intercalate [','] piece pieces
    rwa [← cut, intercalate_cutAtCommas] at whole
  refine (Text.trim_begins ?_).trans begins
  cases piece with
  | nil => rfl
  | cons char more =>
      rcases begins with ⟨tail, rfl⟩
      exact unindented

end Selector

namespace Key

open Selector

theorem kind_eq_plain {key : List Char}
    (unmarked : forall char, key.head? = some char -> char ∉ markers) : kind key = .plain := by
  by_contra marked
  rcases exists_marker_of_kind marked with ⟨marker, isMarker, first⟩
  exact unmarked marker first isMarker

/-- Whatever a key becomes under a scope begins with the first entry of the scope. -/
theorem selectorChars_begins_with_first_entry (key : List Char) {scope first : List Char}
    {rest : List (List Char)} (parents : entries scope = first :: rest) (nonempty : first ≠ [])
    (unindented : scope.head?.any Text.isBlank = false) : first <+: selectorChars key scope :=
  prefix_selectorChars (isRoot_of_first_entry parents nonempty) key
    (begins_with_first_entry parents unindented)

/-- A text without a marker in front that begins with the first entry of the scope is
written out. -/
theorem selectorChars_of_begins {text scope first : List Char} {rest : List (List Char)}
    (parents : entries scope = first :: rest) (nonempty : first ≠ [])
    (unmarked : forall char, text.head? = some char -> char ∉ markers)
    (begins : first <+: text) : selectorChars text scope = text := by
  have writtenOut : isWrittenOut text (entries scope) = true :=
    (isWrittenOut_iff text (entries scope)).mpr
      ⟨kind_eq_plain unmarked, first, by rw [parents, List.head?_cons], nonempty, begins⟩
  exact if_pos writtenOut

/-- Taken for a key again under the same scope, a selector stays as it is.  This holds
for keys of every kind and for scopes that are lists, as long as the scope begins
neither with a blank nor with a marker and its first entry is not empty. -/
theorem selector_selector (key scope : String)
    (unindented : scope.toList.head?.any Text.isBlank = false)
    (nonempty : (entries scope.toList).head? ≠ some [])
    (unmarked : forall char, scope.toList.head? = some char -> char ∉ markers) :
    selector (selector key scope) scope = selector key scope := by
  rcases List.exists_cons_of_ne_nil (entries_ne_nil scope.toList) with ⟨first, rest, parents⟩
  have firstNonempty : first ≠ [] := by
    rintro rfl
    exact nonempty (by rw [parents, List.head?_cons])
  have begins := selectorChars_begins_with_first_entry key.toList parents firstNonempty unindented
  have scopeBegins := begins_with_first_entry parents unindented
  have sameHead : (selectorChars key.toList scope.toList).head? = scope.toList.head? :=
    (head?_eq_of_begins begins firstNonempty).trans
      (head?_eq_of_begins scopeBegins firstNonempty).symm
  have resultUnmarked : forall char, (selectorChars key.toList scope.toList).head? = some char ->
      char ∉ markers := fun char head => unmarked char (sameHead.symm.trans head)
  have stays := selectorChars_of_begins parents firstNonempty resultUnmarked begins
  rw [selector, selector, String.toList_ofList, stays]

/-- A key of each kind below two themes, and a state of a theme with brackets. -/
theorem selectors_below_light_and_dark_stay :
    let scope := ".light ,.dark:is(.a, .b)"
    (scope.toList.head?.any Text.isBlank = false ∧ (entries scope.toList).head? ≠ some [] ∧
      forall char, scope.toList.head? = some char -> char ∉ markers) ∧
    selector (selector "padSmall" scope) scope = selector "padSmall" scope ∧
    selector (selector "&:hover, &" scope) scope = selector "&:hover, &" scope ∧
    selector (selector "&" scope) scope = ".light ,.dark:is(.a, .b)" ∧
    selector (selector "!Button-root" scope) scope = selector "!Button-root" scope ∧
    selector (selector "?h1, ?h2" scope) scope = selector "?h1, ?h2" scope := by
  intro scope
  have unindented : scope.toList.head?.any Text.isBlank = false := by decide +kernel
  have nonempty : (entries scope.toList).head? ≠ some [] := by decide +kernel
  have unmarked : forall char, scope.toList.head? = some char -> char ∉ markers := by
    have head : scope.toList.head? = some '.' := by decide +kernel
    intro char char_eq
    obtain rfl : '.' = char := Option.some.inj (head.symm.trans char_eq)
    decide
  have stays := fun key => selector_selector key scope unindented nonempty unmarked
  have bare : selector "&" scope = ".light ,.dark:is(.a, .b)" := by decide +kernel
  exact ⟨⟨unindented, nonempty, unmarked⟩, stays "padSmall", stays "&:hover, &",
    (stays "&").trans bare, stays "!Button-root", stays "?h1, ?h2"⟩

end Key
end ThemedStyles
