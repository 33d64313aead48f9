import ThemedStyles.Proofs.Selectors.Classes

namespace ThemedStyles

/-!
# Keys under joined lists

A selector list is put together with a comma and a blank between its parts, and taken apart
at its commas, with blanks trimmed off.  Parts that have no blanks at their ends, close the
brackets that they open, and have no comma outside of them come back as they were, empty
parts among them.

So a key under a joined list is the list of what it is under each part.  A part by itself is
its own only entry, and there the two ways in which a plain key counts as written out come to
the same.  In a list they do not: the whole key is written out where it begins with the first
part, and this is the one case that is excluded.  A bare `&` is no exception; it stands for
the list as for each part of it.
-/

namespace Selector

/-- A text that can be a part of a selector list. -/
structure IsPart (text : List Char) : Prop where
  trimmed : Text.trim text = text
  entry : IsEntry text

instance (text : List Char) : Decidable (IsPart text) :=
  decidable_of_iff (Text.trim text = text ∧ IsEntry text)
    ⟨fun ⟨trimmed, entry⟩ => ⟨trimmed, entry⟩, fun part => ⟨part.trimmed, part.entry⟩⟩

/-- A part is its own only entry. -/
theorem IsPart.entries {part : List Char} (isPart : IsPart part) : entries part = [part] := by
  rw [isPart.entry.entries, isPart.trimmed]

/-- Taking a joined list apart gives its parts. -/
theorem entries_joined_parts {parts : List (List Char)} (nonempty : parts ≠ [])
    (each : forall part, part ∈ parts -> IsPart part) : entries (joined parts) = parts := by
  have balanced : forall part, part ∈ parts -> Balanced part := fun part member =>
    (each part member).entry.balanced
  calc entries (joined parts)
      = parts.flatMap entries := entries_joined nonempty balanced
    _ = parts.flatMap fun part => [part] :=
        List.flatMap_congr fun part member => (each part member).entries
    _ = parts := List.flatMap_singleton' parts

end Selector

namespace Key

open Selector

/-- A bare `&` is what it stands under. -/
theorem underEntry_bare (scope : List Char) : underEntry ['&'] scope = scope := by
  rw [underEntry, show kind ['&'] = .nested from rfl]
  exact (substituted_cons_self scope []).trans (List.append_nil scope)

/-- Under a part, a key is what it is under a single entry. -/
theorem selectorChars_of_isPart (key : List Char) {part : List Char} (isPart : IsPart part) :
    selectorChars key part = underEntry key part := by
  unfold selectorChars
  rw [isPart.entries]
  dsimp only
  split
  · rename_i writtenOut
    rcases (isWrittenOut_iff key [part]).mp writtenOut with ⟨plain, first, first_eq, begins⟩
    obtain rfl : part = first := Option.some.inj first_eq
    exact (underEntry_of_writtenOut plain begins).symm
  · exact if_neg (by simp)

/-- Under joined parts, a key is what it is under each part.  What is taken as a single
entry is a list of one part, or stands under a bare key. -/
theorem selectorChars_joined {key : List Char} {parts : List (List Char)} (nonempty : parts ≠ [])
    (each : forall part, part ∈ parts -> IsPart part)
    (unwritten : isWrittenOut key parts = false) :
    selectorChars key (joined parts) = joined (parts.map (selectorChars key)) := by
  have under : parts.map (selectorChars key) = parts.map (underEntry key) :=
    List.map_congr_left fun part member => selectorChars_of_isPart key (each part member)
  rw [under, selectorChars, entries_joined_parts nonempty each,
    if_neg (Bool.eq_false_iff.mp unwritten)]
  split
  · rfl
  · rename_i whole
    rw [Bool.and_eq_true, decide_eq_true_eq, bne_iff_ne] at whole
    by_cases bare : key = ['&']
    · have itself : parts.map (underEntry ['&']) = parts := by
        rw [List.map_congr_left fun part _ => underEntry_bare part, List.map_id']
      rw [bare, underEntry_bare, itself]
    · have single : parts.length = 1 := by
        have positive := List.length_pos_iff.mpr nonempty
        have short : ¬ 1 < parts.length := fun long => whole ⟨long, bare⟩
        omega
      obtain ⟨part, rfl⟩ := List.length_eq_one_iff.mp single
      rw [List.map_singleton, joined, joined, List.intercalate_singleton,
        List.intercalate_singleton]

/-- A selector list is taken apart into the parts that it was joined from, if these have no
blanks at their ends, close the brackets that they open and no others, and have no comma
outside of brackets.  Then a key under the list is what it is under each part, joined in the
same way, whatever its kind, unless it is plain and begins with the first part while that is
not empty. -/
theorem selector_distributes {parts : List String} (nonempty : parts ≠ [])
    (each : forall part, part ∈ parts -> IsPart part.toList) :
    let scope := ", ".intercalate parts
    Selector.entries scope.toList = parts.map String.toList ∧
      forall key : String,
        ¬ (kind key.toList = .plain ∧
          ∃ first, parts.head? = some first ∧ first ≠ "" ∧ first.toList <+: key.toList) ->
        selector key scope = ", ".intercalate (parts.map (selector key)) := by
  intro scope
  have scope_eq : scope.toList = joined (parts.map String.toList) := String.toList_intercalate
  have charsNonempty : parts.map String.toList ≠ [] := by simpa using nonempty
  have charsEach : forall part, part ∈ parts.map String.toList -> IsPart part := by
    simpa using each
  refine ⟨by rw [scope_eq, entries_joined_parts charsNonempty charsEach], fun key apart => ?_⟩
  have unwritten : isWrittenOut key.toList (parts.map String.toList) = false := by
    rw [← Bool.not_eq_true, isWrittenOut_iff]
    rintro ⟨plain, _, head, filled, begins⟩
    rw [List.head?_map, Option.map_eq_some_iff] at head
    rcases head with ⟨first, head, rfl⟩
    exact apart ⟨plain, first, head, fun empty => filled (empty ▸ rfl), begins⟩
  rw [← String.toList_inj, selector, String.toList_ofList, scope_eq,
    selectorChars_joined charsNonempty charsEach unwritten, String.toList_intercalate,
    List.map_map, List.map_map]
  refine congrArg joined (List.map_congr_left fun part _ => ?_)
  exact String.toList_ofList.symm

/-- Keys of each kind under a class, an empty part, and a part with a comma in brackets. -/
theorem keys_below_light_and_brackets :
    let parts := [".light", "", ":is(.a, .b)"]
    let scope := ", ".intercalate parts
    let keys := ["icon", "&:hover, &", "&", "!Button-root", "?h1, ?h2"]
    (parts ≠ [] ∧ forall part, part ∈ parts -> IsPart part.toList) ∧
      Selector.entries scope.toList = parts.map String.toList ∧
      selector "icon" scope = ".light .icon, .icon, :is(.a, .b) .icon" ∧
      forall key, key ∈ keys ->
        selector key scope = ", ".intercalate (parts.map (selector key)) := by
  intro parts scope keys
  have nonempty : parts ≠ [] := List.cons_ne_nil _ _
  have each : forall part, part ∈ parts -> IsPart part.toList := by decide +kernel
  have unlike : forall key, key ∈ keys -> ¬ ".light".toList <+: key.toList := by decide +kernel
  rcases selector_distributes nonempty each with ⟨apart, distributes⟩
  have below : forall key, key ∈ keys ->
      selector key scope = ", ".intercalate (parts.map (selector key)) := by
    intro key member
    refine distributes key ?_
    rintro ⟨_, first, head, _, begins⟩
    obtain rfl : ".light" = first := Option.some.inj head
    exact unlike key member begins
  have icon := below "icon" (by decide +kernel)
  exact ⟨⟨nonempty, each⟩, apart, icon.trans (by decide +kernel), below⟩

end Key
end ThemedStyles
