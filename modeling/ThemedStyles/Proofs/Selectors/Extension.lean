import ThemedStyles.Proofs.Rules.Nesting
import ThemedStyles.Proofs.Selectors.Classes

namespace ThemedStyles

/-!
# Selectors that begin with their root

Whatever the keys of a body are, nesting never leads in front of its root.  A key with
a marker begins with the selector of its parent, since its first character is the
marker; a plain key is put behind its parent, or begins with it already.

The parent may have become a list on the way.  Then the key is converted under each
entry, and the result begins with what its first entry has become.  Only that entry
is known to begin with the root; `& > a, b` leads below a root and beside it.  And it
does so only if the root is not cut itself, where blanks at its ends would be trimmed
off.  Its brackets need not match: a bracket that stays open keeps every comma behind
it from being a cut.
-/

namespace Selector

/-- A selector that is no list and has no blanks at its ends. -/
structure IsRoot (root : List Char) : Prop where
  nonempty : root ≠ []
  trimmed : Text.trim root = root
  single : (entries root).length = 1

instance (root : List Char) : Decidable (IsRoot root) :=
  decidable_of_iff (root ≠ [] ∧ Text.trim root = root ∧ (entries root).length = 1)
    ⟨fun ⟨nonempty, trimmed, single⟩ => ⟨nonempty, trimmed, single⟩,
      fun isRoot => ⟨isRoot.nonempty, isRoot.trimmed, isRoot.single⟩⟩

variable {root : List Char}

/-- No comma of a root is a cut. -/
theorem IsRoot.exists_depthBehind (isRoot : IsRoot root) :
    ∃ behind, depthBehind? [','] 0 root = some behind := by
  have cut := isCut_cutAtCommas 0 root
  rw [cutAtCommas_of_single isRoot.single.le] at cut
  cases cut with
  | last whole => exact ⟨_, whole⟩
  | cons _ later => exact absurd rfl later.ne_nil

/-- Where a selector begins with the root, so does its first entry. -/
theorem IsRoot.prefix_first_entry (isRoot : IsRoot root) {selector : List Char}
    (begins : root <+: selector) :
    ∃ first rest, entries selector = first :: rest ∧ root <+: first := by
  rcases begins with ⟨tail, rfl⟩
  rcases isRoot.exists_depthBehind with ⟨behind, whole⟩
  rcases List.exists_cons_of_ne_nil (cutAtCommas_ne_nil behind tail) with ⟨piece, pieces, cut⟩
  refine ⟨Text.trim (root ++ piece), pieces.map Text.trim, ?_, ?_⟩
  · rw [entries, cutAtCommas_append (List.mem_singleton_self ',') whole, cut, List.modifyHead_cons,
      List.map_cons]
  · exact Text.prefix_trim [] (by simp) isRoot.trimmed isRoot.nonempty piece

end Selector

namespace Key

open Selector

theorem exists_marker_of_kind {key : List Char} (marked : kind key ≠ .plain) :
    ∃ marker, marker ∈ markers ∧ key.head? = some marker := by
  unfold kind at marked
  split at marked
  · exact ⟨'&', by simp [markers], rfl⟩
  · exact ⟨'!', by simp [markers], rfl⟩
  · exact ⟨'?', by simp [markers], rfl⟩
  · exact absurd rfl marked

/-- Under a single entry, every key becomes a selector that begins with the entry. -/
theorem prefix_underEntry (key : List Char) {entry : List Char} (nonempty : entry ≠ []) :
    entry <+: underEntry key entry := by
  by_cases plain : kind key = .plain
  · rw [underEntry, plain]
    dsimp only
    split
    · rename_i writtenOut
      rw [Bool.and_eq_true, List.isPrefixOf_iff_prefix] at writtenOut
      exact writtenOut.2
    · rw [below, if_neg (by simpa using nonempty)]
      exact List.prefix_append entry _
  · rcases exists_marker_of_kind plain with ⟨marker, isMarker, first⟩
    rcases underEntry_of_marked isMarker first nonempty with ⟨suffix, _, selector_eq⟩
    rcases List.head?_eq_some_iff.mp first with ⟨tail, rfl⟩
    rw [selector_eq, substituted_cons_self, List.append_assoc]
    exact List.prefix_append entry _

/-- Every key leads from a selector that begins with a root to one that begins with
the same root.  This is the step of the law for nested bodies. -/
theorem prefix_selectorChars {root : List Char} (isRoot : IsRoot root) (key : List Char)
    {parent : List Char} (begins : root <+: parent) : root <+: selectorChars key parent := by
  have extends_of_begins : forall {entry : List Char}, root <+: entry ->
      root <+: underEntry key entry := by
    intro entry entryBegins
    have nonempty : entry ≠ [] := fun empty =>
      isRoot.nonempty (List.prefix_nil.mp (empty ▸ entryBegins))
    exact entryBegins.trans (prefix_underEntry key nonempty)
  rcases isRoot.prefix_first_entry begins with ⟨first, rest, parents, firstBegins⟩
  unfold selectorChars
  rw [parents]
  dsimp only
  split
  · rename_i writtenOut
    rcases (isWrittenOut_iff key (first :: rest)).mp writtenOut with ⟨_, _, first_eq, begun⟩
    rw [List.head?_cons, Option.some.injEq] at first_eq
    subst first_eq
    exact firstBegins.trans begun.2
  · split
    · rw [List.map_cons]
      exact (extends_of_begins firstBegins).trans (prefix_joined _ _)
    · exact extends_of_begins begins

theorem prefix_selector {root key parent : String} (isRoot : IsRoot root.toList)
    (begins : root.toList <+: parent.toList) : root.toList <+: (selector key parent).toList := by
  rw [selector, String.toList_ofList]
  exact prefix_selectorChars isRoot key.toList begins

end Key

namespace Rules

/-- Every selector that a body reaches begins with the selector of the body, whatever
the keys of the body and of the bodies nested in it are, provided that the selector of
the body is no list and has no blanks at its ends. -/
theorem nested_selectors_extend_root (known : PropertySet) (root : String) (body : Book)
    (isRoot : Selector.IsRoot root.toList) :
    forall selector, selector ∈ Entries.keys (flatten known [] root body) ->
      root.toList <+: selector.toList :=
  keys_flatten_preserve known (fun selector => root.toList <+: selector.toList)
    (fun _ _ _ begins => Key.prefix_selector isRoot begins)
    (fun _ old => absurd old List.not_mem_nil) (List.prefix_refl root.toList)

/-- A key that adds an entry of its own, a class below both entries, and a key that
leaves a bracket open so that the next comma is no cut. -/
theorem entries_beside_card_begin_with_card :
    let body : Book :=
      [("&:hover, .panel", .book [("icon", .book []), ("&:is(a", .book [("&, b", .book [])])])]
    let selector := ".card:hover .icon, .panel .icon"
    let unclosed := ".card:hover:is(a, .panel:is(a, b"
    Selector.IsRoot ".card".toList ∧
      (selector ∈ Entries.keys (flatten PropertySet.empty [] ".card" body) ∧
        ".card".toList <+: selector.toList) ∧
      unclosed ∈ Entries.keys (flatten PropertySet.empty [] ".card" body) ∧
        ".card".toList <+: unclosed.toList := by
  intro body selector unclosed
  have isRoot : Selector.IsRoot ".card".toList := by decide +kernel
  have reached : selector ∈ Entries.keys (flatten PropertySet.empty [] ".card" body) := by
    decide +kernel
  have reachedUnclosed : unclosed ∈ Entries.keys (flatten PropertySet.empty [] ".card" body) := by
    decide +kernel
  have extend := nested_selectors_extend_root PropertySet.empty ".card" body isRoot
  exact ⟨isRoot, ⟨reached, extend selector reached⟩, reachedUnclosed,
    extend unclosed reachedUnclosed⟩

end Rules
end ThemedStyles
