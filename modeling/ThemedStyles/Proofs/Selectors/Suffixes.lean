import ThemedStyles.Proofs.Selectors.Classes

namespace ThemedStyles

/-!
# Selectors that begin with their scope

Under the class of a theme or a bucket, a key says what stands behind the scope.
For an identifier, and for a key with its marker at the start only, that is a
text which does not depend on the scope: the selector is the scope followed by
the suffix of the key.  This is the same one level deeper, because a scope
followed by a suffix is again a selector that begins with a dot and has no
comma.

A raw key may carry its marker several times, and commas.  Then the scope comes
up inside of the selector as well, but the selector still begins with the scope
and a blank.
-/

namespace Selector

/-- A selector that begins with a class and is no list. -/
structure IsClassScope (scope : List Char) : Prop where
  dot : scope.head? = some '.'
  undivided : ',' ∉ scope

instance (scope : List Char) : Decidable (IsClassScope scope) :=
  decidable_of_iff (scope.head? = some '.' ∧ ',' ∉ scope)
    ⟨fun ⟨dot, undivided⟩ => ⟨dot, undivided⟩, fun isScope => ⟨isScope.dot, isScope.undivided⟩⟩

theorem cutAtCommas_of_not_mem {text : List Char} (undivided : ',' ∉ text) (depth : Nat) :
    cutAtCommas depth text = [text] := by
  induction text generalizing depth with
  | nil => rfl
  | cons char rest inductionHypothesis =>
      rw [List.mem_cons, not_or] at undivided
      have whole : ¬ (char = ',' ∧ depth = 0) := fun cut => undivided.1 cut.1.symm
      rw [cutAtCommas_cons whole, inductionHypothesis undivided.2, List.modifyHead_cons]

variable {scope : List Char}

theorem IsClassScope.ne_nil (isScope : IsClassScope scope) : scope ≠ [] := by
  rintro rfl
  exact absurd isScope.dot (by simp)

theorem IsClassScope.append (isScope : IsClassScope scope) {suffix : List Char}
    (undivided : ',' ∉ suffix) : IsClassScope (scope ++ suffix) where
  dot := by
    rw [List.head?_append, isScope.dot]
    rfl
  undivided member := (List.mem_append.mp member).elim isScope.undivided undivided

theorem IsClassScope.entries (isScope : IsClassScope scope) :
    entries scope = [Text.trim scope] := by
  rw [Selector.entries, cutAtCommas_of_not_mem isScope.undivided, List.map_singleton]

/-- Blanks at its ends do not take the dot away. -/
theorem IsClassScope.dot_prefix_trim (isScope : IsClassScope scope) :
    ['.'] <+: Text.trim scope := by
  rcases List.head?_eq_some_iff.mp isScope.dot with ⟨rest, rfl⟩
  exact Text.prefix_trim [] (by simp) (by decide) (by simp) rest

theorem IsClassScope.below (isScope : IsClassScope scope) (selector : List Char) :
    below scope selector = scope ++ ' ' :: selector :=
  if_neg (by simpa using isScope.ne_nil)

end Selector

namespace Key

open Selector

/-- An identifier, or a key that carries its marker at the start only and has no
comma. -/
def Appends : List Char -> Prop
  | [] => False
  | first :: rest =>
      isIdentifier (first :: rest) = true ∨ (first ∈ markers ∧ first ∉ rest ∧ ',' ∉ rest)

instance : (key : List Char) -> Decidable (Appends key)
  | [] => .isFalse id
  | first :: rest => inferInstanceAs (Decidable
      (isIdentifier (first :: rest) = true ∨ (first ∈ markers ∧ first ∉ rest ∧ ',' ∉ rest)))

/-- What a key puts behind its scope. -/
def suffixChars (key : List Char) : List Char :=
  match kind key with
  | .nested => key.tail
  | .rawClass => ' ' :: '.' :: key.tail
  | .rawSelector => ' ' :: key.tail
  | .plain => ' ' :: '.' :: Text.dashedChars key

/-- The suffix of a key, as a text. -/
def suffix (key : String) : String := String.ofList (suffixChars key.toList)

theorem dot_not_mem_of_isIdentifier {key : List Char} (identifier : isIdentifier key = true) :
    '.' ∉ key :=
  fun member => absurd (inIdentifier_of_mem identifier member) (by decide)

section

variable {scope key : List Char}

/-- A key that does not begin with a dot itself is not written out under a scope
that does. -/
theorem selectorChars_of_isClassScope (isScope : IsClassScope scope)
    (dotless : kind key = .plain -> '.' ∉ key) :
    selectorChars key scope = underEntry key scope := by
  have unwritten : ¬ isWrittenOut key [Text.trim scope] = true := by
    rw [isWrittenOut_iff]
    rintro ⟨plain, first, first_eq, begins⟩
    rw [List.head?_cons, Option.some.injEq] at first_eq
    subst first_eq
    have starts := isScope.dot_prefix_trim.trans begins.2
    exact dotless plain (starts.subset List.mem_cons_self)
  unfold selectorChars
  rw [isScope.entries, if_neg unwritten, if_neg (by simp)]

theorem underEntry_of_isIdentifier (isScope : IsClassScope scope)
    (identifier : isIdentifier key = true) :
    underEntry key scope = scope ++ ' ' :: '.' :: Text.dashedChars key := by
  have apart : ¬ BeginsWith key scope := fun begins =>
    dot_not_mem_of_isIdentifier identifier
      (begins.2.subset (List.mem_of_mem_head? isScope.dot))
  rw [underEntry_of_not_beginsWith identifier apart, isScope.below]

/-- Under a class scope, such keys put their suffix behind the scope. -/
theorem selectorChars_of_appends (isScope : IsClassScope scope) (appends : Appends key) :
    selectorChars key scope = scope ++ suffixChars key := by
  cases key with
  | nil => exact appends.elim
  | cons first rest =>
      rcases appends with identifier | ⟨isMarker, only, _⟩
      · have plain := kind_of_isIdentifier _ identifier
        rw [selectorChars_of_isClassScope isScope fun _ => dot_not_mem_of_isIdentifier identifier,
          underEntry_of_isIdentifier isScope identifier, suffixChars, plain]
      · have marked : kind (first :: rest) ≠ .plain := kind_of_marked isMarker rfl
        rw [selectorChars_of_isClassScope isScope fun plain => absurd plain marked]
        rcases mem_markers.mp isMarker with rfl | rfl | rfl
        · change substituted '&' scope ('&' :: rest) = scope ++ rest
          rw [substituted_cons_self, substituted_of_not_mem _ only]
        · change substituted '!' (below scope ['.']) ('!' :: rest) = scope ++ ' ' :: '.' :: rest
          rw [substituted_cons_self, substituted_of_not_mem _ only, isScope.below]
          simp
        · change substituted '?' (below scope []) ('?' :: rest) = scope ++ ' ' :: rest
          rw [substituted_cons_self, substituted_of_not_mem _ only, isScope.below]
          simp

theorem undivided_suffixChars (appends : Appends key) : ',' ∉ suffixChars key := by
  cases key with
  | nil => exact appends.elim
  | cons first rest =>
      rcases appends with identifier | ⟨isMarker, _, undivided⟩
      · rw [suffixChars, kind_of_isIdentifier _ identifier]
        intro member
        simp only [List.mem_cons, Char.reduceEq, false_or] at member
        exact absurd (inIdentifier_dashedChars identifier member) (by decide)
      · rcases mem_markers.mp isMarker with rfl | rfl | rfl <;>
          simpa [suffixChars, kind] using undivided

end

theorem undivided_suffix {key : String} (appends : Appends key.toList) :
    ',' ∉ (suffix key).toList := by
  rw [suffix, String.toList_ofList]
  exact undivided_suffixChars appends

/-- Behind a class scope with a suffix, the suffixes of keys add up. -/
theorem selector_of_appends {scope suffix key : String} (isScope : IsClassScope scope.toList)
    (undivided : ',' ∉ suffix.toList) (appends : Appends key.toList) :
    selector key (scope ++ suffix) = scope ++ (suffix ++ Key.suffix key) := by
  have parent : IsClassScope (scope ++ suffix).toList := by
    rw [String.toList_append]
    exact isScope.append undivided
  rw [selector, selectorChars_of_appends parent appends, String.ofList_append,
    String.ofList_toList, String.append_assoc]
  rfl

/-- An identifier or a raw key, with its marker wherever it likes. -/
def Descends (key : List Char) : Prop :=
  isIdentifier key = true ∨ key.head? = some '!' ∨ key.head? = some '?'

instance (key : List Char) : Decidable (Descends key) :=
  inferInstanceAs (Decidable (isIdentifier key = true ∨ key.head? = some '!' ∨
    key.head? = some '?'))

/-- Under a class scope, the selector of such a key begins with the scope and a
blank. -/
theorem exists_descent {scope key : List Char} (isScope : IsClassScope scope)
    (descends : Descends key) : ∃ rest, selectorChars key scope = scope ++ ' ' :: rest := by
  rcases descends with identifier | raw
  · rw [selectorChars_of_isClassScope isScope fun _ => dot_not_mem_of_isIdentifier identifier,
      underEntry_of_isIdentifier isScope identifier]
    exact ⟨_, rfl⟩
  · obtain ⟨marker, finish, isMarker, first, raised⟩ : ∃ marker finish, marker ∈ markers ∧
        key.head? = some marker ∧
        underEntry key scope = substituted marker (below scope finish) key := by
      rcases raw with raw | raw
      · rcases List.head?_eq_some_iff.mp raw with ⟨tail, rfl⟩
        exact ⟨'!', ['.'], by simp [markers], raw, rfl⟩
      · rcases List.head?_eq_some_iff.mp raw with ⟨tail, rfl⟩
        exact ⟨'?', [], by simp [markers], raw, rfl⟩
    have marked := kind_of_marked isMarker first
    rcases List.head?_eq_some_iff.mp first with ⟨tail, rfl⟩
    rw [selectorChars_of_isClassScope isScope fun plain => absurd plain marked, raised,
      substituted_cons_self, isScope.below, List.append_assoc, List.cons_append]
    exact ⟨_, rfl⟩

end Key
end ThemedStyles
