import ThemedStyles.Proofs.Selectors.Lists
import ThemedStyles.Selector.Key

namespace ThemedStyles
namespace Key

/-!
# Texts put in the place of a marker

A key that carries a marker becomes a selector by substitution.  Where the text
put in is an entry, brackets and commas of the key keep their roles: the depth
behind the substituted key is that behind the key, and its pieces are the
substituted pieces of the key.  So the entries of a selector can be read off the
entries of its key, however often the marker occurs in them.
-/

open Selector

/-- The characters by which a key says where its scope goes. -/
def markers : List Char := ['&', '!', '?']

theorem mem_markers {char : Char} : char ∈ markers ↔ char = '&' ∨ char = '!' ∨ char = '?' := by
  simp [markers]

theorem not_mem_delimiters_of_mem_markers {marker : Char} (member : marker ∈ markers) :
    marker ∉ delimiters := by
  rcases mem_markers.mp member with rfl | rfl | rfl <;> decide

theorem isBlank_of_mem_markers {marker : Char} (member : marker ∈ markers) :
    Text.isBlank marker = false := by
  rcases mem_markers.mp member with rfl | rfl | rfl <;> decide

section Substituted

variable {marker : Char}

@[simp] theorem substituted_nil (marker : Char) (text : List Char) :
    substituted marker text [] = [] := rfl

theorem substituted_cons_self (text rest : List Char) :
    substituted marker text (marker :: rest) = text ++ substituted marker text rest := by
  simp [substituted]

theorem substituted_cons_of_ne {char : Char} (different : char ≠ marker) (text rest : List Char) :
    substituted marker text (char :: rest) = char :: substituted marker text rest := by
  simp [substituted, different]

theorem substituted_append (text first second : List Char) :
    substituted marker text (first ++ second) =
      substituted marker text first ++ substituted marker text second :=
  List.flatMap_append

theorem substituted_of_not_mem (text : List Char) {key : List Char} (absent : marker ∉ key) :
    substituted marker text key = key := by
  induction key with
  | nil => rfl
  | cons char rest inductionHypothesis =>
      rw [List.mem_cons, not_or] at absent
      rw [substituted_cons_of_ne (Ne.symm absent.1), inductionHypothesis absent.2]

/-- A character of a substituted key comes from the text or from the key. -/
theorem mem_substituted {text key : List Char} {char : Char}
    (member : char ∈ substituted marker text key) : char ∈ text ∨ char ∈ key ∧ char ≠ marker := by
  rcases List.mem_flatMap.mp member with ⟨origin, present, member⟩
  by_cases same : origin = marker
  · rw [if_pos same] at member
    exact Or.inl member
  · rw [if_neg same, List.mem_singleton] at member
    subst member
    exact Or.inr ⟨present, same⟩

variable {text : List Char}

/-- The depth behind a substituted key is that behind the key. -/
theorem depthBehind?_substituted (neutral : marker ∉ delimiters) (entry : IsEntry text)
    (key : List Char) (depth : Nat) :
    depthBehind? [')', ']'] depth (substituted marker text key) =
      depthBehind? [')', ']'] depth key := by
  induction key generalizing depth with
  | nil => rfl
  | cons char rest inductionHypothesis =>
      by_cases same : char = marker
      · have put : depthBehind? [')', ']'] depth text = some depth :=
          depthBehind?_of_subset (by simp) (entry.depthBehind? depth)
        have unbarred : ¬ (depth = 0 ∧ marker ∈ [')', ']']) := fun barred =>
          neutral ((show [')', ']'] ⊆ delimiters by simp [delimiters]) barred.2)
        rw [same, substituted_cons_self, depthBehind?_append, put, Option.bind_some,
          inductionHypothesis, depthBehind?, if_neg unbarred, depthAfter_of_not_mem neutral]
      · rw [substituted_cons_of_ne same, depthBehind?, depthBehind?]
        split
        · rfl
        · exact inductionHypothesis _

theorem balanced_substituted (neutral : marker ∉ delimiters) (entry : IsEntry text)
    {key : List Char} (balanced : Balanced key) : Balanced (substituted marker text key) :=
  (depthBehind?_substituted neutral entry key 0).trans balanced

/-- The pieces of a substituted key are the substituted pieces of the key. -/
theorem cutAtCommas_substituted (neutral : marker ∉ delimiters) (entry : IsEntry text)
    (key : List Char) (depth : Nat) :
    cutAtCommas depth (substituted marker text key) =
      (cutAtCommas depth key).map (substituted marker text) := by
  induction key generalizing depth with
  | nil => rfl
  | cons char rest inductionHypothesis =>
      by_cases same : char = marker
      · have uncut : ¬ (marker = ',' ∧ depth = 0) := fun cut =>
          neutral (by simp [cut.1, delimiters])
        rw [same, substituted_cons_self, cutAtCommas_append (by simp) (entry.depthBehind? depth),
          inductionHypothesis, cutAtCommas_cons uncut, depthAfter_of_not_mem neutral,
          map_modifyHead (substituted_cons_self text)]
      · rw [substituted_cons_of_ne same]
        by_cases cut : char = ',' ∧ depth = 0
        · rw [cut.1, cut.2, cutAtCommas_cons_of_cut, cutAtCommas_cons_of_cut,
            inductionHypothesis, List.map_cons, substituted_nil]
        · rw [cutAtCommas_cons cut, cutAtCommas_cons cut, inductionHypothesis,
            map_modifyHead (substituted_cons_of_ne same text)]

end Substituted

/-- Where every entry of a key begins with the marker, every entry of the
substituted key begins with what the text begins with. -/
theorem prefix_of_mem_entries_substituted {marker : Char} (isMarker : marker ∈ markers)
    {start rest : List Char} (trimmed : Text.trim start = start) (nonempty : start ≠ [])
    (entry : IsEntry (start ++ rest))
    {key : List Char} (marked : forall part, part ∈ entries key -> part.head? = some marker)
    {part : List Char} (member : part ∈ entries (substituted marker (start ++ rest) key)) :
    start <+: part := by
  have neutral := not_mem_delimiters_of_mem_markers isMarker
  rw [entries, cutAtCommas_substituted neutral entry, List.map_map] at member
  rcases List.mem_map.mp member with ⟨piece, cut, rfl⟩
  have begins := marked (Text.trim piece) (List.mem_map_of_mem cut)
  rcases Text.exists_eq_append_trim piece with ⟨before, after, split, beforeBlank, _⟩
  rcases List.head?_eq_some_iff.mp begins with ⟨tail, tail_eq⟩
  have unmarked : marker ∉ before := fun present =>
    Bool.false_ne_true ((isBlank_of_mem_markers isMarker).symm.trans (beforeBlank marker present))
  have shape : substituted marker (start ++ rest) piece =
      before ++ (start ++ (rest ++ substituted marker (start ++ rest) (tail ++ after))) := by
    rw [split, tail_eq, substituted_append, substituted_of_not_mem _ unmarked, List.cons_append,
      substituted_cons_self, List.append_assoc]
  rw [Function.comp_apply, shape]
  exact Text.prefix_trim before beforeBlank trimmed nonempty _

theorem kind_of_marked {marker : Char} (isMarker : marker ∈ markers) {key : List Char}
    (first : key.head? = some marker) : kind key ≠ .plain := by
  rcases List.head?_eq_some_iff.mp first with ⟨tail, rfl⟩
  rcases mem_markers.mp isMarker with rfl | rfl | rfl <;> exact Kind.noConfusion

/-- Under a single entry, a key with a marker puts the entry in the place of the
marker, with a blank or a class dot behind it as the marker has it. -/
theorem underEntry_of_marked {marker : Char} (isMarker : marker ∈ markers) {key : List Char}
    (first : key.head? = some marker) {entry : List Char} (nonempty : entry ≠ []) :
    ∃ suffix, (forall char, char ∈ suffix -> char = ' ' ∨ char = '.') ∧
      underEntry key entry = substituted marker (entry ++ suffix) key := by
  rcases List.head?_eq_some_iff.mp first with ⟨tail, rfl⟩
  have descends : forall rest, below entry rest = entry ++ ' ' :: rest := fun rest =>
    if_neg (by simpa using nonempty)
  rcases mem_markers.mp isMarker with rfl | rfl | rfl
  · exact ⟨[], by simp, by rw [List.append_nil]; rfl⟩
  · exact ⟨[' ', '.'], by simp, by rw [← descends]; rfl⟩
  · exact ⟨[' '], by simp, by rw [← descends]; rfl⟩

end Key
end ThemedStyles
