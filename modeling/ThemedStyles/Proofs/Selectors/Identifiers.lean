import ThemedStyles.Proofs.Selectors.Substitution
import ThemedStyles.Proofs.Text.Casing

namespace ThemedStyles

/-!
# Characters of identifiers

An identifier consists of letters, digits, dashes and underscores, and so does
its class name.  None of them delimits entries or is a marker; a selector can
therefore take up an identifier and its class name as they are.  None of them is
blank either, so that a phrase which is an identifier has that one word.
-/

namespace Text

theorem splitWhere_of_forall {cut : Char -> Bool} {text : List Char}
    (unbroken : forall char, char ∈ text -> cut char = false) : splitWhere cut text = [text] := by
  induction text with
  | nil => rfl
  | cons char rest inductionHypothesis =>
      have here : cut char = false := unbroken char List.mem_cons_self
      have later := inductionHypothesis fun other member =>
        unbroken other (List.mem_cons_of_mem _ member)
      simp [splitWhere, here, later]

/-- A text without blanks is one word, unless it is empty. -/
theorem words_eq_singleton {text : String} (nonempty : text.toList ≠ [])
    (unbroken : forall char, char ∈ text.toList -> isBlank char = false) : words text = [text] := by
  simp [words, splitWhere_of_forall unbroken, nonempty]

end Text

namespace Key

open Selector

/-- A character of an identifier. -/
def inIdentifier (char : Char) : Bool := char.isAlphanum || char = '-' || char = '_'

theorem inIdentifier_of_mem {key : List Char} (identifier : isIdentifier key = true) {char : Char}
    (member : char ∈ key) : inIdentifier char = true := by
  rw [isIdentifier, Bool.and_eq_true] at identifier
  exact List.all_eq_true.mp identifier.2 char member

theorem inIdentifier_toLower {char : Char} (inside : inIdentifier char = true) :
    inIdentifier char.toLower = true := by
  simp only [inIdentifier, Bool.or_eq_true, decide_eq_true_eq] at inside ⊢
  rcases inside with (alphanumeric | rfl) | rfl
  · exact Or.inl (Or.inl ((Text.isAlphanum_toLower char).trans alphanumeric))
  · decide
  · decide

theorem not_mem_delimiters_of_inIdentifier {char : Char} (inside : inIdentifier char = true) :
    char ∉ delimiters := by
  intro member
  rcases mem_delimiters.mp member with rfl | rfl | rfl | rfl | rfl <;>
    exact absurd inside (by decide)

theorem not_mem_markers_of_inIdentifier {char : Char} (inside : inIdentifier char = true) :
    char ∉ markers := by
  intro member
  rcases mem_markers.mp member with rfl | rfl | rfl <;> exact absurd inside (by decide)

theorem code_of_range {char : Char} {least greatest : UInt32} (above : least ≤ char.val)
    (below : char.val ≤ greatest) : least.toNat ≤ char.toNat ∧ char.toNat ≤ greatest.toNat :=
  ⟨UInt32.le_iff_toNat_le.mp above, UInt32.le_iff_toNat_le.mp below⟩

theorem code_of_inIdentifier {char : Char} (inside : inIdentifier char = true) :
    45 ≤ char.toNat ∧ char.toNat ≤ 122 := by
  simp only [inIdentifier, Bool.or_eq_true, decide_eq_true_eq] at inside
  rcases inside with (alphanumeric | rfl) | rfl
  · rcases Bool.or_eq_true_iff.mp alphanumeric with letter | digit
    · rcases Bool.or_eq_true_iff.mp letter with upper | lower
      · have range := of_decide_eq_true upper
        have code : 65 ≤ char.toNat ∧ char.toNat ≤ 90 := code_of_range range.1 range.2
        omega
      · have range := Bool.and_eq_true_iff.mp lower
        have code : 97 ≤ char.toNat ∧ char.toNat ≤ 122 :=
          code_of_range (of_decide_eq_true range.1) (of_decide_eq_true range.2)
        omega
    · have range := Bool.and_eq_true_iff.mp digit
      have code : 48 ≤ char.toNat ∧ char.toNat ≤ 57 :=
        code_of_range (of_decide_eq_true range.1) (of_decide_eq_true range.2)
      omega
  · decide
  · decide

theorem isBlank_of_inIdentifier {char : Char} (inside : inIdentifier char = true) :
    Text.isBlank char = false := by
  have code := code_of_inIdentifier inside
  simp only [Text.isBlank, Bool.or_eq_false_iff, Bool.and_eq_false_iff, decide_eq_false_iff_not]
  omega

theorem ne_nil_of_isIdentifier {key : List Char} (identifier : isIdentifier key = true) :
    key ≠ [] := by
  rintro rfl
  exact Bool.noConfusion identifier

/-- An identifier is one word of a phrase. -/
theorem words_of_isIdentifier {key : String} (identifier : isIdentifier key.toList = true) :
    Text.words key = [key] :=
  Text.words_eq_singleton (ne_nil_of_isIdentifier identifier) fun _ member =>
    isBlank_of_inIdentifier (inIdentifier_of_mem identifier member)

theorem inIdentifier_openRuns {key : List Char}
    (inside : forall char, char ∈ key -> inIdentifier char = true) (opened : Bool) {char : Char}
    (member : char ∈ Text.openRuns opened key) : inIdentifier char = true := by
  induction key generalizing opened with
  | nil => exact absurd member List.not_mem_nil
  | cons first rest inductionHypothesis =>
      have here := inside first List.mem_cons_self
      have later := inductionHypothesis fun other present =>
        inside other (List.mem_cons_of_mem _ present)
      rw [Text.openRuns] at member
      split at member
      · split at member
        · rcases List.mem_cons.mp member with rfl | member
          · exact inIdentifier_toLower here
          · exact later true member
        · rcases List.mem_cons.mp member with rfl | member
          · decide
          · rcases List.mem_cons.mp member with rfl | member
            · exact inIdentifier_toLower here
            · exact later true member
      · rcases List.mem_cons.mp member with rfl | member
        · exact here
        · exact later false member

theorem inIdentifier_partDigits {key : List Char}
    (inside : forall char, char ∈ key -> inIdentifier char = true) {char : Char}
    (member : char ∈ Text.partDigits key) : inIdentifier char = true := by
  induction key with
  | nil => exact absurd member List.not_mem_nil
  | cons first rest inductionHypothesis =>
      have here := inside first List.mem_cons_self
      have later := inductionHypothesis fun other present =>
        inside other (List.mem_cons_of_mem _ present)
      rw [Text.partDigits] at member
      split at member
      · rcases List.mem_cons.mp member with rfl | member
        · exact here
        · rcases List.mem_cons.mp member with rfl | member
          · decide
          · exact later member
      · rcases List.mem_cons.mp member with rfl | member
        · exact here
        · exact later member

/-- The class name of an identifier consists of the characters of identifiers. -/
theorem inIdentifier_dashedChars {key : List Char} (identifier : isIdentifier key = true)
    {char : Char} (member : char ∈ Text.dashedChars key) : inIdentifier char = true :=
  inIdentifier_partDigits (fun _ opened => inIdentifier_openRuns
    (fun _ present => inIdentifier_of_mem identifier present) false opened) member

end Key
end ThemedStyles
