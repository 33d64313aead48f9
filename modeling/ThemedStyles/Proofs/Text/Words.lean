import ThemedStyles.Text.Blank

namespace ThemedStyles
namespace Text

/-!
# Words of joined texts

A blank between two texts ends the last word of the first and begins the first
word of the second.  So the words of the whole are the words of the one and the
words of the other, whatever blanks there are in either.  Words that are joined
with a space between them are found again.
-/

theorem splitWhere_ne_nil (cut : Char -> Bool) (text : List Char) : splitWhere cut text ≠ [] := by
  cases text with
  | nil => exact List.cons_ne_nil _ _
  | cons char rest =>
      rw [splitWhere]
      split
      · exact List.cons_ne_nil _ _
      · split <;> exact List.cons_ne_nil _ _

/-- A text is cut at the character between its two parts. -/
theorem splitWhere_append_cons {cut : Char -> Bool} {char : Char} (cuts : cut char = true)
    (first rest : List Char) :
    splitWhere cut (first ++ char :: rest) = splitWhere cut first ++ splitWhere cut rest := by
  induction first with
  | nil => simp [splitWhere, cuts]
  | cons other first inductionHypothesis =>
      rw [List.cons_append, splitWhere, splitWhere, inductionHypothesis]
      split
      · rfl
      · cases parts : splitWhere cut first with
        | nil => exact absurd parts (splitWhere_ne_nil cut first)
        | cons part parts => rfl

theorem words_append_space (first rest : String) :
    words (first ++ " " ++ rest) = words first ++ words rest := by
  have chars : (first ++ " " ++ rest).toList = first.toList ++ ' ' :: rest.toList := by simp
  rw [words, chars, splitWhere_append_cons (by decide), List.filter_append, List.map_append]
  rfl

/-- Words with a space between them are the words of the joined text. -/
theorem words_intercalate {parts : List String}
    (single : forall part, part ∈ parts -> words part = [part]) :
    words (" ".intercalate parts) = parts := by
  induction parts with
  | nil =>
      rw [String.intercalate_nil]
      rfl
  | cons part rest inductionHypothesis =>
      have here := single part List.mem_cons_self
      have later := inductionHypothesis fun other member =>
        single other (List.mem_cons_of_mem _ member)
      cases rest with
      | nil => rw [String.intercalate_singleton, here]
      | cons next rest =>
          rw [String.intercalate_cons_cons, words_append_space, here, later]
          rfl

end Text
end ThemedStyles
