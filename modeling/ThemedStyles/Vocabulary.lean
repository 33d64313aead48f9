import ThemedStyles.Entries
import ThemedStyles.Error
import ThemedStyles.Text.Blank
import ThemedStyles.Text.LetterCase

namespace ThemedStyles

/-!
# Class keys composed from label words

A vocabulary maps label words to camel-case fragments, and a phrase of words
composes to the key of a class: every fragment is raised, all are put together,
and the result is lowered.  A word that is not in the vocabulary is an error,
so a misspelt phrase fails at once instead of naming a class that nobody has.
-/

/-- Fragments by label word. -/
abbrev Vocabulary := Entries String

namespace Vocabulary

/-- The labels of the layout classes. -/
def standard : Vocabulary :=
  [("SIZE", "size"), ("HORIZONTAL", "horizontal"), ("VERTICAL", "vertical"), ("FULL", "full"),
   ("TEXT_ALIGN", "textAlign"), ("ALIGN_ITEMS", "alignItems"),
   ("JUSTIFY_CONTENT", "justifyContent"), ("CENTER", "center"), ("START", "start"),
   ("END", "end"), ("SPACE_BETWEEN", "spaceBetween"), ("SMALL", "small"), ("FLEX", "flex"),
   ("WRAP", "wrap")]

/-- The raised fragments of words, one behind the other, or the first word that
has none. -/
def fragments (vocabulary : Vocabulary) : List String -> Except String (List Char)
  | [] => .ok []
  | word :: rest =>
      match vocabulary.get? word with
      | some fragment =>
          (fragments vocabulary rest).map (Text.capitalize fragment.toList ++ ·)
      | none => .error word

/-- The class key of a phrase. -/
def compose (vocabulary : Vocabulary) (phrase : String) : Except Error String :=
  match fragments vocabulary (Text.words phrase) with
  | .ok key => .ok (String.ofList (Text.decapitalize key))
  | .error word => .error (.unknownLabel word phrase)

end Vocabulary
end ThemedStyles
