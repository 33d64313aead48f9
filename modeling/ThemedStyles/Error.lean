import ThemedStyles.Json
import ThemedStyles.Scale

namespace ThemedStyles

/-!
# Errors

Two kinds of mistake are errors: names in a style catalogue that nobody
defined, and documents that cannot be read.  Malformed style values are not;
they merely produce no text.
-/

inductive Error where
  /-- A word of a label phrase is not in the vocabulary. -/
  | unknownLabel (word phrase : String)
  /-- A word of a class phrase is not a registered class key. -/
  | unknownToken (token : String)
  /-- An octave without a generator reaches past the end of its scale. -/
  | octaveIndex (scale : Scale) (index : Nat)
  /-- A theme document does not map names to fragments. -/
  | themeDocument (found : Json.Kind)
  /-- A fragment does not make a theme of its base. -/
  | themeParse (name : String)
  /-- A file could not be used, for the reason within. -/
  | themeFile (file : String) (cause : Error)
  /-- A file is missing or is not valid UTF-8. -/
  | unreadable
  /-- A text is not the JSON form of what was asked for. -/
  | json
  /-- A text is not the YAML form of what was asked for. -/
  | yaml
deriving Inhabited

namespace Error

def message : Error -> String
  | unknownLabel word phrase => "no label '" ++ word ++ "' in phrase '" ++ phrase ++ "'"
  | unknownToken token => "failed to cast '" ++ token ++ "': no compiled class with that key"
  | octaveIndex scale index =>
      "octave index " ++ toString index ++ " out of range for builtin '" ++ scale.name ++
        "' table of " ++ toString scale.table.length ++ " entries"
  | themeDocument found =>
      "theme document must map theme names to theme fragments, found " ++ found.words
  | themeParse name => "invalid theme '" ++ name ++ "'"
  | themeFile file cause => "failed to load theme file " ++ file ++ ": " ++ cause.message
  | unreadable => "unreadable file"
  | json => "invalid JSON"
  | yaml => "invalid YAML"

section Mapped

variable {α β : Type} {result : Except Error α} {f : α -> β}

theorem map_eq_ok_iff {value : β} :
    result.map f = .ok value ↔ ∃ inner, result = .ok inner ∧ f inner = value := by
  cases result <;> simp [Except.map]

/-- An error comes through unchanged. -/
theorem map_eq_error_iff {error : Error} :
    result.map f = .error error ↔ result = .error error := by
  cases result <;> simp [Except.map]

end Mapped

end Error
end ThemedStyles
