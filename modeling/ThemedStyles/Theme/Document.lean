import ThemedStyles.Json.Patch
import ThemedStyles.Style.Document
import ThemedStyles.Theme

namespace ThemedStyles

/-!
# Themes as JSON

The JSON form of a theme has a fixed set of fields in a fixed order.  Reading
ignores unknown fields and takes the fields of a record from a list, too.  A
list of octaves may be left out and is then empty; any other missing field, and
any value of a wrong type, makes the form unreadable.  Generators have no JSON
form, and the bounds of an octave are left out where they are missing.

A theme is patched through its JSON form.  An octave keeps its generator if the
patched theme has an octave with the same bounds at the same position.
-/

namespace Json

/-- A string field. -/
def string? : Json -> Option String
  | string text => some text
  | _ => none

/-- A whole number below a bound. -/
def natBelow? (bound : Nat) : Json -> Option Nat
  | integer (.ofNat value) => if value < bound then some value else none
  | _ => none

/-- A list, each of whose items can be read. -/
def listOf? {α : Type} (read : Json -> Option α) : Json -> Option (List α)
  | list items => items.mapM read
  | _ => none

/-- A required field of a record. -/
def required? {α : Type} (fields : Entries Json) (name : String) (read : Json -> Option α) :
    Option α :=
  (fields.get? name).bind read

end Json

namespace Octave

/-- The JSON form of an octave. -/
def toJson (octave : Octave) : Json :=
  let bound (name : String) (value : Option Nat) : List (String × Json) :=
    (value.map fun number => (name, Json.integer number)).toList
  .object (bound "min" octave.min ++ bound "length" octave.length)

/-- A bound, where null is none. -/
def bound? : Json -> Option (Option Nat)
  | .null => some none
  | json => (Json.natBelow? (Nat.pow 2 64) json).map some

/-- The octave of a JSON form. -/
def ofJson? (json : Json) : Option Octave := do
  let fields ← json.record? ["min", "length"]
  let min ← ((fields.get? "min").map bound?).getD (some none)
  let length ← ((fields.get? "length").map bound?).getD (some none)
  some ⟨none, min, length⟩

/-- The JSON form of a list of octaves. -/
def listToJson (octaves : List Octave) : Json := .list (octaves.map toJson)

/-- A field with octaves, empty where it is missing. -/
def listField? (fields : Entries Json) (name : String) : Option (List Octave) :=
  match fields.get? name with
  | some json => Json.listOf? ofJson? json
  | none => some []

end Octave

namespace Shades

/-- The JSON form of a colour. -/
def toJson (shades : Shades) : Json :=
  .object
    [("light", .string shades.light), ("main", .string shades.main), ("dark", .string shades.dark),
     ("contrastText", .string shades.contrastText)]

/-- The colour of a JSON form. -/
def ofJson? (json : Json) : Option Shades := do
  let fields ← json.record? ["light", "main", "dark", "contrastText"]
  let light ← Json.required? fields "light" Json.string?
  let main ← Json.required? fields "main" Json.string?
  let dark ← Json.required? fields "dark" Json.string?
  let contrastText ← Json.required? fields "contrastText" Json.string?
  some ⟨light, main, dark, contrastText⟩

end Shades

namespace TextColours

/-- The JSON form of text colours. -/
def toJson (colours : TextColours) : Json :=
  .object [("primary", .string colours.primary), ("secondary", .string colours.secondary)]

/-- The text colours of a JSON form. -/
def ofJson? (json : Json) : Option TextColours := do
  let fields ← json.record? ["primary", "secondary"]
  let primary ← Json.required? fields "primary" Json.string?
  let secondary ← Json.required? fields "secondary" Json.string?
  some ⟨primary, secondary⟩

end TextColours

namespace Surfaces

/-- The JSON form of surface colours. -/
def toJson (surfaces : Surfaces) : Json :=
  .object [("paper", .string surfaces.paper), ("default", .string surfaces.page)]

/-- The surface colours of a JSON form. -/
def ofJson? (json : Json) : Option Surfaces := do
  let fields ← json.record? ["paper", "default"]
  let paper ← Json.required? fields "paper" Json.string?
  let page ← Json.required? fields "default" Json.string?
  some ⟨paper, page⟩

end Surfaces

namespace Palette

/-- The JSON form of a palette. -/
def toJson (palette : Palette) : Json :=
  .object
    [("color", Octave.listToJson palette.octaves), ("type", .string palette.mode),
     ("primary", palette.primary.toJson), ("secondary", palette.secondary.toJson),
     ("success", palette.success.toJson), ("warning", palette.warning.toJson),
     ("error", palette.error.toJson), ("info", palette.info.toJson),
     ("divider", .string palette.divider), ("text", palette.text.toJson),
     ("background", palette.surfaces.toJson)]

/-- The palette of a JSON form. -/
def ofJson? (json : Json) : Option Palette := do
  let fields ← json.record?
    ["color", "type", "primary", "secondary", "success", "warning", "error", "info", "divider",
     "text", "background"]
  let octaves ← Octave.listField? fields "color"
  let mode ← Json.required? fields "type" Json.string?
  let primary ← Json.required? fields "primary" Shades.ofJson?
  let secondary ← Json.required? fields "secondary" Shades.ofJson?
  let success ← Json.required? fields "success" Shades.ofJson?
  let warning ← Json.required? fields "warning" Shades.ofJson?
  let error ← Json.required? fields "error" Shades.ofJson?
  let info ← Json.required? fields "info" Shades.ofJson?
  let divider ← Json.required? fields "divider" Json.string?
  let text ← Json.required? fields "text" TextColours.ofJson?
  let surfaces ← Json.required? fields "background" Surfaces.ofJson?
  some
    { octaves, mode, primary, secondary, success, warning, error, info, divider, text, surfaces }

end Palette

namespace Typography

/-- The JSON form of a typography. -/
def toJson (typography : Typography) : Json :=
  .object
    [("htmlFontSize", .integer typography.htmlFontSize),
     ("fontFamily", .string typography.fontFamily),
     ("fontSize", Octave.listToJson typography.octaves),
     ("h1", Book.toJson typography.h1), ("h2", Book.toJson typography.h2),
     ("h3", Book.toJson typography.h3), ("h4", Book.toJson typography.h4),
     ("h5", Book.toJson typography.h5), ("h6", Book.toJson typography.h6),
     ("subtitle2", Book.toJson typography.subtitle2),
     ("caption", Book.toJson typography.caption)]

/-- The typography of a JSON form. -/
def ofJson? (json : Json) : Option Typography := do
  let fields ← json.record?
    ["htmlFontSize", "fontFamily", "fontSize", "h1", "h2", "h3", "h4", "h5", "h6", "subtitle2",
     "caption"]
  let htmlFontSize ← Json.required? fields "htmlFontSize" (Json.natBelow? (Nat.pow 2 32))
  let fontFamily ← Json.required? fields "fontFamily" Json.string?
  let octaves ← Octave.listField? fields "fontSize"
  let h1 ← Json.required? fields "h1" Book.ofJson?
  let h2 ← Json.required? fields "h2" Book.ofJson?
  let h3 ← Json.required? fields "h3" Book.ofJson?
  let h4 ← Json.required? fields "h4" Book.ofJson?
  let h5 ← Json.required? fields "h5" Book.ofJson?
  let h6 ← Json.required? fields "h6" Book.ofJson?
  let subtitle2 ← Json.required? fields "subtitle2" Book.ofJson?
  let caption ← Json.required? fields "caption" Book.ofJson?
  some { htmlFontSize, fontFamily, octaves, h1, h2, h3, h4, h5, h6, subtitle2, caption }

end Typography

namespace Theme

/-- The JSON form of a theme. -/
def toJson (theme : Theme) : Json :=
  .object
    [("palette", theme.palette.toJson), ("spacingOct", Octave.listToJson theme.spacing),
     ("typography", theme.typography.toJson)]

/-- The theme of a JSON form. -/
def ofJson? (json : Json) : Option Theme := do
  let fields ← json.record? ["palette", "spacingOct", "typography"]
  let palette ← Json.required? fields "palette" Palette.ofJson?
  let spacing ← Octave.listField? fields "spacingOct"
  let typography ← Json.required? fields "typography" Typography.ofJson?
  some { palette, spacing, typography }

/-- The theme with the generators of an older one, where the bounds agree. -/
def adopting (theme older : Theme) : Theme :=
  { palette :=
      { theme.palette with
        octaves := Octave.adoptingAll theme.palette.octaves older.palette.octaves }
    spacing := Octave.adoptingAll theme.spacing older.spacing
    typography :=
      { theme.typography with
        octaves := Octave.adoptingAll theme.typography.octaves older.typography.octaves } }

/-- The theme after a patch, `none` when the patched form is no theme. -/
def patched? (theme : Theme) (patch : Json) : Option Theme :=
  (ofJson? (theme.toJson.patched patch)).map fun changed => changed.adopting theme

end Theme
end ThemedStyles
