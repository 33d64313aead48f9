import ThemedStyles.Octave
import ThemedStyles.Style

namespace ThemedStyles

/-!
# Themes

A theme is a palette, the octaves of its spacing, and a typography.  The
built-in light theme is the default; the dark one differs in its mode, its
divider, its text colours and its surfaces.
-/

structure Shades where
  light : String
  main : String
  dark : String
  contrastText : String
deriving DecidableEq

structure TextColours where
  primary : String
  secondary : String
deriving DecidableEq

structure Surfaces where
  paper : String
  page : String
deriving DecidableEq

structure Palette where
  /-- Octaves of the colour classes. -/
  octaves : List Octave
  /-- `light` or `dark`. -/
  mode : String
  primary : Shades
  secondary : Shades
  success : Shades
  warning : Shades
  error : Shades
  info : Shades
  divider : String
  text : TextColours
  surfaces : Surfaces

/-- The typography of a theme, with a body for each variant of text. -/
structure Typography where
  htmlFontSize : Nat
  fontFamily : String
  /-- Octaves of the font size classes. -/
  octaves : List Octave
  h1 : Book
  h2 : Book
  h3 : Book
  h4 : Book
  h5 : Book
  h6 : Book
  subtitle2 : Book
  caption : Book

structure Theme where
  palette : Palette
  /-- Octaves of the padding, margin and gap classes. -/
  spacing : List Octave
  typography : Typography

namespace Theme

def defaultFonts : String := "\"Roboto\", \"Helvetica\", \"Arial\", sans-serif"

def variant (weight : Value) (size : String) (lineHeight : Value) (letterSpacing : String) :
    Book :=
  [("fontFamily", defaultFonts), ("fontWeight", weight), ("fontSize", size),
   ("lineHeight", lineHeight), ("letterSpacing", letterSpacing)]

/-- The built-in light theme. -/
def light : Theme where
  palette :=
    { octaves := [Octave.builtin]
      mode := "light"
      primary := ⟨"#7986cb", "#3f51b5", "#303f9f", "#fff"⟩
      secondary := ⟨"#ff4081", "#f50057", "#c51162", "#fff"⟩
      success := ⟨"#81c784", "#4caf50", "#388e3c", "rgba(0, 0, 0, 0.87)"⟩
      warning := ⟨"#ffb74d", "#ff9800", "#f57c00", "rgba(0, 0, 0, 0.87)"⟩
      error := ⟨"#e57373", "#f44336", "#d32f2f", "#fff"⟩
      info := ⟨"#64b5f6", "#2196f3", "#1976d2", "#fff"⟩
      divider := "rgba(0, 0, 0, 0.12)"
      text := ⟨"rgba(0, 0, 0, 0.87)", "rgba(0, 0, 0, 0.54)"⟩
      surfaces := ⟨"#fff", "#fafafa"⟩ }
  spacing := [Octave.builtin]
  typography :=
    { htmlFontSize := 16
      fontFamily := defaultFonts
      octaves := [Octave.builtin]
      h1 := variant 300 "6rem" 1.167 "-0.01562em"
      h2 := variant 300 "3.75rem" 1.2 "-0.00833em"
      h3 := variant 400 "3rem" 1.167 "0em"
      h4 := variant 400 "2.125rem" 1.235 "0.00735em"
      h5 := variant 400 "1.5rem" 1.334 "0em"
      h6 := variant 500 "1.25rem" 1.6 "0.0075em"
      subtitle2 := variant 500 "0.875rem" 1.57 "0.00714em"
      caption := variant 400 "0.75rem" 1.66 "0.03333em" }

/-- The built-in dark theme. -/
def dark : Theme :=
  { light with
    palette :=
      { light.palette with
        mode := "dark"
        divider := "rgba(255, 255, 255, 0.12)"
        text := ⟨"#fff", "rgba(255, 255, 255, 0.7)"⟩
        surfaces := ⟨"#424242", "#303030"⟩ } }

/-- Do two lists of octaves agree, position by position? -/
def sameOctaves (first second : List Octave) : Bool :=
  first.length == second.length && (first.zip second).all fun pair => pair.1.same pair.2

/-- Equality of palettes. -/
def samePalette (first second : Palette) : Bool :=
  sameOctaves first.octaves second.octaves && first.mode == second.mode &&
    first.primary == second.primary && first.secondary == second.secondary &&
    first.success == second.success && first.warning == second.warning &&
    first.error == second.error && first.info == second.info &&
    first.divider == second.divider && first.text == second.text &&
    first.surfaces == second.surfaces

/-- Equality of typographies. -/
def sameTypography (first second : Typography) : Bool :=
  first.htmlFontSize == second.htmlFontSize && first.fontFamily == second.fontFamily &&
    sameOctaves first.octaves second.octaves &&
    Book.same first.h1 second.h1 && Book.same first.h2 second.h2 &&
    Book.same first.h3 second.h3 && Book.same first.h4 second.h4 &&
    Book.same first.h5 second.h5 && Book.same first.h6 second.h6 &&
    Book.same first.subtitle2 second.subtitle2 && Book.same first.caption second.caption

/-- Equality of themes.  Octaves agree when they share their generators, and
the order of the entries of a body does not matter. -/
def same (first second : Theme) : Bool :=
  samePalette first.palette second.palette && sameOctaves first.spacing second.spacing &&
    sameTypography first.typography second.typography

end Theme
end ThemedStyles
