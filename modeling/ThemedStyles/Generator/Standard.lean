import ThemedStyles.Drawing
import ThemedStyles.Generator
import ThemedStyles.Style.Layout

namespace ThemedStyles
namespace Generator

/-!
# The standard themed book

The standard generator gives every theme the same set of classes: fixed entries
for surfaces, variants of text, palette colours and dividers, followed by the
families drawn from the octaves of the theme.  Later families replace entries
of earlier ones under the same key, in their place.
-/

/-- The entries that do not depend on octaves.  The paper surface is dark only
under the name of the dark theme. -/
def fixedEntries (theme : Theme) (name : String) : Book :=
  let palette := theme.palette
  let typography := theme.typography
  let paper := if name = "dark" then "#424242" else "#d2d2d2"
  [("paper", .book [("backgroundColor", paper)]),
   ("caption", typography.caption),
   ("h3", typography.h3),
   ("h4", typography.h4),
   ("h5", typography.h5),
   ("h6", typography.h6),
   ("subtitle2", typography.subtitle2),
   ("colorPrimary", .book [("color", palette.text.primary ++ " !important")]),
   ("colorSecondary", .book [("color", palette.text.secondary ++ " !important")]),
   ("backgroundSuccess", .book [("backgroundColor", palette.success.main)]),
   ("backgroundWarning", .book [("backgroundColor", palette.warning.main)]),
   ("backgroundError", .book [("backgroundColor", palette.error.main)]),
   ("backgroundSuccessLight", .book [("backgroundColor", palette.success.light)]),
   ("backgroundWarningLight", .book [("backgroundColor", palette.warning.light)]),
   ("backgroundErrorLight", .book [("backgroundColor", palette.error.light)]),
   ("borderLeftDivider", .book [("borderLeft", "solid thin " ++ palette.divider)]),
   ("borderTopDivider", .book [("borderTop", "solid thin " ++ palette.divider)]),
   ("colorError", .book [("color", palette.error.main)]),
   ("colorErrorLight", .book [("color", palette.error.light)])]

/-- The table of the steps of octaves, by label. -/
def stepTable (steps : List (String × String)) : Book :=
  Entries.ofPairs (steps.map fun step => (step.1, Value.text step.2))

/-- The families drawn from a spacing table, each with the properties it sets. -/
def spacingFamilies : List (String × List String) :=
  [("pad", ["padding"]), ("padHorizontal", ["paddingLeft", "paddingRight"]),
   ("padVertical", ["paddingTop", "paddingBottom"]), ("margin", ["margin"]), ("gap", ["gap"])]

/-- The family drawn from a font size table. -/
def fontSizeFamilies : List (String × List String) := [("fontSize", ["fontSize"])]

/-- The families drawn from a colour table. -/
def colourFamilies : List (String × List String) :=
  [("color", ["color"]), ("background", ["backgroundColor"])]

/-- Draw families from a table into a book. -/
def addFamilies (table : Book) (families : List (String × List String)) (book : Book) : Book :=
  families.foldl
    (fun book family => book.putAll (Drawing.draw family.1 table (.many family.2))) book

/-- The standard book of a theme, or the first error of its octaves: those of
spacing first, then font sizes, then colours. -/
def standardBook (theme : Theme) (name : String) : Except Error Book := do
  let spacing ← Octave.allSteps .spacing theme.spacing
  let sizes ← Octave.allSteps .fontSize theme.typography.octaves
  let colours ← Octave.allSteps .colour theme.palette.octaves
  return addFamilies (stepTable colours) colourFamilies
    (addFamilies (stepTable sizes) fontSizeFamilies
      (addFamilies (stepTable spacing) spacingFamilies (fixedEntries theme name)))

/-- The standard generator. -/
def standard : Generator := ⟨"theme-magic-book", standardBook⟩

/-- What can be compiled without any theme: the layout classes together with the
standard book of the light theme, under the empty scope. -/
def defaultBag : Except Error (Entries Book) := do
  let themed ← standardBook Theme.light "light"
  return [("", Book.merged [Book.layout, themed])]

end Generator
end ThemedStyles
