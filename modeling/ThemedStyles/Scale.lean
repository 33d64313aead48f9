namespace ThemedStyles

/-!
# Built-in scales

A scale is a short table of steps, from which octaves take their slices.  The
label of a step ends up in the key of a class and its value in the body.
-/

/-- The built-in scales that octaves without a generator read from. -/
inductive Scale where
  | spacing
  | fontSize
  | colour
deriving DecidableEq

namespace Scale

/-- The steps of a scale, each with the label of its class and its value. -/
def table : Scale -> List (String × String)
  | spacing =>
      [("0", "0px"), ("Tiny", "4px"), ("Small", "8px"), ("", "16px"), ("Big", "32px"),
       ("Huge", "64px")]
  | fontSize =>
      [("Tiny", "0.625rem"), ("Small", "0.75rem"), ("", "1rem"), ("Big", "1.25rem"),
       ("Huge", "1.5rem")]
  | colour =>
      [("Grey50", "#fafafa"), ("Grey100", "#f5f5f5"), ("Grey200", "#eeeeee"),
       ("Grey300", "#e0e0e0"), ("Grey400", "#bdbdbd"), ("Grey500", "#9e9e9e"),
       ("Grey600", "#757575"), ("Grey700", "#616161"), ("Grey800", "#424242"),
       ("Grey900", "#212121")]

/-- The name of a scale in messages. -/
def name : Scale -> String
  | spacing => "spacing"
  | fontSize => "font size"
  | colour => "color"

end Scale

end ThemedStyles
