import ThemedStyles.Text.Quoted
import ThemedStyles.Theme

namespace ThemedStyles

/-!
# Generators of themed books

A generator makes a style book of a theme and the name under which it is used.
Its id tells generators apart: two generators with one id count as the same,
whatever books they make.
-/

/-- A way to make a book of a theme. -/
structure Generator where
  id : String
  generate : Theme -> (name : String) -> Except Error Book

namespace Generator

/-- A generator that never fails. -/
def ofFunction (id : String) (make : Theme -> String -> Book) : Generator :=
  ⟨id, fun theme name => .ok (make theme name)⟩

def described (generator : Generator) : String :=
  Text.described "FnGenerator" [("id", Text.quoted generator.id)]

end Generator
end ThemedStyles
