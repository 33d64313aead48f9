import ThemedStyles.Style
import ThemedStyles.Text.Casing

namespace ThemedStyles
namespace Drawing

/-!
# Families of classes drawn from a table

A table lists values by suffix.  Drawing it under a key gives one class for each
suffix, whose body assigns the value to one or more properties.  The entry `*`
holds declarations that go into every body first.  A table may hold tables in
turn; these are drawn under the extended key, and the shared declarations of all
enclosing tables come first, the outermost in front.
-/

/-- The properties that receive the values of a table. -/
inductive Target where
  /-- The property that the key itself names in dash case. -/
  | ofKey
  | one (name : String)
  | many (names : List String)
  /-- Values that are tables are drawn with the inner target. -/
  | nested (inner : Target)
deriving Inhabited

/-- The suffix of the declarations shared by a whole table. -/
def sharedSuffix : String := "*"

/-- The names of the properties for a table drawn under a key. -/
def Target.names (key : String) : Target -> List String
  | ofKey => [Text.camel key]
  | one name => [name]
  | many names => names
  | nested inner => inner.names key

/-- The shared declarations of a table, empty unless they are a book. -/
def shared (table : Book) : Book :=
  ((table.get? sharedSuffix).bind Value.book?).getD []

/-- The shared declarations followed by those of a body. -/
def withShared (table : Book) (body : Book) : Book := (shared table).putAll body

/-- A drawn entry with the shared declarations of an enclosing table in front. -/
def enclosed (table : Book) (drawn : String × Value) : String × Value :=
  match drawn.2 with
  | .book body => (drawn.1, .book (withShared table body))
  | _ => drawn

/-- The body that assigns a value to all properties of a target. -/
def assigned (key : String) (target : Target) (table : Book) (value : Value) : Book :=
  (target.names key).foldl (fun body name => body.put name value) (withShared table [])

/-- Is this entry a class of its own?  Shared declarations and absent values
are not. -/
def isDrawn (entry : String × Value) : Bool :=
  entry.1 != sharedSuffix && !entry.2.isAbsent

/-- Draw a table under a key.  Entries that come out under the same key leave
the last body in the first place. -/
def draw (key : String) (table : Book) : Target -> Book
  | .nested inner =>
      (table.filter isDrawn).foldl
        (fun book entry =>
          match entry.2 with
          | .book sub =>
              book.putAll ((draw (key ++ entry.1) sub inner).map (enclosed table))
          | value =>
              book.put (key ++ entry.1) (.book (assigned key (.nested inner) table value)))
        []
  | target =>
      (table.filter isDrawn).foldl
        (fun book entry =>
          book.put (key ++ entry.1) (.book (assigned key target table entry.2)))
        []

end Drawing
end ThemedStyles
