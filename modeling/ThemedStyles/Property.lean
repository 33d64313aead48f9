import ThemedStyles.Property.Standard
import ThemedStyles.Text.Casing

namespace ThemedStyles

/-!
# Property names and sets of known properties

Within a body, an entry whose value is a book is either a nested selector or a
declaration with a compound value.  The key decides: it declares when it names
a known property.  Known names are kept in dash case, and a key is looked up by
its own dash-case form, so either form of a name is recognised.  Names that
begin with two dashes are custom properties; they are always known and are
written as they are.
-/

namespace Property

def isCustom (key : String) : Bool := ['-', '-'].isPrefixOf key.toList

/-- The name under which a key is declared in a stylesheet. -/
def cssName (key : String) : String := if isCustom key then key else Text.dashed key

end Property

/-- A set of known properties, each kept once under its dash-case name. -/
structure PropertySet where
  names : List String

namespace PropertySet

def empty : PropertySet := ⟨[]⟩

/-- Add one name in either form. -/
def add (known : PropertySet) (name : String) : PropertySet :=
  if known.names.contains (Text.dashed name) then known
  else ⟨known.names ++ [Text.dashed name]⟩

def addAll (known : PropertySet) (names : List String) : PropertySet := names.foldl add known

def ofNames (names : List String) : PropertySet := empty.addAll names

def standard : PropertySet := ofNames Property.standardNames

def knows (known : PropertySet) (key : String) : Bool :=
  Property.isCustom key || known.names.contains (Text.dashed key)

/-- The number of names, custom properties not counted. -/
def size (known : PropertySet) : Nat := known.names.length

/-- Do two sets have the same names? -/
def same (first second : PropertySet) : Bool :=
  first.names.all second.names.contains && second.names.all first.names.contains

end PropertySet
end ThemedStyles
