import ThemedStyles.Selector
import ThemedStyles.Text.Casing

namespace ThemedStyles
namespace Key

/-!
# Keys and the selectors they stand for

The first character of a key says how it becomes a selector under a scope.

* `&` stands for the scope itself, wherever it occurs in the key;
* `!` stands for the scope followed by a class dot;
* `?` stands for the scope followed by a blank;
* any other key is plain: its dash-case name becomes a class below the scope.

At the top of a book the scope is that of a theme or a bucket, or empty.  Within
a body it is the selector of the body.  A scope that is a selector list is
distributed: the key is converted under each entry, except that a bare `&` is
the list as it stands.  A plain key that begins with the scope, or with the
first entry of a list, is a selector written out in full and stays as it is.
-/

/-- The four ways in which a key denotes a selector. -/
inductive Kind where
  | plain
  | nested
  | rawClass
  | rawSelector
deriving DecidableEq

/-- The kind of a key, by its first character. -/
def kind : List Char -> Kind
  | '&' :: _ => .nested
  | '!' :: _ => .rawClass
  | '?' :: _ => .rawSelector
  | _ => .plain

/-- Exchange every occurrence of a marker for a text. -/
def substituted (marker : Char) (text : List Char) (key : List Char) : List Char :=
  key.flatMap fun char => if char = marker then text else [char]

/-- The selector of a key under a scope that is taken as a single entry. -/
def underEntry (key scope : List Char) : List Char :=
  match kind key with
  | .nested => substituted '&' scope key
  | .rawClass => substituted '!' (Selector.below scope ['.']) key
  | .rawSelector => substituted '?' (Selector.below scope []) key
  | .plain =>
      if !scope.isEmpty && scope.isPrefixOf key then key
      else Selector.below scope ('.' :: Text.dashedChars key)

/-- Is the key plain and already written out below the first entry of the
scope? -/
def isWrittenOut (key : List Char) (parents : List (List Char)) : Bool :=
  kind key == .plain && parents.head?.any fun parent => !parent.isEmpty && parent.isPrefixOf key

/-- The selector of a key under a scope, on characters. -/
def selectorChars (key scope : List Char) : List Char :=
  let parents := Selector.entries scope
  if isWrittenOut key parents then key
  else if 1 < parents.length && key != ['&'] then Selector.joined (parents.map (underEntry key))
  else underEntry key scope

/-- The selector that a key denotes under a scope. -/
def selector (key scope : String) : String :=
  String.ofList (selectorChars key.toList scope.toList)

/-- ASCII letters, digits, dashes and underscores, at least one of them. -/
def isIdentifier (key : List Char) : Bool :=
  !key.isEmpty && key.all fun char => char.isAlphanum || char = '-' || char = '_'

/-- The class name that a key registers.  Only identifiers register one;
escapes and selectors written out in full do not.  An identifier begins with no
marker, so it is a plain key. -/
def className? (key : String) : Option String :=
  if isIdentifier key.toList then some (Text.dashed key) else none

/-- An identifier is a plain key. -/
theorem kind_of_isIdentifier (key : List Char) (identifier : isIdentifier key = true) :
    kind key = .plain := by
  unfold kind
  split
  · simp [isIdentifier] at identifier
  · simp [isIdentifier] at identifier
  · simp [isIdentifier] at identifier
  · rfl

end Key
end ThemedStyles
