import ThemedStyles.Property
import ThemedStyles.Selector.Key
import ThemedStyles.Style

namespace ThemedStyles

/-!
# Rules of a nested body

A body nests selectors to any depth, a stylesheet does not.  Flattening walks a
body and collects a rule for every selector it reaches, in the order in which
they are first reached.  A rule holds the declarations of its selector and the
selectors nested directly below it.  Bodies may meet in one selector; then the
later declaration of a property replaces the earlier one in its place.
-/

/-- The declarations of a selector and the selectors nested in its body, each
of them once. -/
structure Rule where
  declarations : Entries Value
  children : List String
deriving Inhabited

namespace Rule

def empty : Rule := ⟨[], []⟩

def declare (rule : Rule) (property : String) (value : Value) : Rule :=
  { rule with declarations := Entries.put rule.declarations property value }

/-- Note a nested selector, unless it is noted already. -/
def adopt (rule : Rule) (child : String) : Rule :=
  if rule.children.contains child then rule
  else { rule with children := rule.children ++ [child] }

end Rule

/-- Rules by selector, in the order in which the selectors were reached. -/
abbrev Rules := Entries Rule

namespace Rules

/-- Make sure that the selector has a rule. -/
def reach (rules : Rules) (selector : String) : Rules :=
  Entries.adjust rules selector Rule.empty id

def declare (rules : Rules) (selector property : String) (value : Value) : Rules :=
  Entries.adjust rules selector Rule.empty fun rule => rule.declare property value

/-- Note a selector nested in the body of another.  A selector is never nested
in itself. -/
def adopt (rules : Rules) (parent child : String) : Rules :=
  if child = parent then rules
  else Entries.adjust rules parent Rule.empty fun rule => rule.adopt child

mutual

/-- Collect one entry of the body of a selector.  A book nests, unless its key
names a known property; then it is a compound value. -/
def collectEntry (known : PropertySet) (selector key : String) : Value -> Rules -> Rules
  | .absent, rules => rules
  | .text content, rules => rules.declare selector key (.text content)
  | .number value, rules => rules.declare selector key (.number value)
  | .book body, rules =>
      if known.knows key then rules.declare selector key (.book body)
      else
        let child := Key.selector key selector
        collectEntries known child body ((rules.adopt selector child).reach child)

/-- Collect the entries of the body of a selector in order. -/
def collectEntries (known : PropertySet) (selector : String) :
    List (String × Value) -> Rules -> Rules
  | [], rules => rules
  | (key, value) :: rest, rules =>
      collectEntries known selector rest (collectEntry known selector key value rules)

end

/-- The rules after a body has been flattened into them under its selector.
The selector gets a rule even if the body is empty. -/
def flatten (known : PropertySet) (rules : Rules) (selector : String) (body : Book) : Rules :=
  collectEntries known selector body (rules.reach selector)

end Rules
end ThemedStyles
