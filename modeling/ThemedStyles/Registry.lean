import ThemedStyles.Text.Quoted
import ThemedStyles.Theme.Document

namespace ThemedStyles

/-!
# The theme registry

A registry names themes, keeps one of the names active, and knows who wants to
hear when the active name changes.  A name that is not registered stands for
the fallback theme.  Registering a fragment patches the theme of that name, or
the fallback for a new name.

A subscription has a number, counted up from zero and never used again, and
the label of its listener.  Changing the active name yields a notice for every
live subscription, oldest first.
-/

/-- What a listener hears: its label and the value that is new. -/
structure Notice where
  listener : String
  value : String
deriving DecidableEq

structure Subscription where
  id : Nat
  listener : String
deriving DecidableEq

/-- Named themes with an active name and its subscriptions. -/
structure Registry where
  themes : Entries Theme
  fallback : Theme
  active : String
  subscriptions : List Subscription
  /-- The number of the next subscription. -/
  nextId : Nat

namespace Registry

/-- The registry of the built-in themes, of which the light one is active. -/
def new (fallback : Theme) : Registry :=
  { themes := [("light", Theme.light), ("dark", Theme.dark)]
    fallback := fallback
    active := "light"
    subscriptions := []
    nextId := 0 }

/-- The theme that a name stands for. -/
def theme (registry : Registry) (name : String) : Theme :=
  (registry.themes.get? name).getD registry.fallback

def has (registry : Registry) (name : String) : Bool := registry.themes.has name

def names (registry : Registry) : List String := registry.themes.keys

def activeTheme (registry : Registry) : Theme := registry.theme registry.active

/-! ## Registering and editing -/

/-- Patch the theme of a name with a fragment. -/
def register (registry : Registry) (name : String) (fragment : Json) : Except Error Registry :=
  match (registry.theme name).patched? fragment with
  | some theme => .ok { registry with themes := registry.themes.put name theme }
  | none => .error (.themeParse name)

/-- Register fragments one after the other, up to the first that fails.  Those
before it stay registered. -/
def registerAll (registry : Registry) : (fragments : Entries Json) -> Registry × Option Error
  | [] => (registry, none)
  | (name, fragment) :: rest =>
      match registry.register name fragment with
      | .ok next => next.registerAll rest
      | .error error => (registry, some error)

def registerDocument (registry : Registry) (document : Json) : Registry × Option Error :=
  match document with
  | .object fragments => registry.registerAll fragments
  | other => (registry, some (.themeDocument other.kind))

/-- Change one theme, starting from the fallback for a new name. -/
def edit (registry : Registry) (name : String) (change : Theme -> Theme) : Registry :=
  { registry with themes := registry.themes.put name (change (registry.theme name)) }

/-- Change every registered theme in turn, oldest name first.  The change may
remember something from one theme to the next, beginning with `start`. -/
def editEach {σ : Type} (registry : Registry) (start : σ)
    (change : σ -> String -> Theme -> Theme × σ) : Registry × σ :=
  let (themes, last) := registry.themes.mapValuesFrom change start
  ({ registry with themes }, last)

/-- Change every registered theme, each without regard to the others. -/
def editAll (registry : Registry) (change : String -> Theme -> Theme) : Registry :=
  (registry.editEach () fun _ name theme => (change name theme, ())).1

/-! ## The active name and its listeners -/

/-- Make a name active.  The answer says whether it is a change, and lists the
notices. -/
def activate (registry : Registry) (name : String) : Registry × Bool × List Notice :=
  if registry.active = name then (registry, false, [])
  else
    ({ registry with active := name }, true,
      registry.subscriptions.map fun subscription => ⟨subscription.listener, name⟩)

/-- Subscribe a listener.  The answer is the number of the subscription. -/
def subscribe (registry : Registry) (listener : String) : Registry × Nat :=
  ({ registry with
      subscriptions := registry.subscriptions ++ [⟨registry.nextId, listener⟩]
      nextId := registry.nextId + 1 },
    registry.nextId)

/-- End a subscription.  The answer says whether it was live. -/
def unsubscribe (registry : Registry) (id : Nat) : Registry × Bool :=
  ({ registry with
      subscriptions := registry.subscriptions.filter fun subscription => subscription.id != id },
    registry.subscriptions.any fun subscription => subscription.id == id)

def subscriberCount (registry : Registry) : Nat := registry.subscriptions.length

def described (registry : Registry) : String :=
  Text.described "ThemeRegistry"
    [("themes", Text.quotedList registry.names), ("active", Text.quoted registry.active),
     ("subscribers", toString registry.subscriberCount)]

end Registry
end ThemedStyles
