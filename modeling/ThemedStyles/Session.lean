import ThemedStyles.Buckets
import ThemedStyles.Generator
import ThemedStyles.Ledger
import ThemedStyles.Registry
import ThemedStyles.Settings
import ThemedStyles.Style.Layout

namespace ThemedStyles

/-!
# Themed sessions

A session brings together a compiler, a registry of themes and a ledger of
applied generators.  Applying a generator to a theme makes a book of the theme
and compiles it under the class of the theme name.  This happens once: while
the ledger notes the pair, applying changes nothing, whatever else happens.

Editing a theme does not compile it again.  Invalidating a theme name forgets
the selectors that its generators have compiled, so that the next application
writes them once more; selectors compiled by anything else stay compiled.
-/

/-- The colour mode that a system prefers. -/
inductive ColourMode where
  | light
  | dark
deriving DecidableEq

def ColourMode.themeName : ColourMode -> String
  | .light => "light"
  | .dark => "dark"

/-- A compiler with the themes it is used with. -/
structure Session where
  compiler : Compiler
  registry : Registry
  ledger : Ledger

namespace Session

/-- A session that knows the standard properties and the built-in themes. -/
def new : Session := ⟨Compiler.new .standard, Registry.new Theme.light, Ledger.empty⟩

/-! ## Compiling -/

def compile (session : Session) (book : Book) (scope : String) : Session :=
  { session with compiler := (session.compiler.compile book scope).1 }

def compileBag (session : Session) (bag : Entries Book) : Session :=
  { session with compiler := session.compiler.compileBag bag }

def installLayout (session : Session) (scope : String) : Session :=
  session.compile Book.layout scope

def observe (session : Session) (observer : WidthObserver) (width : Nat) :
    Session × WidthObserver × Observation :=
  let (next, compiler, observation) := observer.observe session.compiler width
  ({ session with compiler := compiler }, next, observation)

/-- Map a phrase of class keys to classes. -/
def cast (session : Session) (phrase : String) : Except Error String :=
  session.compiler.classes.cast phrase

/-! ## Themes -/

/-- The scope of the classes of a theme.  The empty name has the empty scope. -/
def themeScope (name : String) : String := if name.isEmpty then "" else "." ++ name

/-- Classes for the element around a themed part: the given class and the name
of the theme, leaving out what is empty. -/
def scopeClass (className theme : String) : String :=
  String.intercalate " " ([className, theme].filter fun part => !part.isEmpty)

/-- Apply a generator to a theme, unless that has been done.  The answer is the
error of a generator that fails. -/
def applyTheme (session : Session) (name : String) (generator : Generator) :
    Session × Option Error :=
  if session.ledger.isApplied name generator.id then (session, none)
  else
    match generator.generate (session.registry.theme name) name with
    | .error error => (session, some error)
    | .ok book =>
        let (compiler, fresh) := session.compiler.compile book (themeScope name)
        ({ session with
            compiler := compiler
            ledger := session.ledger.mark name generator.id fresh },
          none)

def applyActive (session : Session) (generator : Generator) : Session × Option Error :=
  session.applyTheme session.registry.active generator

/-- Forget what the generators of a theme have compiled.  The answer says
whether there was anything noted. -/
def invalidate (session : Session) (name : String) : Session × Bool :=
  match session.ledger.invalidate name with
  | (_, none) => (session, false)
  | (ledger, some selectors) =>
      ({ session with
          compiler := (session.compiler.forget selectors).1
          ledger := ledger },
        true)

def activate (session : Session) (name : String) : Session × Bool × List Notice :=
  let (registry, changed, notices) := session.registry.activate name
  ({ session with registry := registry }, changed, notices)

def followSystem (session : Session) (mode : ColourMode) : Session × Bool × List Notice :=
  session.activate mode.themeName

/-! ## Starting from settings -/

/-- The session with the themes of a document registered, unless it is null. -/
def withThemes (session : Session) (themes : Json) : Except Error Session :=
  if themes.isNull then .ok session
  else
    match session.registry.registerDocument themes with
    | (_, some error) => .error error
    | (registry, none) => .ok { session with registry := registry }

/-- The session that settings describe, for a system that prefers this mode. -/
def ofSettings (settings : Settings) (mode : ColourMode) : Except Error Session :=
  match new.withThemes settings.themes with
  | .error error => .error error
  | .ok themed =>
      let first := if settings.followSystem then mode.themeName else settings.theme
      let (active, _, _) := themed.activate first
      .ok (if settings.includeBase then active.installLayout settings.baseScope else active)

end Session
end ThemedStyles
