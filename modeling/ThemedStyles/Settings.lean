import ThemedStyles.File
import ThemedStyles.Json.Writer
import ThemedStyles.Yaml.Reader

namespace ThemedStyles

/-!
# Settings of a session

Settings say which theme is active at first, whether the layout classes are
compiled and under which scope, and which themes are registered in addition.
Every setting has a default and may be left out of a document.  Unknown fields
are ignored, but a known field must not be repeated.

A JSON document may also be a list of the settings in their order.  In a YAML
document a plain scalar is a text as it stands where a setting is a text, and
an empty document leaves all defaults.
-/

/-- How a session starts. -/
structure Settings where
  theme : String
  /-- Does the colour mode of the system decide about the theme instead? -/
  followSystem : Bool
  baseScope : String
  includeBase : Bool
  /-- A theme document to register, or null. -/
  themes : Json

namespace Settings

def default : Settings := ⟨"light", false, "", true, .null⟩

/-- The names of the settings in a document, in their order. -/
def names : List String := ["theme", "follow_system", "base_scope", "include_base", "themes"]

/-- How a format expresses the values of settings. -/
structure Notions (α : Type) where
  text? : α -> Option String
  truth? : α -> Option Bool
  document? : α -> Option Json

/-- The settings after one field of a document. -/
def assigned? {α : Type} (notions : Notions α) (settings : Settings) (field : String × α) :
    Option Settings :=
  match field.1 with
  | "theme" => (notions.text? field.2).map fun value => { settings with theme := value }
  | "follow_system" =>
      (notions.truth? field.2).map fun value => { settings with followSystem := value }
  | "base_scope" => (notions.text? field.2).map fun value => { settings with baseScope := value }
  | "include_base" =>
      (notions.truth? field.2).map fun value => { settings with includeBase := value }
  | "themes" => (notions.document? field.2).map fun value => { settings with themes := value }
  | _ => some settings

/-- The settings of the fields of a document. -/
def ofFields? {α : Type} (notions : Notions α) (fields : List (String × α)) : Option Settings :=
  let known := (fields.map Prod.fst).filter names.contains
  if known.Nodup then fields.foldlM (assigned? notions) default else none

/-! ## JSON -/

/-- The settings are one level of nesting, the themes lie below it. -/
def jsonNotions : Notions Json.Draft where
  text?
    | .scalar (some (.string text)) => some text
    | _ => none
  truth?
    | .scalar (some (.boolean value)) => some value
    | _ => none
  document? draft := (draft.value? (Json.nestingLimit - 1)).map Json.collapsed

/-- The fields of an object whose names are whole. -/
def wholeFields? (fields : List (Option String × Json.Draft)) :
    Option (List (String × Json.Draft)) :=
  fields.mapM fun field => field.1.map fun name => (name, field.2)

def ofDraft? : Json.Draft -> Option Settings
  | .object fields => (wholeFields? fields).bind (ofFields? jsonNotions)
  | .list items =>
      if items.length ≤ names.length then ofFields? jsonNotions (names.zip items) else none
  | .scalar _ => none

def ofJsonText (text : String) : Except Error Settings :=
  match (Json.draft? text).bind ofDraft? with
  | some settings => .ok settings
  | none => .error .json

def toJson (settings : Settings) : Json :=
  .object
    [("theme", .string settings.theme), ("follow_system", .boolean settings.followSystem),
     ("base_scope", .string settings.baseScope), ("include_base", .boolean settings.includeBase),
     ("themes", settings.themes)]

def isDefault (settings : Settings) : Bool :=
  settings.theme == default.theme && settings.followSystem == default.followSystem &&
    settings.baseScope == default.baseScope && settings.includeBase == default.includeBase &&
    settings.themes.isNull

/-! ## YAML -/

/-- The settings are one level of nesting, the themes lie below it. -/
def yamlNotions : Notions Yaml where
  text? := Yaml.text?
  truth? := Yaml.truth?
  document? := Yaml.toJson? (Yaml.nestingLimit - 1)

/-- The entries of a mapping whose keys are scalars. -/
def namedEntries? (entries : List (Yaml × Yaml)) : Option (List (String × Yaml)) :=
  entries.mapM fun entry => entry.1.text?.map fun name => (name, entry.2)

def ofNode? : Yaml -> Option Settings
  | .mapping entries => (namedEntries? entries).bind (ofFields? yamlNotions)
  | .plain "" => some default
  | _ => none

def ofYamlText (text : String) : Except Error Settings :=
  match (Yaml.read? text).bind ofNode? with
  | some settings => .ok settings
  | none => .error .yaml

/-! ## Files -/

/-- The settings of a file.  Only a mistake in its text names the file. -/
def ofFile (file : File) : Except Error Settings :=
  match file.text with
  | .error error => .error error
  | .ok text =>
      match if file.isYaml then ofYamlText text else ofJsonText text with
      | .ok settings => .ok settings
      | .error error => .error (.themeFile file.name error)

end Settings
end ThemedStyles
