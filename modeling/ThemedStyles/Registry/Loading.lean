import ThemedStyles.File
import ThemedStyles.Json.Reader
import ThemedStyles.Registry
import ThemedStyles.Yaml.Reader

namespace ThemedStyles
namespace Registry

/-!
# Loading theme documents

A theme document maps theme names to fragments.  It is given as JSON, as YAML,
or in a file of either kind.  An empty YAML document is null and so maps
nothing, which is an error like any other document that is no mapping.

A fragment that does not fit stops the loading.  The themes before it stay
registered, and so the answer is a registry in any case.
-/

/-- Register the document that was read from a text, or fail when there is none. -/
def registerRead (registry : Registry) (document? : Option Json) (failure : Error) :
    Registry × Option Error :=
  match document? with
  | some document => registry.registerDocument document
  | none => (registry, some failure)

/-- Register the themes of a JSON text. -/
def registerJson (registry : Registry) (text : String) : Registry × Option Error :=
  registry.registerRead (Json.read? text) .json

/-- Register the themes of a YAML text. -/
def registerYaml (registry : Registry) (text : String) : Registry × Option Error :=
  registry.registerRead ((Yaml.read? text).bind (Yaml.toJson? Yaml.nestingLimit)) .yaml

/-- Register the themes of a file.  Every error names the file. -/
def load (registry : Registry) (file : File) : Registry × Option Error :=
  match file.text with
  | .error error => (registry, some (.themeFile file.name error))
  | .ok text =>
      let (next, outcome) :=
        if file.isYaml then registry.registerYaml text else registry.registerJson text
      (next, outcome.map (Error.themeFile file.name))

end Registry
end ThemedStyles
