import ThemedStyles.Registry.Loading

namespace ThemedStyles

/-!
# Documents of which a part is registered

Registering one fragment is all or nothing: the patched theme is made first, and
the registry is touched only when there is one.  A document is registered one
fragment after the other, and the first fragment that fails ends it.  What came
before that fragment stays registered, so a document is not all or nothing.

A document that fails leaves the registry as it was if its very first fragment
fails, or if there was no fragment to begin with.  Otherwise the fragments before
the failing one are registered.  Whether that is seen depends on what they say: a
new name is listed from then on, while a patch may well leave a theme as it was.
Themes of other names, the fallback, the active name and the subscriptions are
never touched.
-/

/-- The ways in which a theme document is given. -/
inductive DocumentSource where
  | value (document : Json)
  | jsonText (text : String)
  | yamlText (text : String)
  | stored (file : File)

namespace DocumentSource

/-- The document of a YAML or a JSON text, if it can be read. -/
def parsed? (isYaml : Bool) (text : String) : Option Json :=
  if isYaml then (Yaml.read? text).bind (Yaml.toJson? Yaml.nestingLimit) else Json.read? text

/-- The document, if it can be read. -/
def document? : DocumentSource -> Option Json
  | value document => some document
  | jsonText text => parsed? false text
  | yamlText text => parsed? true text
  | stored file => file.text.toOption.bind (parsed? file.isYaml)

/-- An error as it is reported.  A file puts its name to every error. -/
def reported : DocumentSource -> Error -> Error
  | stored file, cause => .themeFile file.name cause
  | _, cause => cause

end DocumentSource

namespace Registry

/-- Register the themes of a document, however it is given. -/
def registerFrom (registry : Registry) : DocumentSource -> Registry × Option Error
  | .value document => registry.registerDocument document
  | .jsonText text => registry.registerJson text
  | .yamlText text => registry.registerYaml text
  | .stored file => registry.load file

/-! ## What registering touches -/

/-- One name stands for a theme now, and all others stand for what they did. -/
structure Updated (registry next : Registry) (name : String) (theme : Theme) : Prop where
  self : next.theme name = theme
  others : forall other, other ≠ name -> next.theme other = registry.theme other
  names : next.names = if name ∈ registry.names then registry.names else registry.names ++ [name]
  rest : { next with themes := registry.themes } = registry

/-- Registering fragments of these names has made the one registry into the
other. -/
structure Touched (registry next : Registry) (named : List String) : Prop where
  /-- Registered names keep their places, and new ones follow. -/
  order : registry.names <+: next.names
  names : forall name, name ∈ next.names ↔ name ∈ registry.names ∨ name ∈ named
  themes : forall name, name ∉ named -> next.theme name = registry.theme name
  rest : { next with themes := registry.themes } = registry

variable {registry next : Registry} {error : Error}

namespace Touched

theorem refl (registry : Registry) : registry.Touched registry [] where
  order := List.prefix_rfl
  names _ := (or_iff_left List.not_mem_nil).symm
  themes _ _ := rfl
  rest := rfl

theorem trans {last : Registry} {named more : List String} (first : registry.Touched next named)
    (second : next.Touched last more) : registry.Touched last (named ++ more) where
  order := first.order.trans second.order
  names name := by rw [second.names, first.names, List.mem_append, or_assoc]
  themes name away := by
    rw [List.mem_append, not_or] at away
    rw [second.themes name away.2, first.themes name away.1]
  rest := by
    have earlier := first.rest
    rw [← second.rest] at earlier
    exact earlier

end Touched

namespace Updated

variable {name : String} {theme : Theme}

theorem order (updated : registry.Updated next name theme) : registry.names <+: next.names := by
  rw [updated.names]
  split
  · exact List.prefix_rfl
  · exact List.prefix_append _ _

end Updated

theorem register_eq_ok_iff {name : String} {fragment : Json} :
    registry.register name fragment = .ok next ↔
      ∃ theme, (registry.theme name).patched? fragment = some theme ∧
        { registry with themes := registry.themes.put name theme } = next := by
  unfold register
  cases (registry.theme name).patched? fragment <;> simp

/-- A fragment fails where the patched form is no theme. -/
theorem register_eq_error_iff {name : String} {fragment : Json} :
    registry.register name fragment = .error error ↔
      (registry.theme name).patched? fragment = none ∧ error = .themeParse name := by
  unfold register
  cases (registry.theme name).patched? fragment <;> simp [eq_comm]

theorem updated_put (registry : Registry) (name : String) (theme : Theme) :
    registry.Updated { registry with themes := registry.themes.put name theme } name theme where
  self := by simp [Registry.theme]
  others other away := by simp [Registry.theme, away]
  names := by
    change (registry.themes.put name theme).keys = _
    split
    · rename_i known
      exact Entries.keys_put_of_mem _ _ _ known
    · rename_i new
      exact Entries.keys_put_of_not_mem _ _ _ new
  rest := rfl

theorem updated_of_register {name : String} {fragment : Json}
    (registered : registry.register name fragment = .ok next) :
    ∃ theme, (registry.theme name).patched? fragment = some theme ∧
      registry.Updated next name theme := by
  rcases register_eq_ok_iff.mp registered with ⟨theme, patched, rfl⟩
  exact ⟨theme, patched, registry.updated_put name theme⟩

/-- What becomes of a document does not depend on how it is given; the source
only puts its name to the error, and names one where there is no document. -/
theorem exists_registerFrom_eq (registry : Registry) (source : DocumentSource) :
    ∃ failure, registry.registerFrom source =
      ((registry.registerRead source.document? failure).1,
        (registry.registerRead source.document? failure).2.map source.reported) := by
  cases source with
  | value document => exact ⟨.json, Prod.ext rfl Option.map_id'.symm⟩
  | jsonText text => exact ⟨.json, Prod.ext rfl Option.map_id'.symm⟩
  | yamlText text => exact ⟨.yaml, Prod.ext rfl Option.map_id'.symm⟩
  | stored file =>
      cases content : file.text with
      | error cause =>
          refine ⟨cause, ?_⟩
          rw [registerFrom, load, DocumentSource.document?, content]
          rfl
      | ok text =>
          rw [registerFrom, load, DocumentSource.document?, content]
          cases yaml : file.isYaml with
          | true => exact ⟨.yaml, rfl⟩
          | false => exact ⟨.json, rfl⟩

end Registry
end ThemedStyles
