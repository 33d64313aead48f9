import Mathlib.Data.List.Nodup
import ThemedStyles.Proofs.Registry.Documents
import ThemedStyles.Proofs.Themes.Patches

namespace ThemedStyles

/-!
# The registry as a total map

A registry gives a theme to every name, for a name that is not registered stands
for the fallback.  A call changes this map at the names that it is about and
nowhere else.  The fallback is only ever read, when a name is new to registering
or to editing, and so all names that are not registered keep standing for it.

Registered names are never forgotten and never change their places.  Editing every
theme goes through them in their order, once each, and the change may hand on what
it has seen.
-/

namespace Registry

/-- A call on a registry that may change it. -/
inductive Call : Type 1 where
  | register (name : String) (fragment : Json)
  | edit (name : String) (change : Theme -> Theme)
  | editEach {σ : Type} (start : σ) (change : σ -> String -> Theme -> Theme × σ)
  | activate (name : String)
  | subscribe (listener : String)
  | unsubscribe (id : Nat)

/-- The registry after a call, whether the call succeeds or fails. -/
def perform (registry : Registry) : Call -> Registry
  | .register name fragment => (registry.registerAll [(name, fragment)]).1
  | .edit name change => registry.edit name change
  | .editEach start change => (registry.editEach start change).1
  | .activate name => (registry.activate name).1
  | .subscribe listener => (registry.subscribe listener).1
  | .unsubscribe id => (registry.unsubscribe id).1

/-- The registry after calls, the first of them first. -/
def run (registry : Registry) (calls : List Call) : Registry := calls.foldl perform registry

/-! ## What calls do to the map -/

section Each

variable {σ : Type} (registry : Registry) (start : σ) (change : σ -> String -> Theme -> Theme × σ)

/-- What a change hands on when it has been through the themes of some names. -/
def handedOn (names : List String) : σ :=
  names.foldl (fun state name => (change state name (registry.theme name)).2) start

/-- Every registered name stands for its changed theme, where the change has been
through the names before it and no others. -/
structure EditedEach (next : Registry) (last : σ) : Prop where
  each : forall before name after, registry.names = before ++ name :: after ->
    next.theme name =
      (change (registry.handedOn start change before) name (registry.theme name)).1
  last : last = registry.handedOn start change registry.names
  others : forall name, name ∉ registry.names -> next.theme name = registry.theme name
  names : next.names = registry.names
  rest : { next with themes := registry.themes } = registry

end Each

/-- All names stand for what they did, and the same are registered. -/
structure SameThemes (registry next : Registry) : Prop where
  themes : forall name, next.theme name = registry.theme name
  names : next.names = registry.names
  fallback : next.fallback = registry.fallback

variable {registry next : Registry}

theorem perform_register_of_ok {name : String} {fragment : Json}
    (registered : registry.register name fragment = .ok next) :
    registry.perform (.register name fragment) = next := by
  rw [perform, registerAll, registered]
  rfl

/-- A fragment that fails changes nothing. -/
theorem perform_register_of_error {name : String} {fragment : Json} {error : Error}
    (refused : registry.register name fragment = .error error) :
    registry.perform (.register name fragment) = registry := by
  rw [perform, registerAll, refused]

theorem updated_edit (registry : Registry) (name : String) (change : Theme -> Theme) :
    registry.Updated (registry.edit name change) name (change (registry.theme name)) :=
  registry.updated_put name _

/-- Without repeated names, the themes are those that the names stand for. -/
theorem themes_eq_map_names (distinct : registry.names.Nodup) :
    registry.themes = registry.names.map fun name => (name, registry.theme name) :=
  Entries.eq_map_keys registry.themes registry.fallback distinct

section Each

variable {σ : Type} (start : σ) (change : σ -> String -> Theme -> Theme × σ)

theorem mapValuesFrom_names (names : List String) :
    (Entries.mapValuesFrom change start (names.map fun name => (name, registry.theme name))).2 =
      registry.handedOn start change names := by
  rw [Entries.mapValuesFrom_snd, List.foldl_map]
  rfl

theorem names_editEach : (registry.editEach start change).1.names = registry.names :=
  Entries.keys_mapValuesFrom change start registry.themes

theorem editedEach_editEach (distinct : registry.names.Nodup) :
    registry.EditedEach start change (registry.editEach start change).1
      (registry.editEach start change).2 where
  each := by
    intro before name after split
    have first : name ∉ before := by
      rw [split, List.nodup_append] at distinct
      exact fun member => distinct.2.2 name member name List.mem_cons_self rfl
    have themes_split := themes_eq_map_names distinct
    rw [split, List.map_append, List.map_cons] at themes_split
    have earlier : name ∉ Entries.keys (before.map fun name => (name, registry.theme name)) := by
      rw [Entries.keys, List.map_map]
      simpa using first
    have looked := Entries.get?_mapValuesFrom change start _
      (after.map fun name => (name, registry.theme name)) name (registry.theme name) earlier
    rw [← themes_split, mapValuesFrom_names] at looked
    exact congrArg (fun found => found.getD registry.fallback) looked
  last := by
    refine Eq.trans ?_ (mapValuesFrom_names start change registry.names)
    exact congrArg (fun themes => (Entries.mapValuesFrom change start themes).2)
      (themes_eq_map_names distinct)
  others := by
    intro name away
    have missing : name ∉ (registry.editEach start change).1.names :=
      (names_editEach start change).symm ▸ away
    rw [theme, theme, (Entries.get?_eq_none_iff _ _).mpr away,
      (Entries.get?_eq_none_iff _ _).mpr missing]
    rfl
  names := names_editEach start change
  rest := rfl

end Each

/-- A change is handed every theme under its name, once each and in order. -/
theorem editEach_visits (distinct : registry.names.Nodup) (change : String -> Theme -> Theme) :
    (registry.editEach [] fun visited name theme =>
        (change name theme, visited ++ [(name, theme)])).2 =
      registry.names.map fun name => (name, registry.theme name) := by
  rw [(editedEach_editEach _ _ distinct).last, handedOn]
  suffices appended_to_visited : forall (names : List String) (visited : List (String × Theme)),
      names.foldl (fun visited name => visited ++ [(name, registry.theme name)]) visited =
        visited ++ names.map fun name => (name, registry.theme name) from
    appended_to_visited registry.names []
  intro names
  induction names with
  | nil => intro visited; simp
  | cons name rest inductionHypothesis => intro visited; simp [inductionHypothesis]

theorem sameThemes_activate (registry : Registry) (name : String) :
    registry.SameThemes (registry.activate name).1 := by
  rw [activate]
  split <;> exact ⟨fun _ => rfl, rfl, rfl⟩

theorem sameThemes_subscribe (registry : Registry) (listener : String) :
    registry.SameThemes (registry.subscribe listener).1 :=
  ⟨fun _ => rfl, rfl, rfl⟩

theorem sameThemes_unsubscribe (registry : Registry) (id : Nat) :
    registry.SameThemes (registry.unsubscribe id).1 :=
  ⟨fun _ => rfl, rfl, rfl⟩

/-! ## Registering twice -/

/-- The fragments of a document that was read repeat no key. -/
theorem distinct_fragment_of_parsed? {isYaml : Bool} {text name : String} {fragments : Entries Json}
    {fragment : Json} (parsed : DocumentSource.parsed? isYaml text = some (.object fragments))
    (member : (name, fragment) ∈ fragments) : fragment.distinct = true := by
  have whole : (Json.object fragments).distinct = true := by
    cases isYaml with
    | false =>
        obtain ⟨written, _, collapsed⟩ := Option.map_eq_some_iff.mp parsed
        exact collapsed ▸ written.distinct_collapsed
    | true =>
        obtain ⟨node, _, converted⟩ := Option.bind_eq_some_iff.mp parsed
        obtain ⟨written, _, collapsed⟩ := Option.map_eq_some_iff.mp converted
        exact collapsed ▸ written.distinct_collapsed
  exact ((Json.distinct_object_iff fragments).mp whole).2 _ member

/-- A fragment that has been registered changes nothing when it is registered again
under the same name. -/
theorem register_again {name : String} {fragment : Json} (distinct : fragment.distinct = true)
    (registered : registry.register name fragment = .ok next) :
    next.register name fragment = .ok next := by
  rcases register_eq_ok_iff.mp registered with ⟨theme, patched, rfl⟩
  have present : (registry.themes.put name theme).get? name = some theme := by simp
  refine register_eq_ok_iff.mpr ⟨theme, ?_, ?_⟩
  · rw [Registry.theme, present]
    exact Theme.patched?_again distinct patched
  · rw [Entries.put_of_get?_eq_some present]

/-- An octave that adopts a generator from the bounds in a list, a number that is
not finite, and an unknown key. -/
theorem register_light_again :
    let octave : Octave := ⟨some ⟨7, fun index => (toString index, "1px")⟩, some 1, some 4⟩
    let registry := (new Theme.dark).edit "light" fun theme =>
      { theme with
        spacing := [octave]
        typography := { theme.typography with h1 := [("lineHeight", .number .nan)] } }
    let fragment : Json := .object
      [("spacingOct", .list [.list [.integer 1, .integer 4], .object [("min", .null)]]),
       ("unknown", .object [("key", .null)])]
    ∃ next, registry.register "light" fragment = .ok next ∧
      next.register "light" fragment = .ok next := by
  intro octave registry fragment
  have distinct : fragment.distinct = true := by decide +kernel
  have succeeds : (registry.register "light" fragment).isOk = true := by decide +kernel
  cases registered : registry.register "light" fragment with
  | ok next => exact ⟨next, rfl, register_again distinct registered⟩
  | error error =>
      rw [registered] at succeeds
      cases succeeds

/-! ## Runs -/

/-- Calls have made the one registry into the other. -/
structure Grown (registry next : Registry) : Prop where
  order : registry.names <+: next.names
  distinct : registry.names.Nodup -> next.names.Nodup
  fallback : next.fallback = registry.fallback

namespace Grown

theorem refl (registry : Registry) : registry.Grown registry :=
  ⟨List.prefix_rfl, id, rfl⟩

theorem trans {last : Registry} (first : registry.Grown next) (second : next.Grown last) :
    registry.Grown last where
  order := first.order.trans second.order
  distinct := second.distinct ∘ first.distinct
  fallback := second.fallback.trans first.fallback

theorem of_names_eq (names : next.names = registry.names)
    (fallback : next.fallback = registry.fallback) : registry.Grown next where
  order := names ▸ List.prefix_rfl
  distinct distinct := names ▸ distinct
  fallback := fallback

theorem of_updated {name : String} {theme : Theme} (updated : registry.Updated next name theme) :
    registry.Grown next where
  order := updated.order
  distinct distinct := by
    rw [updated.names]
    split
    · exact distinct
    · exact List.concat_eq_append ▸ List.Nodup.concat ‹_› distinct
  fallback := by rw [← updated.rest]

end Grown

theorem SameThemes.grown (same : registry.SameThemes next) : registry.Grown next :=
  .of_names_eq same.names same.fallback

theorem grown_perform (registry : Registry) (call : Call) :
    registry.Grown (registry.perform call) := by
  cases call with
  | register name fragment =>
      cases outcome : registry.register name fragment with
      | ok next =>
          rw [perform_register_of_ok outcome]
          rcases updated_of_register outcome with ⟨theme, _, updated⟩
          exact .of_updated updated
      | error error =>
          rw [perform_register_of_error outcome]
          exact .refl registry
  | edit name change => exact .of_updated (registry.updated_edit name change)
  | editEach start change => exact .of_names_eq (names_editEach start change) rfl
  | activate name => exact (registry.sameThemes_activate name).grown
  | subscribe listener => exact (registry.sameThemes_subscribe listener).grown
  | unsubscribe id => exact (registry.sameThemes_unsubscribe id).grown

theorem grown_run (registry : Registry) (calls : List Call) :
    registry.Grown (registry.run calls) := by
  induction calls generalizing registry with
  | nil => exact .refl registry
  | cons call rest inductionHypothesis =>
      exact (registry.grown_perform call).trans (inductionHypothesis _)

/-- After any run, the registry is a total map from names to themes, in which a
call changes the themes that it is about.  Names that are not registered stand for
the fallback of the beginning, and the names that are registered stay in front. -/
theorem run_is_total_map (fallback : Theme) (calls : List Call) :
    let registry := (new fallback).run calls
    (registry.fallback = fallback ∧
      (forall name, name ∉ registry.names -> registry.theme name = fallback) ∧
      ["light", "dark"] <+: registry.names ∧ registry.names.Nodup ∧
      forall more, registry.names <+: (registry.run more).names) ∧
    (forall name fragment next, registry.register name fragment = .ok next ->
      registry.perform (.register name fragment) = next ∧
      ∃ theme, (registry.theme name).patched? fragment = some theme ∧
        registry.Updated next name theme) ∧
    (forall name fragment error, registry.register name fragment = .error error ->
      registry.perform (.register name fragment) = registry ∧
      (registry.theme name).patched? fragment = none) ∧
    (forall name change,
      registry.Updated (registry.edit name change) name (change (registry.theme name))) ∧
    (forall (σ : Type) (start : σ) change, registry.EditedEach start change
      (registry.editEach start change).1 (registry.editEach start change).2) ∧
    (forall change : String -> Theme -> Theme, (registry.editEach [] fun visited name theme =>
        (change name theme, visited ++ [(name, theme)])).2 =
      registry.names.map fun name => (name, registry.theme name)) ∧
    (forall name, registry.SameThemes (registry.activate name).1) ∧
    (forall listener, registry.SameThemes (registry.subscribe listener).1) ∧
    (forall id, registry.SameThemes (registry.unsubscribe id).1) := by
  intro registry
  have grown : (new fallback).Grown registry := grown_run _ calls
  have distinct : registry.names.Nodup := grown.distinct (show ["light", "dark"].Nodup by decide)
  refine ⟨⟨grown.fallback, ?unregistered, grown.order, distinct,
      fun more => (registry.grown_run more).order⟩,
    fun _ _ _ registered =>
      ⟨perform_register_of_ok registered, updated_of_register registered⟩,
    fun _ _ _ refused =>
      ⟨perform_register_of_error refused, (register_eq_error_iff.mp refused).1⟩,
    registry.updated_edit,
    fun _ start change => editedEach_editEach start change distinct, editEach_visits distinct,
    registry.sameThemes_activate, registry.sameThemes_subscribe, registry.sameThemes_unsubscribe⟩
  case unregistered =>
    intro name missing
    rw [theme, (Entries.get?_eq_none_iff _ _).mpr missing]
    exact grown.fallback

/-- After edits, a new name starts from the fallback as it was at the beginning. -/
theorem ocean_beside_dusk :
    let fragment : Json := .object [("palette", .object [("type", .string "sea")])]
    let calls : List Call :=
      [.edit "dusk" fun theme => { theme with spacing := [] }, .subscribe "page",
       .editEach 14 fun size _ theme =>
         ({ theme with typography := { theme.typography with htmlFontSize := size } }, size + 1),
       .activate "dusk", .register "dusk" (.list [])]
    let registry := (new Theme.dark).run calls
    registry.names = ["light", "dark", "dusk"] ∧
      ∃ next theme, registry.register "ocean" fragment = .ok next ∧
        Theme.dark.patched? fragment = some theme ∧ registry.Updated next "ocean" theme := by
  intro fragment calls registry
  have names : registry.names = ["light", "dark", "dusk"] := by decide +kernel
  have succeeds : (registry.register "ocean" fragment).isOk = true := by decide +kernel
  rcases run_is_total_map Theme.dark calls with ⟨⟨_, unregistered, _⟩, registers, _⟩
  have start : registry.theme "ocean" = Theme.dark := unregistered "ocean" (names ▸ by decide)
  cases registered : registry.register "ocean" fragment with
  | ok next =>
      obtain ⟨_, theme, patched, updated⟩ := registers "ocean" fragment next registered
      exact ⟨names, next, theme, rfl, start ▸ patched, updated⟩
  | error error =>
      rw [registered] at succeeds
      cases succeeds

end Registry
end ThemedStyles
