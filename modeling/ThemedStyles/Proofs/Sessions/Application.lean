import ThemedStyles.Proofs.Sessions.Calls

namespace ThemedStyles
namespace Session

/-!
# Applying a generator exactly once

A pair of a theme name and a generator id is noted by the first application that
succeeds.  From then on every application of a generator with that id changes
nothing, however the themes, the active name and the compiler have changed in
between, and even if the generator would now make another book or fail.  Only an
invalidation of the theme name ends this.  An application that fails leaves no
trace.
-/

/-- No call makes the ledger note a name twice. -/
theorem distinct_perform {session : Session} (distinct : session.ledger.Distinct) (call : Call) :
    (session.perform call).ledger.Distinct := by
  cases session.perform_effect call with
  | kept _ _ ledger => exact ledger ▸ distinct
  | direct _ _ _ _ ledger => exact ledger ▸ distinct
  | applied name id _ _ _ _ ledger => exact ledger ▸ distinct.mark name id _
  | invalidated name _ _ ledger => exact ledger ▸ distinct.invalidate name
  | forgotten _ _ _ ledger => exact ledger ▸ distinct

theorem distinct_run {session : Session} (distinct : session.ledger.Distinct)
    (calls : List Call) : (session.run calls).ledger.Distinct :=
  List.foldlRecOn (motive := fun state => state.ledger.Distinct) calls perform distinct
    fun _ before call _ => distinct_perform before call

/-- A noted pair stays noted under every call but an invalidation of its theme. -/
theorem isApplied_perform {session : Session} (distinct : session.ledger.Distinct)
    {name id : String} (applied : session.ledger.isApplied name id = true) {call : Call}
    (spares : call ≠ .invalidate name) :
    (session.perform call).ledger.isApplied name id = true := by
  cases session.perform_effect call with
  | kept _ _ ledger => rw [ledger, applied]
  | direct _ _ _ _ ledger => rw [ledger, applied]
  | applied other tag _ _ _ _ ledger => rw [ledger, Ledger.isApplied_mark, applied, Bool.or_true]
  | invalidated other invalidates _ ledger =>
      have different : name ≠ other := fun equal => spares (equal ▸ invalidates)
      rw [ledger, Ledger.isApplied_invalidate distinct, applied, decide_eq_true different]
      rfl
  | forgotten _ _ _ ledger => rw [ledger, applied]

theorem isApplied_run {session : Session} (distinct : session.ledger.Distinct)
    {name id : String} (applied : session.ledger.isApplied name id = true) (calls : List Call)
    (spares : .invalidate name ∉ calls) :
    (session.run calls).ledger.isApplied name id = true := by
  induction calls generalizing session with
  | nil => exact applied
  | cons call rest inductionHypothesis =>
      apply inductionHypothesis (distinct_perform distinct call)
      · exact isApplied_perform distinct applied fun equal => spares (equal ▸ List.mem_cons_self)
      · exact fun member => spares (List.mem_cons_of_mem _ member)

/-- An application either fails and changes nothing, or leaves its pair noted. -/
theorem applyTheme_cases (session : Session) (name : String) (generator : Generator) :
    (∃ error, session.applyTheme name generator = (session, some error)) ∨
      ((session.applyTheme name generator).2 = none ∧
        (session.applyTheme name generator).1.ledger.isApplied name generator.id = true) := by
  cases applied : session.ledger.isApplied name generator.id with
  | true =>
      rw [applyTheme_of_isApplied session name generator applied]
      exact Or.inr ⟨rfl, applied⟩
  | false =>
      cases outcome : generator.generate (session.registry.theme name) name with
      | error error =>
          exact Or.inl ⟨error, applyTheme_of_error session name generator applied outcome⟩
      | ok book =>
          rw [applyTheme_of_ok session name generator applied outcome]
          refine Or.inr ⟨rfl, ?_⟩
          simp [Ledger.isApplied_mark]

/-- A generator is applied to a theme exactly once between two invalidations of
the theme.  An application that fails changes nothing.  After one that succeeds
the pair is noted, and while the theme is not invalidated, whatever else is
called, it stays noted and every application of a generator with that id
succeeds and changes nothing.  An invalidation ends this. -/
theorem applied_exactly_once (calls : List Call) (name : String) (generator : Generator) :
    let session := new.run calls
    let outcome := session.applyTheme name generator
    (outcome.2 ≠ none -> outcome.1 = session) ∧
    (outcome.2 = none -> forall between, .invalidate name ∉ between ->
      let later := outcome.1.run between
      later.ledger.isApplied name generator.id = true ∧
      (forall other : Generator, other.id = generator.id ->
        later.applyTheme name other = (later, none) ∧
        (later.registry.active = name -> later.applyActive other = (later, none))) ∧
      (later.invalidate name).1.ledger.isApplied name generator.id = false) := by
  intro session outcome
  have distinct : session.ledger.Distinct := distinct_run Ledger.distinct_empty calls
  have next : outcome.1.ledger.Distinct :=
    distinct_perform distinct (.applyTheme name generator)
  rcases session.applyTheme_cases name generator with ⟨error, fails⟩ | ⟨succeeds, applied⟩
  · have failed : outcome = (session, some error) := fails
    rw [failed]
    exact ⟨fun _ => rfl, nofun⟩
  · refine ⟨fun failed => absurd succeeds failed, fun _ between spares => ?_⟩
    intro later
    have still : later.ledger.isApplied name generator.id = true :=
      isApplied_run next applied between spares
    have idle : forall other : Generator, other.id = generator.id ->
        later.applyTheme name other = (later, none) := by
      intro other same
      exact later.applyTheme_of_isApplied name other (same ▸ still)
    refine ⟨still, fun other same => ⟨idle other same, ?_⟩, ?_⟩
    · intro active
      unfold applyActive
      rw [active]
      exact idle other same
    · rw [invalidate_fst, Ledger.isApplied_invalidate (distinct_run next between)]
      simp

/-- A second generator with the id of the first would make another book and the
dark theme has been edited since, but its pair is noted. -/
theorem second_application_is_idle :
    let cards : Generator := .ofFunction "cards" fun _ _ => [("card", .book [("gap", "8px")])]
    let panels : Generator := .ofFunction "cards" fun _ _ => [("panel", .book [("gap", "4px")])]
    let later := ((new.run [.activate "dark"]).applyTheme "dark" cards).1.run
      [.changeThemes fun registry => registry.edit "dark" fun _ => Theme.light,
        .applyTheme "light" panels, .invalidate "light"]
    later.applyTheme "dark" panels = (later, none) := by
  intro cards panels
  exact (((applied_exactly_once [.activate "dark"] "dark" cards).2 rfl
    [.changeThemes fun registry => registry.edit "dark" fun _ => Theme.light,
      .applyTheme "light" panels, .invalidate "light"] (by simp)).2.1 panels rfl).1

end Session
end ThemedStyles
