import ThemedStyles.Proofs.Compilation.Newcomers
import ThemedStyles.Session

namespace ThemedStyles

/-!
# Runs of calls on a session

A run is a list of calls, each of which may change the session.  The registry
may be changed in any way between two other calls: registering and editing
themes, changing the active name and keeping subscriptions are all changes of
the registry, and nothing that is proved of runs depends on what they do to it.
An observer is not part of a session, so that every width comes with the
observer that takes it.

A call meets the compiler and the ledger in few ways.  They are listed once, as
the effects of a call, and everything else about runs is proved by cases of the
effect.
-/

namespace Session

/-- A call on a session that may change it. -/
inductive Call where
  | applyTheme (name : String) (generator : Generator)
  | applyActive (generator : Generator)
  | compile (book : Book) (scope : String)
  | compileBag (bag : Entries Book)
  | installLayout (scope : String)
  | observe (observer : WidthObserver) (width : Nat)
  | changeThemes (change : Registry -> Registry)
  | activate (name : String)
  | invalidate (name : String)
  /-- Forget selectors on the compiler of the session, behind the back of the
  ledger. -/
  | forget (selectors : List String)

/-- The session after a call. -/
def perform (session : Session) : Call -> Session
  | .applyTheme name generator => (session.applyTheme name generator).1
  | .applyActive generator => (session.applyActive generator).1
  | .compile book scope => session.compile book scope
  | .compileBag bag => session.compileBag bag
  | .installLayout scope => session.installLayout scope
  | .observe observer width => (session.observe observer width).1
  | .changeThemes change => { session with registry := change session.registry }
  | .activate name => (session.activate name).1
  | .invalidate name => (session.invalidate name).1
  | .forget selectors => { session with compiler := (session.compiler.forget selectors).1 }

/-- The session after calls, the first of them first. -/
def run (session : Session) (calls : List Call) : Session := calls.foldl perform session

theorem run_append (session : Session) (calls more : List Call) :
    session.run (calls ++ more) = (session.run calls).run more :=
  List.foldl_append

theorem run_append_singleton (session : Session) (calls : List Call) (call : Call) :
    session.run (calls ++ [call]) = (session.run calls).perform call := by
  rw [run_append]
  rfl

/-- The compiled selectors, in order. -/
def compiled (session : Session) : List String := session.compiler.classes.compiled

namespace Call

/-- The theme name to which a call applies a generator. -/
def target? (session : Session) : Call -> Option String
  | .applyTheme name _ => some name
  | .applyActive _ => some session.registry.active
  | _ => none

/-- Does the call forget selectors on the compiler? -/
def forgets : Call -> Bool
  | .forget _ => true
  | _ => false

end Call

/-! ## The effects of a call -/

/-- What a call can do to the compiler and to the ledger of a session. -/
inductive Effect (session : Session) (call : Call) (next : Session) : Prop
  /-- Both stay, and nothing was to be invalidated. -/
  | kept (spares : forall name, call ≠ .invalidate name)
      (compiler : next.compiler = session.compiler) (ledger : next.ledger = session.ledger)
  /-- Books are compiled directly, for no theme. -/
  | direct (bag : Entries Book) (spares : forall name, call ≠ .invalidate name)
      (untargeted : call.target? session = none)
      (compiler : next.compiler = session.compiler.compileBag bag)
      (ledger : next.ledger = session.ledger)
  /-- A book is compiled for a theme and noted with its generator, which was not
  noted before. -/
  | applied (name id : String) (book : Book) (target : call.target? session = some name)
      (first : session.ledger.isApplied name id = false)
      (compiler : next.compiler = (session.compiler.compile book (themeScope name)).1)
      (ledger : next.ledger =
        session.ledger.mark name id (session.compiler.compile book (themeScope name)).2)
  /-- The notes of a theme are struck out and their selectors forgotten. -/
  | invalidated (name : String) (invalidates : call = .invalidate name)
      (compiler : next.compiler =
        (session.compiler.forget (session.ledger.selectors name)).1)
      (ledger : next.ledger = (session.ledger.invalidate name).1)
  /-- Selectors are forgotten that may still be noted. -/
  | forgotten (selectors : List String) (forgets : call = .forget selectors)
      (compiler : next.compiler = (session.compiler.forget selectors).1)
      (ledger : next.ledger = session.ledger)

/-- While a pair is noted, applying the generator changes nothing. -/
theorem applyTheme_of_isApplied (session : Session) (name : String) (generator : Generator)
    (applied : session.ledger.isApplied name generator.id = true) :
    session.applyTheme name generator = (session, none) :=
  if_pos applied

/-- A generator that fails changes nothing. -/
theorem applyTheme_of_error (session : Session) (name : String) (generator : Generator)
    {error : Error} (first : session.ledger.isApplied name generator.id = false)
    (fails : generator.generate (session.registry.theme name) name = .error error) :
    session.applyTheme name generator = (session, some error) := by
  simp [applyTheme, first, fails]

/-- A generator that succeeds has its book compiled and noted. -/
theorem applyTheme_of_ok (session : Session) (name : String) (generator : Generator)
    {book : Book} (first : session.ledger.isApplied name generator.id = false)
    (makes : generator.generate (session.registry.theme name) name = .ok book) :
    session.applyTheme name generator =
      ({ session with
          compiler := (session.compiler.compile book (themeScope name)).1
          ledger := session.ledger.mark name generator.id
            (session.compiler.compile book (themeScope name)).2 }, none) := by
  simp [applyTheme, first, makes]

/-- Invalidating a theme name that was never noted strikes out and forgets
nothing, like any other invalidation of no selectors. -/
theorem invalidate_fst (session : Session) (name : String) :
    (session.invalidate name).1 =
      { session with
        compiler := (session.compiler.forget (session.ledger.selectors name)).1
        ledger := (session.ledger.invalidate name).1 } := by
  unfold invalidate Ledger.invalidate
  by_cases noted : session.ledger.applied.has name
  · simp only [if_pos noted]
  · have missing : session.ledger.applied.get? name = none := Option.not_isSome_iff_eq_none.mp noted
    have nothing : session.ledger.selectors name = [] := by
      unfold Ledger.selectors Ledger.notes
      rw [missing]
      rfl
    simp only [if_neg noted, nothing]
    rfl

theorem applyTheme_effect (session : Session) (call : Call) (name : String)
    (generator : Generator) (target : call.target? session = some name)
    (spares : forall other, call ≠ .invalidate other) :
    Effect session call (session.applyTheme name generator).1 := by
  cases applied : session.ledger.isApplied name generator.id with
  | true =>
      rw [applyTheme_of_isApplied session name generator applied]
      exact .kept spares rfl rfl
  | false =>
      cases outcome : generator.generate (session.registry.theme name) name with
      | error error =>
          rw [applyTheme_of_error session name generator applied outcome]
          exact .kept spares rfl rfl
      | ok book =>
          rw [applyTheme_of_ok session name generator applied outcome]
          exact .applied name generator.id book target applied rfl rfl

theorem compileBag_effect (session : Session) (call : Call) (bag : Entries Book)
    (untargeted : call.target? session = none)
    (spares : forall other, call ≠ .invalidate other) :
    Effect session call (session.compileBag bag) :=
  .direct bag spares untargeted rfl rfl

theorem perform_effect (session : Session) (call : Call) :
    Effect session call (session.perform call) := by
  cases call with
  | applyTheme name generator =>
      exact session.applyTheme_effect _ name generator rfl fun _ => Call.noConfusion
  | applyActive generator =>
      exact session.applyTheme_effect _ session.registry.active generator rfl
        fun _ => Call.noConfusion
  | compile book scope =>
      exact session.compileBag_effect _ [(scope, book)] rfl fun _ => Call.noConfusion
  | compileBag bag => exact session.compileBag_effect _ bag rfl fun _ => Call.noConfusion
  | installLayout scope =>
      exact session.compileBag_effect _ [(scope, Book.layout)] rfl fun _ => Call.noConfusion
  | observe observer width =>
      cases carried : observer.books.get? (bucketOf width) with
      | none =>
          refine .kept (fun _ => Call.noConfusion) ?_ rfl
          simp [perform, Session.observe, WidthObserver.observe, WidthObserver.compileBucket,
            carried]
      | some book =>
          refine .direct [("." ++ bucketClass (bucketOf width), book)]
            (fun _ => Call.noConfusion) rfl ?_ rfl
          simp [perform, Session.observe, WidthObserver.observe, WidthObserver.compileBucket,
            carried, Compiler.compileBag]
  | changeThemes change => exact .kept (fun _ => Call.noConfusion) rfl rfl
  | activate name => exact .kept (fun _ => Call.noConfusion) rfl rfl
  | invalidate name =>
      refine .invalidated name rfl ?_ ?_ <;>
        · rw [perform, invalidate_fst]
  | forget selectors => exact .forgotten selectors rfl rfl rfl

/-! ## Sessions from settings -/

/-- A session that settings describe is reached from a new one by calls that
change the themes, make a name active and install the layout. -/
theorem exists_run_of_ofSettings {settings : Settings} {mode : ColourMode} {session : Session}
    (made : ofSettings settings mode = .ok session) :
    ∃ calls : List Call, session = new.run calls ∧
      forall call, call ∈ calls -> call.forgets = false := by
  unfold ofSettings at made
  cases themed : new.withThemes settings.themes with
  | error error =>
      rw [themed] at made
      cases made
  | ok start =>
      rw [themed] at made
      have changed : start = new.perform (.changeThemes fun _ => start.registry) := by
        unfold withThemes at themed
        split at themed
        · exact (Except.ok.inj themed) ▸ rfl
        · split at themed
          · cases themed
          · exact (Except.ok.inj themed) ▸ rfl
      let first := if settings.followSystem then mode.themeName else settings.theme
      have whole : session = if settings.includeBase
          then (start.perform (.activate first)).perform (.installLayout settings.baseScope)
          else start.perform (.activate first) := (Except.ok.inj made).symm
      rw [changed] at whole
      by_cases base : settings.includeBase
      · rw [if_pos base] at whole
        exact ⟨[.changeThemes fun _ => start.registry, .activate first,
          .installLayout settings.baseScope], whole, by simp [Call.forgets]⟩
      · rw [if_neg base] at whole
        exact ⟨[.changeThemes fun _ => start.registry, .activate first], whole,
          by simp [Call.forgets]⟩

end Session
end ThemedStyles
