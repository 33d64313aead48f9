import ThemedStyles.Proofs.Sessions.Commutation
import ThemedStyles.Proofs.Sessions.Ownership

namespace ThemedStyles
namespace Session

/-!
# Replaying the generators of a theme

An invalidated theme may be compiled again with the generators it was compiled
with.  Between the original calls other themes and direct compilations have had
their turn and may have taken selectors that the generators ask for.  Replaying
still makes the same stylesheets, selector by selector.

The reason is that a generator is never in doubt about a selector of its book.
Either it was marked when the generator came up, and then it has kept its mark,
or has got it back from an earlier generator of the same theme; or it was not,
and then the generator has compiled it, so that the invalidation has set it
free.  `Replays` says this of a moment of the original run and the moment of the
replay that goes with it.
-/

/-! ## What a run compiles for a theme -/

namespace Call

/-- The generator that a call applies to a theme. -/
def generator? (session : Session) (name : String) : Call -> Option Generator
  | .applyTheme theme generator => if theme = name then some generator else none
  | .applyActive generator => if session.registry.active = name then some generator else none
  | _ => none

theorem generator?_applyTheme (session : Session) (name : String) (generator : Generator) :
    (Call.applyTheme name generator).generator? session name = some generator :=
  if_pos rfl

/-- Does the call take marks away? -/
def removes : Call -> Bool
  | .invalidate _ => true
  | .forget _ => true
  | _ => false

theorem forgets_of_removes {call : Call} (calm : call.removes = false) :
    call.forgets = false := by
  cases call with
  | forget _ => cases calm
  | _ => rfl

end Call

/-- A successful application of a generator: the theme that it saw, the selectors
that it is noted with and the stylesheets that it has added. -/
structure Compilation where
  generator : Generator
  theme : Theme
  fresh : List String
  sheets : List String

/-- What a call compiles for a theme.  It has compiled something if it applies a
generator that is noted now and was not before. -/
def compilation? (session : Session) (name : String) (call : Call) : Option Compilation :=
  let next := session.perform call
  match call.generator? session name with
  | none => none
  | some generator =>
      if !session.ledger.isApplied name generator.id &&
          next.ledger.isApplied name generator.id then
        some ⟨generator, session.registry.theme name, next.ledger.listed name generator.id,
          next.compiler.sheets.drop session.compiler.sheets.length⟩
      else none

/-- What the calls compile for a theme, in order. -/
def compilations (name : String) : Session -> List Call -> List Compilation
  | _, [] => []
  | session, call :: rest =>
      (session.compilation? name call).toList ++ compilations name (session.perform call) rest

/-- The calls that apply the generators to the theme again. -/
def replay (name : String) (done : List Compilation) : List Call :=
  done.map fun compilation => .applyTheme name compilation.generator

/-- The compilation of a book that a generator has made. -/
def compiling (session : Session) (name : String) (generator : Generator) (book : Book) :
    Compilation where
  generator := generator
  theme := session.registry.theme name
  fresh := (session.compiler.compile book (themeScope name)).2
  sheets := sheet session.compiler.properties (session.compiler.newcomers book (themeScope name))

theorem perform_of_generator? {session : Session} {name : String} {call : Call}
    {generator : Generator} (found : call.generator? session name = some generator) :
    session.perform call = (session.applyTheme name generator).1 := by
  cases call with
  | applyTheme theme other =>
      rw [Call.generator?, Option.ite_none_right_eq_some] at found
      rw [← found.1, ← Option.some.inj found.2]
      rfl
  | applyActive other =>
      rw [Call.generator?, Option.ite_none_right_eq_some] at found
      rw [← found.1, ← Option.some.inj found.2]
      rfl
  | _ => cases found

theorem target?_ne_of_generator? {session : Session} {name : String} {call : Call}
    (missing : call.generator? session name = none) : call.target? session ≠ some name := by
  intro target
  cases call with
  | applyTheme theme generator =>
      rw [Call.generator?, if_pos (Option.some.inj target)] at missing
      cases missing
  | applyActive generator =>
      rw [Call.generator?, if_pos (Option.some.inj target)] at missing
      cases missing
  | _ => cases target

theorem not_isApplied_of_application {session : Session} {name : String} {generator : Generator}
    {book : Book} (makes : (session.application name generator).2 = some book) :
    session.ledger.isApplied name generator.id = false := by
  unfold application at makes
  split at makes
  · cases makes
  · rename_i first
    exact Bool.not_eq_true _ ▸ first

/-- A call that applies a generator compiles the book of its application, if
there is one. -/
theorem compilation?_of_generator? {session : Session} {name : String} {call : Call}
    {generator : Generator} (found : call.generator? session name = some generator) :
    session.compilation? name call =
      (session.application name generator).2.map (session.compiling name generator) := by
  simp only [compilation?, found, perform_of_generator? found, applyTheme_eq_note]
  cases made : (session.application name generator).2 with
  | none => simp [note]
  | some book =>
      have first := not_isApplied_of_application made
      simp [note, first, compiling, Ledger.isApplied_mark,
        Ledger.listed_mark_of_not_isApplied first, Compiler.compile_sheets]

section Made

variable {session : Session} {name : String} {call : Call} {generator : Generator} {book : Book}

theorem perform_of_made (found : call.generator? session name = some generator)
    (made : (session.application name generator).2 = some book) :
    session.perform call = session.note name generator.id (some book) := by
  rw [perform_of_generator? found, applyTheme_eq_note, made]

theorem compilation?_of_made (found : call.generator? session name = some generator)
    (made : (session.application name generator).2 = some book) :
    session.compilation? name call = some (session.compiling name generator book) := by
  rw [compilation?_of_generator? found, made, Option.map_some]

theorem compilations_of_made (found : call.generator? session name = some generator)
    (made : (session.application name generator).2 = some book) (rest : List Call) :
    session.compilations name (call :: rest) =
      session.compiling name generator book ::
        (session.perform call).compilations name rest := by
  rw [compilations, compilation?_of_made found made]
  rfl

theorem compilations_of_idle (idle : session.compilation? name call = none) (rest : List Call) :
    session.compilations name (call :: rest) = (session.perform call).compilations name rest := by
  rw [compilations, idle]
  rfl

theorem compiled_note (id : String) : (session.note name id (some book)).compiled =
    session.compiled ++ (session.compiling name generator book).fresh :=
  session.compiler.compile_compiled book (themeScope name)

/-- What is compiled was not compiled before and is asked for by the book. -/
theorem mem_fresh_iff (selector : String) :
    selector ∈ (session.compiling name generator book).fresh ↔
      selector ∉ session.compiled ∧
        selector ∈ (book.candidates (themeScope name)).map Candidate.selector :=
  session.compiler.mem_compile_snd_iff book (themeScope name) selector

end Made

/-! ## While nothing is removed -/

/-- A call that removes nothing leaves the notes of a theme alone, or applies a
generator to it that makes a book. -/
inductive Advance (session : Session) (name : String) (call : Call) : Prop
  | spared (idle : session.compilation? name call = none)
      (notes : (session.perform call).ledger.notes name = session.ledger.notes name)
  | compiled (generator : Generator) (book : Book)
      (found : call.generator? session name = some generator)
      (made : (session.application name generator).2 = some book)

theorem advance (session : Session) (name : String) {call : Call}
    (calm : call.removes = false) : session.Advance name call := by
  cases found : call.generator? session name with
  | some generator =>
      cases made : (session.application name generator).2 with
      | some book => exact .compiled generator book found made
      | none =>
          have performed : session.perform call = session := by
            rw [perform_of_generator? found, applyTheme_eq_note, made, note]
          refine .spared ?_ (congrArg (fun next => next.ledger.notes name) performed)
          rw [compilation?_of_generator? found, made, Option.map_none]
  | none =>
      have untargeted := target?_ne_of_generator? found
      refine .spared (by rw [compilation?, found]) ?_
      cases session.perform_effect call with
      | kept _ _ ledger => rw [ledger]
      | direct _ _ _ _ ledger => rw [ledger]
      | applied theme id book target _ _ ledger =>
          have different : name ≠ theme := fun same => untargeted (same ▸ target)
          rw [ledger, Ledger.notes_mark, if_neg different]
      | invalidated _ invalidates _ _ =>
          rw [invalidates] at calm
          cases calm
      | forgotten _ forgets _ _ =>
          rw [forgets] at calm
          cases calm

theorem compiled_subset_perform (session : Session) {call : Call}
    (calm : call.removes = false) : session.compiled ⊆ (session.perform call).compiled := by
  unfold compiled
  cases session.perform_effect call with
  | kept _ compiler _ =>
      rw [compiler]
      exact List.Subset.refl _
  | direct bag _ _ compiler _ =>
      rw [compiler]
      exact session.compiler.compiled_subset_compileBag bag
  | applied _ _ book _ _ compiler _ =>
      rw [compiler, Compiler.compile_compiled]
      exact List.subset_append_left _ _
  | invalidated _ invalidates _ _ =>
      rw [invalidates] at calm
      cases calm
  | forgotten _ forgets _ _ =>
      rw [forgets] at calm
      cases calm

theorem compiled_subset_run (session : Session) {calls : List Call}
    (calm : forall call, call ∈ calls -> call.removes = false) :
    session.compiled ⊆ (session.run calls).compiled :=
  List.foldlRecOn (motive := fun state => session.compiled ⊆ state.compiled) calls perform
    (List.Subset.refl _) fun _ before call member =>
      List.Subset.trans before (compiled_subset_perform _ (calm call member))

theorem theme_run {name : String} {calls : List Call}
    (kept : forall call, call ∈ calls -> forall state : Session,
      (state.perform call).registry.theme name = state.registry.theme name) (session : Session) :
    (session.run calls).registry.theme name = session.registry.theme name :=
  List.foldlRecOn (motive := fun state => state.registry.theme name = session.registry.theme name)
    calls perform rfl fun state before call member => (kept call member state).trans before

section Calm

variable {session : Session} {name : String} {calls : List Call}
  (calm : forall call, call ∈ calls -> call.removes = false)

include calm

/-- What later calls compile for a theme is not compiled yet. -/
theorem not_mem_compiled_of_fresh {selector : String}
    (later : selector ∈ (session.compilations name calls).flatMap Compilation.fresh) :
    selector ∉ session.compiled := by
  induction calls generalizing session with
  | nil => cases later
  | cons call rest inductionHypothesis =>
      rcases List.forall_mem_cons.mp calm with ⟨calmHere, calmRest⟩
      have afterwards : selector ∈
          ((session.perform call).compilations name rest).flatMap Compilation.fresh ->
            selector ∉ session.compiled := fun later present =>
        inductionHypothesis calmRest later (session.compiled_subset_perform calmHere present)
      cases session.advance name calmHere with
      | spared idle _ =>
          rw [compilations_of_idle idle] at later
          exact afterwards later
      | compiled generator book found made =>
          rw [compilations_of_made found made, List.flatMap_cons, List.mem_append] at later
          rcases later with here | later
          · exact ((mem_fresh_iff selector).mp here).1
          · exact afterwards later

/-- A generator that compiles for a theme was not noted before. -/
theorem not_isApplied_of_mem_compilations (distinct : session.ledger.Distinct)
    {compilation : Compilation} (member : compilation ∈ session.compilations name calls) :
    session.ledger.isApplied name compilation.generator.id = false := by
  induction calls generalizing session with
  | nil => cases member
  | cons call rest inductionHypothesis =>
      rcases List.forall_mem_cons.mp calm with ⟨calmHere, calmRest⟩
      have spares : call ≠ .invalidate name := by
        rintro rfl
        cases calmHere
      have afterwards : compilation ∈ (session.perform call).compilations name rest ->
          session.ledger.isApplied name compilation.generator.id = false := by
        intro later
        refine Bool.eq_false_iff.mpr fun applied => ?_
        have missing := inductionHypothesis calmRest (distinct_perform distinct call) later
        rw [isApplied_perform distinct applied spares] at missing
        cases missing
      cases session.advance name calmHere with
      | spared idle _ =>
          rw [compilations_of_idle idle] at member
          exact afterwards member
      | compiled generator book found made =>
          rw [compilations_of_made found made] at member
          rcases List.mem_cons.mp member with rfl | later
          · exact not_isApplied_of_application made
          · exact afterwards later

/-- No two compilations for a theme are by generators with the same id. -/
theorem nodup_ids_compilations (distinct : session.ledger.Distinct) :
    ((session.compilations name calls).map fun done => done.generator.id).Nodup := by
  induction calls generalizing session with
  | nil => exact List.nodup_nil
  | cons call rest inductionHypothesis =>
      rcases List.forall_mem_cons.mp calm with ⟨calmHere, calmRest⟩
      have next := distinct_perform distinct call
      cases session.advance name calmHere with
      | spared idle _ =>
          rw [compilations_of_idle idle]
          exact inductionHypothesis calmRest next
      | compiled generator book found made =>
          rw [compilations_of_made found made, List.map_cons, List.nodup_cons]
          refine ⟨fun again => ?_, inductionHypothesis calmRest next⟩
          rcases List.mem_map.mp again with ⟨later, member, same⟩
          have missing := not_isApplied_of_mem_compilations calmRest next member
          rw [same, perform_of_made found made, note, Ledger.isApplied_mark] at missing
          simp [compiling] at missing

/-- Where no call changes what a name stands for, every compilation has seen the
theme that it stands for in the end. -/
theorem theme_of_mem_compilations
    (kept : forall call, call ∈ calls -> forall state : Session,
      (state.perform call).registry.theme name = state.registry.theme name)
    {compilation : Compilation} (member : compilation ∈ session.compilations name calls) :
    compilation.theme = (session.run calls).registry.theme name := by
  induction calls generalizing session with
  | nil => cases member
  | cons call rest inductionHypothesis =>
      rcases List.forall_mem_cons.mp calm with ⟨calmHere, calmRest⟩
      have afterwards : compilation ∈ (session.perform call).compilations name rest ->
          compilation.theme = (session.run (call :: rest)).registry.theme name :=
        inductionHypothesis calmRest (List.forall_mem_cons.mp kept).2
      cases session.advance name calmHere with
      | spared idle _ =>
          rw [compilations_of_idle idle] at member
          exact afterwards member
      | compiled generator book found made =>
          rw [compilations_of_made found made] at member
          rcases List.mem_cons.mp member with rfl | later
          · exact (theme_run kept session).symm
          · exact afterwards later

/-- The selectors of a theme are those that it had and those compiled since. -/
theorem mem_selectors_run_iff_fresh (distinct : session.ledger.Distinct) (selector : String) :
    selector ∈ (session.run calls).ledger.selectors name ↔
      selector ∈ session.ledger.selectors name ∨
        selector ∈ (session.compilations name calls).flatMap Compilation.fresh := by
  induction calls generalizing session with
  | nil => simp [run, compilations]
  | cons call rest inductionHypothesis =>
      rcases List.forall_mem_cons.mp calm with ⟨calmHere, calmRest⟩
      have later := inductionHypothesis calmRest (distinct_perform distinct call)
      rw [show session.run (call :: rest) = (session.perform call).run rest from rfl, later]
      cases session.advance name calmHere with
      | spared idle notes =>
          rw [compilations_of_idle idle, Ledger.selectors, Ledger.selectors, notes]
      | compiled generator book found made =>
          rw [compilations_of_made found made, List.flatMap_cons, List.mem_append,
            perform_of_made found made, note, Ledger.mem_selectors_mark_iff distinct, ← or_assoc]
          exact or_congr_left (or_congr_right (and_iff_right rfl))

end Calm

theorem properties_perform (session : Session) (call : Call) :
    (session.perform call).compiler.properties = session.compiler.properties := by
  cases session.perform_effect call with
  | kept _ compiler _ => rw [compiler]
  | direct bag _ _ compiler _ => rw [compiler, Compiler.compileBag_properties]
  | applied _ _ book _ _ compiler _ => rw [compiler, Compiler.compile_properties]
  | invalidated _ _ compiler _ =>
      rw [compiler]
      rfl
  | forgotten _ _ compiler _ =>
      rw [compiler]
      rfl

theorem properties_run (session : Session) (calls : List Call) :
    (session.run calls).compiler.properties = session.compiler.properties :=
  List.foldlRecOn (motive := fun state => state.compiler.properties = session.compiler.properties)
    calls perform rfl fun state before call _ => (state.properties_perform call).trans before

/-! ## The replay follows the original run -/

/-- A moment of the replay goes with a moment of the original run, of which
these calls are left: the theme has the same notes, and everything is marked
that will be in the end, but for what the generators of the theme are still to
compile. -/
structure Replays (name : String) (original replayed : Session) (left : List Call) : Prop where
  properties : replayed.compiler.properties = original.compiler.properties
  notes : replayed.ledger.notes name = original.ledger.notes name
  compiled : forall selector, selector ∈ replayed.compiled ↔
    selector ∈ (original.run left).compiled ∧
      selector ∉ (original.compilations name left).flatMap Compilation.fresh
  themes : forall compilation, compilation ∈ original.compilations name left ->
    compilation.theme = replayed.registry.theme name

namespace Replays

variable {name : String} {original replayed : Session} {call : Call} {left : List Call}
  {generator : Generator} {book : Book}

/-- Whatever is between two original applications has no part in the replay. -/
theorem pass (replays : Replays name original replayed (call :: left))
    (idle : original.compilation? name call = none)
    (notes : (original.perform call).ledger.notes name = original.ledger.notes name) :
    Replays name (original.perform call) replayed left := by
  have compilations_eq := compilations_of_idle idle left
  refine ⟨?_, replays.notes.trans notes.symm, ?_, ?_⟩
  · rw [replays.properties, properties_perform]
  · rw [← compilations_eq]
    exact replays.compiled
  · rw [← compilations_eq]
    exact replays.themes

section Next

variable (replays : Replays name original replayed (call :: left))
  (calm : forall other, other ∈ call :: left -> other.removes = false)
  (found : call.generator? original name = some generator)
  (made : (original.application name generator).2 = some book)

include replays found made

theorem theme_eq : original.registry.theme name = replayed.registry.theme name := by
  apply replays.themes (original.compiling name generator book)
  rw [compilations_of_made found made]
  exact List.mem_cons_self

/-- The generator is not noted and makes the same book again. -/
theorem made_again : (replayed.application name generator).2 = some book := by
  rw [← made, application, application, replays.theme_eq found made, Ledger.isApplied,
    Ledger.isApplied, replays.notes]

theorem perform_again : replayed.perform (.applyTheme name generator) =
    replayed.note name generator.id (some book) :=
  perform_of_made (Call.generator?_applyTheme _ _ _) (replays.made_again found made)

include calm

/-- The marks of the two moments agree on the book of the next compilation. -/
theorem newcomers_eq : replayed.compiler.newcomers book (themeScope name) =
    original.compiler.newcomers book (themeScope name) := by
  refine newcomers_congr fun candidate member => ?_
  have marked := replays.compiled candidate.selector
  constructor
  · intro present
    by_contra absent
    apply (marked.mp present).2
    rw [compilations_of_made found made, List.flatMap_cons, List.mem_append]
    exact Or.inl ((mem_fresh_iff _).mpr ⟨absent, List.mem_map_of_mem member⟩)
  · intro present
    exact marked.mpr ⟨original.compiled_subset_run calm present,
      fun later => not_mem_compiled_of_fresh calm later present⟩

theorem compiling_eq : replayed.compiling name generator book =
    original.compiling name generator book := by
  rw [compiling, compiling, replays.theme_eq found made, Compiler.compile_snd,
    Compiler.compile_snd, replays.newcomers_eq calm found made, replays.properties]

/-- The replay gets the marks that the next compilation has set, and these are
not to be compiled any more. -/
theorem mem_compiled_again_iff (selector : String) :
    selector ∈ (replayed.perform (.applyTheme name generator)).compiled ↔
      selector ∈ ((original.perform call).run left).compiled ∧
        selector ∉ ((original.perform call).compilations name left).flatMap
          Compilation.fresh := by
  have calmRest := (List.forall_mem_cons.mp calm).2
  let fresh := (original.compiling name generator book).fresh
  let others := ((original.perform call).compilations name left).flatMap Compilation.fresh
  have before : selector ∈ replayed.compiled ↔
      selector ∈ ((original.perform call).run left).compiled ∧
        selector ∉ fresh ∧ selector ∉ others := by
    rw [replays.compiled, compilations_of_made found made, List.flatMap_cons, List.mem_append,
      not_or]
    rfl
  have marked : selector ∈ fresh -> selector ∈ (original.perform call).compiled := by
    intro member
    rw [perform_of_made found made, compiled_note]
    exact List.mem_append_right _ member
  rw [replays.perform_again found made, compiled_note, replays.compiling_eq calm found made,
    List.mem_append, before]
  constructor
  · rintro (⟨final, _, missing⟩ | member)
    · exact ⟨final, missing⟩
    · exact ⟨compiled_subset_run _ calmRest (marked member),
        fun later => not_mem_compiled_of_fresh calmRest later (marked member)⟩
  · rintro ⟨final, missing⟩
    by_cases member : selector ∈ fresh
    · exact Or.inr member
    · exact Or.inl ⟨final, member, missing⟩

/-- The next compilation is repeated, and both runs go on. -/
theorem compile : Replays name (original.perform call)
    (replayed.perform (.applyTheme name generator)) left := by
  have fresh_eq : (replayed.compiler.compile book (themeScope name)).2 =
      (original.compiler.compile book (themeScope name)).2 :=
    congrArg Compilation.fresh (replays.compiling_eq calm found made)
  refine ⟨?_, ?_, replays.mem_compiled_again_iff calm found made, fun other member => ?_⟩
  · rw [properties_perform, properties_perform, replays.properties]
  · rw [perform_of_made found made, replays.perform_again found made]
    simp only [note, Ledger.notes_mark, if_true, Ledger.listed, replays.notes, fresh_eq]
  · rw [replays.perform_again found made]
    apply replays.themes other
    rw [compilations_of_made found made]
    exact List.mem_cons_of_mem _ member

end Next

/-- The replay repeats every compilation that is left, and then has caught up. -/
theorem run (replays : Replays name original replayed left)
    (calm : forall call, call ∈ left -> call.removes = false) :
    let done := original.compilations name left
    replayed.compilations name (replay name done) = done ∧
      Replays name (original.run left) (replayed.run (replay name done)) [] := by
  induction left generalizing original replayed with
  | nil => exact ⟨rfl, replays⟩
  | cons call rest inductionHypothesis =>
      rcases List.forall_mem_cons.mp calm with ⟨calmHere, calmRest⟩
      cases original.advance name calmHere with
      | spared idle notes =>
          rw [compilations_of_idle idle]
          exact inductionHypothesis (replays.pass idle notes) calmRest
      | compiled generator book found made =>
          rcases inductionHypothesis (replays.compile calm found made) calmRest with
            ⟨same, caughtUp⟩
          rw [compilations_of_made found made]
          have again := compilations_of_made (Call.generator?_applyTheme replayed name generator)
            (replays.made_again found made)
            (replay name ((original.perform call).compilations name rest))
          rw [replays.compiling_eq calm found made, same] at again
          exact ⟨again, caughtUp⟩

/-- When no calls are left the marks agree. -/
theorem mem_compiled_iff (replays : Replays name original replayed []) (selector : String) :
    selector ∈ replayed.compiled ↔ selector ∈ original.compiled :=
  (replays.compiled selector).trans (and_iff_left List.not_mem_nil)

end Replays

/-! ## What a replay changes -/

section Replay

variable (session : Session) (name : String) (done : List Compilation)

/-- A replay appends the stylesheets of its compilations. -/
theorem sheets_run_replay : (session.run (replay name done)).compiler.sheets =
    session.compiler.sheets ++
      (session.compilations name (replay name done)).flatMap Compilation.sheets := by
  induction done generalizing session with
  | nil => simp [replay, run, compilations]
  | cons first rest inductionHypothesis =>
      have found := Call.generator?_applyTheme session name first.generator
      have later := inductionHypothesis (session.perform (.applyTheme name first.generator))
      rw [replay, List.map_cons, run, List.foldl_cons]
      refine later.trans ?_
      cases made : (session.application name first.generator).2 with
      | none =>
          have idle := compilation?_of_generator? found
          rw [made] at idle
          rw [compilations_of_idle idle, perform_of_generator? found, applyTheme_eq_note, made]
          rfl
      | some book =>
          rw [compilations_of_made found made, List.flatMap_cons, ← List.append_assoc]
          congr 1
          rw [perform_of_made found made]
          exact session.compiler.compile_sheets book (themeScope name)

/-- An application leaves the registry as it is. -/
theorem registry_applyTheme (generator : Generator) :
    (session.applyTheme name generator).1.registry = session.registry := by
  rw [applyTheme_eq_note]
  cases (session.application name generator).2 <;> rfl

/-- A replay notes nothing for another theme. -/
theorem notes_run_replay {other : String} (different : other ≠ name) :
    (session.run (replay name done)).ledger.notes other = session.ledger.notes other := by
  induction done generalizing session with
  | nil => rfl
  | cons first rest inductionHypothesis =>
      refine (inductionHypothesis (session.perform (.applyTheme name first.generator))).trans ?_
      rw [perform, applyTheme_eq_note]
      cases (session.application name first.generator).2 with
      | none => rfl
      | some book => rw [note, Ledger.notes_mark, if_neg different]

end Replay

/-- After an invalidation the replay stands at the beginning. -/
theorem replays_invalidate {start : Session} {name : String} {since : List Call}
    (owned : (start.run since).Owned) (distinct : start.ledger.Distinct)
    (calm : forall call, call ∈ since -> call.removes = false)
    (unnoted : forall id, start.ledger.isApplied name id = false)
    (themes : forall compilation, compilation ∈ start.compilations name since ->
      compilation.theme = (start.run since).registry.theme name) :
    Replays name start ((start.run since).invalidate name).1 since := by
  have blank := Ledger.notes_eq_nil unnoted
  have selectors_eq : start.ledger.selectors name = [] := by
    rw [Ledger.selectors, blank]
    rfl
  rw [invalidate_fst]
  refine ⟨?_, ?_, fun selector => ?_, themes⟩
  · exact properties_run start since
  · rw [Ledger.notes_invalidate owned.distinct, if_pos rfl, blank]
  · have struck : selector ∈ (start.run since).ledger.selectors name ↔
        selector ∈ (start.compilations name since).flatMap Compilation.fresh := by
      rw [mem_selectors_run_iff_fresh calm distinct, selectors_eq]
      exact or_iff_right List.not_mem_nil
    refine (ClassTable.mem_compiled_forget_iff _ _ owned.compiled_nodup selector).trans ?_
    rw [struck]
    rfl

/-- Let a run start where nothing is noted for a theme, and remove nothing.  If
the theme is invalidated and its generators, which have different ids, are
applied again in their order, while the name stands for the same theme as at each
of the original applications, then each generator compiles the same selectors
and adds the same stylesheets as the first time.  In the end the same selectors
are compiled, and the same pairs are noted with the same selectors. -/
theorem invalidated_theme_is_replayed (before since : List Call) (name : String)
    (keeping : forall call, call ∈ before -> call.forgets = false)
    (calm : forall call, call ∈ since -> call.removes = false)
    (unnoted : forall id, (new.run before).ledger.isApplied name id = false)
    (themes : forall compilation, compilation ∈ (new.run before).compilations name since ->
      compilation.theme = ((new.run before).run since).registry.theme name) :
    let session := (new.run before).run since
    let done := (new.run before).compilations name since
    let cleared := (session.invalidate name).1
    let after := cleared.run (replay name done)
    (done.map fun compilation => compilation.generator.id).Nodup ∧
    cleared.compilations name (replay name done) = done ∧
    after.compiler.sheets = session.compiler.sheets ++ done.flatMap Compilation.sheets ∧
    (forall selector, selector ∈ after.compiled ↔ selector ∈ session.compiled) ∧
    (forall theme id, after.ledger.isApplied theme id = session.ledger.isApplied theme id ∧
      after.ledger.listed theme id = session.ledger.listed theme id) := by
  intro session done cleared after
  have start := owned_new.run before keeping
  have owned : session.Owned := start.run since
    fun call member => Call.forgets_of_removes (calm call member)
  have replays : Replays name (new.run before) cleared since :=
    replays_invalidate owned start.distinct calm unnoted themes
  rcases replays.run calm with ⟨same, caughtUp⟩
  have notes_eq : forall theme, after.ledger.notes theme = session.ledger.notes theme := by
    intro theme
    by_cases here : theme = name
    · rw [here]
      exact caughtUp.notes
    · refine (notes_run_replay cleared name done here).trans ?_
      rw [show cleared = _ from session.invalidate_fst name,
        Ledger.notes_invalidate owned.distinct, if_neg here]
  refine ⟨nodup_ids_compilations calm start.distinct, same, ?_, fun selector => ?_, ?_⟩
  · refine (sheets_run_replay cleared name done).trans ?_
    rw [show cleared.compilations name (replay name done) = done from same,
      show cleared = _ from session.invalidate_fst name]
    rfl
  · exact caughtUp.mem_compiled_iff selector
  · intro theme id
    rw [Ledger.isApplied, Ledger.isApplied, Ledger.listed, Ledger.listed, notes_eq]
    exact ⟨rfl, rfl⟩

/-- Two generators ask for the same card, and the theme has been invalidated
before; in between a class of the first is compiled directly, and the first is
applied to another theme. -/
theorem cards_and_panels_are_replayed :
    let card : String × Value := ("card", .book [("gap", "8px")])
    let rule : String × Value := ("rule", .book [("border", "none")])
    let cards : Generator := .ofFunction "cards" fun _ _ => [card, rule]
    let panels : Generator := .ofFunction "panels" fun _ _ =>
      [card, ("panel", .book [("gap", "4px")])]
    let start := new.run [.applyTheme "light" panels, .invalidate "light"]
    let since : List Call := [.compile [rule] ".light", .applyTheme "light" cards,
      .applyTheme "dark" cards, .applyActive panels]
    let session := start.run since
    let done := start.compilations "light" since
    let cleared := (session.invalidate "light").1
    (done.map fun compilation => compilation.generator.id) = ["cards", "panels"] ∧
    (cleared.run (replay "light" done)).compiler.sheets =
      session.compiler.sheets ++ done.flatMap Compilation.sheets := by
  intro card rule cards panels start since session done cleared
  have unnoted : forall id, start.ledger.isApplied "light" id = false := by
    intro id
    let before := new.perform (.applyTheme "light" panels)
    have start_eq : start = (before.invalidate "light").1 := rfl
    have distinct : before.ledger.Distinct := distinct_perform Ledger.distinct_empty _
    rw [start_eq, invalidate_fst, Ledger.isApplied_invalidate distinct]
    rfl
  have calm : forall call, call ∈ since -> call.removes = false := by simp [since, Call.removes]
  have kept : forall call, call ∈ since -> forall state : Session,
      (state.perform call).registry.theme "light" = state.registry.theme "light" := by
    intro call member state
    simp only [since, List.mem_cons, List.not_mem_nil, or_false] at member
    rcases member with rfl | rfl | rfl | rfl
    · rfl
    · exact congrArg (Registry.theme · "light") (state.registry_applyTheme _ _)
    · exact congrArg (Registry.theme · "light") (state.registry_applyTheme _ _)
    · exact congrArg (Registry.theme · "light") (state.registry_applyTheme _ _)
  have replayed := invalidated_theme_is_replayed [.applyTheme "light" panels, .invalidate "light"]
    since "light" (by simp [Call.forgets]) calm unnoted
    fun compilation member => theme_of_mem_compilations calm kept member
  refine ⟨by decide +kernel, ?_⟩
  unfold cleared session done start
  exact replayed.2.2.1

end Session
end ThemedStyles
