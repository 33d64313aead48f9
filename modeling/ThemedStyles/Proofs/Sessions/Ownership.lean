import ThemedStyles.Proofs.Runs
import ThemedStyles.Proofs.Sessions.Calls

namespace ThemedStyles

/-!
# Who has compiled a selector

The ledger lists the selectors that the generators of a theme have compiled, and
the compiler keeps its marks.  Two places that record the same thing can come
apart; here they do not, as long as nothing is forgotten behind the back of the
ledger.

Each listed selector is listed once, for one pair of a theme and a generator,
and is marked.  An invalidation therefore takes away exactly the marks that the
generators of that theme have set since its last invalidation.  What was
compiled directly or for another theme keeps its mark, and compiling it again
adds nothing.
-/

/-- The listed selectors belong to one pair each and are among the compiled
ones. -/
structure Ledger.Owns (ledger : Ledger) (compiled : List String) : Prop where
  distinct : ledger.Distinct
  compiled_nodup : compiled.Nodup
  listed_nodup : forall theme generator, (ledger.listed theme generator).Nodup
  listed_disjoint : forall theme generator other id, (theme, generator) ≠ (other, id) ->
    (ledger.listed theme generator).Disjoint (ledger.listed other id)
  listed_compiled : forall theme generator, ledger.listed theme generator ⊆ compiled

namespace Ledger.Owns

variable {ledger : Ledger} {compiled : List String}

theorem empty : Ledger.empty.Owns [] where
  distinct := Ledger.distinct_empty
  compiled_nodup := List.nodup_nil
  listed_nodup _ _ := List.nodup_nil
  listed_disjoint _ _ _ _ _ := List.disjoint_nil_left _
  listed_compiled _ _ := List.nil_subset _

/-- Compiling for no theme lists nothing. -/
theorem grow (owns : ledger.Owns compiled) {more : List String} (grown : compiled ⊆ more)
    (distinct : more.Nodup) : ledger.Owns more where
  distinct := owns.distinct
  compiled_nodup := distinct
  listed_nodup := owns.listed_nodup
  listed_disjoint := owns.listed_disjoint
  listed_compiled theme generator := List.Subset.trans (owns.listed_compiled theme generator) grown

/-- A pair that is noted for the first time takes the selectors that were not
compiled before, which no other pair can have listed. -/
theorem mark (owns : ledger.Owns compiled) {theme generator : String}
    (first : ledger.isApplied theme generator = false) {selectors : List String}
    (distinct : (compiled ++ selectors).Nodup) :
    (ledger.mark theme generator selectors).Owns (compiled ++ selectors) := by
  rcases List.nodup_append.mp distinct with ⟨_, selectors_nodup, apart⟩
  have foreign : forall other id, (ledger.listed other id).Disjoint selectors := by
    intro other id selector old new
    exact apart selector (owns.listed_compiled other id old) selector new rfl
  refine ⟨owns.distinct.mark theme generator selectors, distinct, ?_, ?_, ?_⟩
  · intro other id
    rw [Ledger.listed_mark_of_not_isApplied first]
    split
    · exact selectors_nodup
    · exact owns.listed_nodup other id
  · intro other id another tag different
    rw [Ledger.listed_mark_of_not_isApplied first, Ledger.listed_mark_of_not_isApplied first]
    split
    · rename_i same
      rw [if_neg fun equal => different (same.trans equal.symm)]
      exact List.disjoint_symm (foreign another tag)
    · split
      · exact foreign other id
      · exact owns.listed_disjoint other id another tag different
  · intro other id
    rw [Ledger.listed_mark_of_not_isApplied first]
    split
    · exact List.subset_append_right _ _
    · exact List.Subset.trans (owns.listed_compiled other id) (List.subset_append_left _ _)

/-- Striking out a theme takes away selectors that no other theme lists. -/
theorem invalidate (owns : ledger.Owns compiled) (theme : String) {rest : List String}
    (distinct : rest.Nodup)
    (left : forall selector, selector ∈ rest ↔
      selector ∈ compiled ∧ selector ∉ ledger.selectors theme) :
    (ledger.invalidate theme).1.Owns rest := by
  have kept : forall other id selector,
      selector ∈ (ledger.invalidate theme).1.listed other id ->
        other ≠ theme ∧ selector ∈ ledger.listed other id := by
    intro other id selector member
    rw [Ledger.listed_invalidate owns.distinct] at member
    split at member
    · exact absurd member List.not_mem_nil
    · rename_i different
      exact ⟨different, member⟩
  refine ⟨owns.distinct.invalidate theme, distinct, ?_, ?_, ?_⟩
  · intro other id
    rw [Ledger.listed_invalidate owns.distinct]
    split
    · exact List.nodup_nil
    · exact owns.listed_nodup other id
  · intro other id another tag different selector first second
    exact owns.listed_disjoint other id another tag different
      (kept other id selector first).2 (kept another tag selector second).2
  · intro other id selector member
    rcases kept other id selector member with ⟨different, listed⟩
    refine (left selector).mpr ⟨owns.listed_compiled other id listed, fun struck => ?_⟩
    rcases (Ledger.mem_selectors_iff owns.distinct theme selector).mp struck with ⟨generator, again⟩
    exact owns.listed_disjoint other id theme generator
      (fun equal => different (Prod.mk.inj equal).1) listed again

theorem selectors_compiled (owns : ledger.Owns compiled) (theme : String) :
    ledger.selectors theme ⊆ compiled := by
  intro selector member
  rcases (Ledger.mem_selectors_iff owns.distinct theme selector).mp member with ⟨generator, listed⟩
  exact owns.listed_compiled theme generator listed

end Ledger.Owns

namespace Session

/-! ## Every call keeps the ownership -/

/-- The ledger of a session owns what it lists. -/
def Owned (session : Session) : Prop := session.ledger.Owns session.compiled

theorem owned_new : Owned new := Ledger.Owns.empty

theorem Owned.perform {session : Session} (owned : session.Owned) (call : Call)
    (keeps : call.forgets = false) : (session.perform call).Owned := by
  have distinct : session.compiled.Nodup := owned.compiled_nodup
  unfold Owned compiled
  cases session.perform_effect call with
  | kept _ compiler ledger =>
      rw [compiler, ledger]
      exact owned
  | direct bag _ _ compiler ledger =>
      rw [compiler, ledger]
      exact owned.grow (session.compiler.compiled_subset_compileBag bag)
        (session.compiler.nodup_compileBag bag distinct)
  | applied name id book _ first compiler ledger =>
      have grown := session.compiler.nodup_compile book (themeScope name) distinct
      rw [Compiler.compile_compiled] at grown
      rw [compiler, ledger, Compiler.compile_compiled]
      exact owned.mark first grown
  | invalidated name _ compiler ledger =>
      have left := ClassTable.mem_compiled_forget_iff session.compiler.classes
        (session.ledger.selectors name) distinct
      rw [compiler, ledger]
      exact owned.invalidate name (ClassTable.nodup_compiled_forget _ _ distinct) left
  | forgotten _ forgets _ _ =>
      rw [forgets] at keeps
      exact absurd keeps Bool.noConfusion

theorem Owned.run {session : Session} (owned : session.Owned) (calls : List Call)
    (keeping : forall call, call ∈ calls -> call.forgets = false) : (session.run calls).Owned :=
  List.foldlRecOn calls Session.perform owned fun _ before call member =>
    before.perform call (keeping call member)

/-! ## Which call has compiled a selector -/

/-- A call compiles a selector that is not compiled. -/
def Compiles (session : Session) (call : Call) (selector : String) : Prop :=
  selector ∉ session.compiled ∧ selector ∈ (session.perform call).compiled

/-- The run has compiled the selector for the theme, by applying a generator,
and has not invalidated the theme since. -/
def CompiledFor (session : Session) (calls : List Call) (name selector : String) : Prop :=
  ∃ before call after, calls = before ++ call :: after ∧
    call.target? (session.run before) = some name ∧
    Compiles (session.run before) call selector ∧ .invalidate name ∉ after

theorem compiledFor_append_singleton (session : Session) (calls : List Call) (call : Call)
    (name selector : String) :
    CompiledFor session (calls ++ [call]) name selector ↔
      (call.target? (session.run calls) = some name ∧
        Compiles (session.run calls) call selector) ∨
      (CompiledFor session calls name selector ∧ call ≠ .invalidate name) := by
  constructor
  · rintro ⟨before, middle, after, split, target, compiles, kept⟩
    rcases Runs.split_append_singleton split with ⟨past, last, _⟩ | ⟨rest, past, tail⟩
    · rw [past, last]
      exact Or.inl ⟨target, compiles⟩
    · rw [tail, List.mem_append, List.mem_singleton, not_or] at kept
      exact Or.inr ⟨⟨before, middle, rest, past, target, compiles, kept.1⟩, Ne.symm kept.2⟩
  · rintro (⟨target, compiles⟩ | ⟨⟨before, middle, after, split, target, compiles, kept⟩, other⟩)
    · exact ⟨calls, call, [], rfl, target, compiles, List.not_mem_nil⟩
    · refine ⟨before, middle, after ++ [call], by simp [split], target, compiles, ?_⟩
      rw [List.mem_append, List.mem_singleton, not_or]
      exact ⟨kept, Ne.symm other⟩

/-- How one call changes the selectors of a theme: an application to it adds
what it compiles, an invalidation of it takes everything away. -/
theorem mem_selectors_perform_iff {session : Session} (owned : session.Owned) (call : Call)
    (keeps : call.forgets = false) (name selector : String) :
    selector ∈ (session.perform call).ledger.selectors name ↔
      (call.target? session = some name ∧ Compiles session call selector) ∨
      (selector ∈ session.ledger.selectors name ∧ call ≠ .invalidate name) := by
  have unfolded : Compiles session call selector ↔
      selector ∉ session.compiled ∧ selector ∈ (session.perform call).compiler.classes.compiled :=
    Iff.rfl
  rw [unfolded]
  cases session.perform_effect call with
  | kept spares compiler ledger =>
      rw [compiler, ledger]
      constructor
      · exact fun member => Or.inr ⟨member, spares name⟩
      · rintro (⟨_, fresh, member⟩ | ⟨member, _⟩)
        · exact absurd member fresh
        · exact member
  | direct bag spares untargeted compiler ledger =>
      rw [untargeted, ledger]
      simp [spares name]
  | applied theme id book target first compiler ledger =>
      have compiles : selector ∉ session.compiled ∧
          selector ∈ (session.compiler.compile book (themeScope theme)).1.classes.compiled ↔
            selector ∈ (session.compiler.compile book (themeScope theme)).2 := by
        rw [Compiler.compile_compiled, List.mem_append]
        constructor
        · rintro ⟨fresh, old | new⟩
          · exact absurd old fresh
          · exact new
        · exact fun new =>
            ⟨((Compiler.mem_compile_snd_iff _ _ _ selector).mp new).1, Or.inr new⟩
      have spares : call ≠ .invalidate name := by
        intro equal
        rw [equal] at target
        cases target
      rw [compiler, ledger, Ledger.mem_selectors_mark_iff owned.distinct, target, compiles]
      simp only [Option.some.injEq, spares, ne_eq, not_false_eq_true, and_true]
      constructor
      · rintro (old | ⟨same, new⟩)
        · exact Or.inr old
        · exact Or.inl ⟨same.symm, new⟩
      · rintro (⟨same, new⟩ | old)
        · exact Or.inr ⟨same.symm, new⟩
        · exact Or.inl old
  | invalidated theme invalidates compiler ledger =>
      rw [ledger, Ledger.mem_selectors_invalidate_iff owned.distinct, invalidates]
      have untargeted : (Call.invalidate theme).target? session ≠ some name := nofun
      simp only [untargeted, false_and, false_or, ne_eq, Call.invalidate.injEq]
      exact and_congr_right fun _ => not_congr eq_comm
  | forgotten _ forgets _ _ =>
      rw [forgets] at keeps
      exact absurd keeps Bool.noConfusion

/-- The selectors listed for a theme are those that the run has compiled for it
and not invalidated since. -/
theorem mem_selectors_run_iff (calls : List Call)
    (keeping : forall call, call ∈ calls -> call.forgets = false) (name selector : String) :
    selector ∈ (new.run calls).ledger.selectors name ↔ CompiledFor new calls name selector := by
  induction calls using List.reverseRecOn with
  | nil =>
      constructor
      · exact fun member => absurd member List.not_mem_nil
      · rintro ⟨before, call, after, split, _⟩
        simp at split
  | append_singleton calls call inductionHypothesis =>
      have earlier : forall other, other ∈ calls -> other.forgets = false :=
        fun other member => keeping other (List.mem_append_left _ member)
      have owned := owned_new.run calls earlier
      rw [run_append_singleton, mem_selectors_perform_iff owned call (keeping call (by simp)),
        inductionHypothesis earlier, compiledFor_append_singleton]

/-! ## Marks stay with those that set them -/

/-- A compiled selector that no theme but the given one lists. -/
structure Belongs (session : Session) (owner : Option String) (selector : String) : Prop where
  compiled : selector ∈ session.compiled
  listed : forall name, selector ∈ session.ledger.selectors name -> owner = some name

/-- A selector belongs to the theme for which it was compiled, or to none. -/
theorem Owned.belongs_of_compiles {session : Session} (owned : session.Owned) {call : Call}
    (keeps : call.forgets = false) {selector : String}
    (compiles : Compiles session call selector) :
    (session.perform call).Belongs (call.target? session) selector where
  compiled := compiles.2
  listed name member := by
    rcases (mem_selectors_perform_iff owned call keeps name selector).mp member with
      ⟨target, _⟩ | ⟨old, _⟩
    · exact target
    · exact absurd (owned.selectors_compiled name old) compiles.1

theorem Owned.belongs_perform {session : Session} (owned : session.Owned) {owner : Option String}
    {selector : String} (belongs : session.Belongs owner selector) {call : Call}
    (keeps : call.forgets = false)
    (spares : forall name, owner = some name -> call ≠ .invalidate name) :
    (session.perform call).Belongs owner selector where
  compiled := by
    unfold Session.compiled
    cases session.perform_effect call with
    | kept _ compiler _ =>
        rw [compiler]
        exact belongs.compiled
    | direct bag _ _ compiler _ =>
        rw [compiler]
        exact session.compiler.compiled_subset_compileBag bag belongs.compiled
    | applied name id book _ _ compiler _ =>
        rw [compiler, Compiler.compile_compiled]
        exact List.mem_append_left _ belongs.compiled
    | invalidated name invalidates compiler _ =>
        rw [compiler]
        refine (ClassTable.mem_compiled_forget_iff _ _ owned.compiled_nodup selector).mpr
          ⟨belongs.compiled, fun struck => ?_⟩
        exact spares name (belongs.listed name struck) invalidates
    | forgotten _ forgets _ _ =>
        rw [forgets] at keeps
        exact absurd keeps Bool.noConfusion
  listed name member := by
    rcases (mem_selectors_perform_iff owned call keeps name selector).mp member with
      ⟨_, fresh, _⟩ | ⟨old, _⟩
    · exact absurd belongs.compiled fresh
    · exact belongs.listed name old

theorem Owned.belongs_run {session : Session} (owned : session.Owned) {owner : Option String}
    {selector : String} (belongs : session.Belongs owner selector) (calls : List Call)
    (keeping : forall call, call ∈ calls -> call.forgets = false)
    (spares : forall name, owner = some name -> .invalidate name ∉ calls) :
    (session.run calls).Belongs owner selector := by
  induction calls generalizing session with
  | nil => exact belongs
  | cons call rest inductionHypothesis =>
      have keeps := keeping call List.mem_cons_self
      apply inductionHypothesis (owned.perform call keeps)
      · exact owned.belongs_perform belongs keeps
          fun name same equal => spares name same (equal ▸ List.mem_cons_self)
      · exact fun other member => keeping other (List.mem_cons_of_mem _ member)
      · exact fun name same member => spares name same (List.mem_cons_of_mem _ member)

/-! ## What the ownership is good for -/

/-- After any run that forgets nothing behind the back of the ledger, every
listed selector is listed once, for one pair, and is compiled.  Invalidating a
theme removes exactly the selectors that were compiled for it since its last
invalidation, and spares the notes of the other themes.  A selector stays
compiled from the call that compiled it on, unless that call applied a generator
to a theme that is invalidated later; as long as it does, compiling it again
adds nothing. -/
theorem selectors_have_one_owner (calls : List Call)
    (keeping : forall call, call ∈ calls -> call.forgets = false) :
    let session := new.run calls
    (forall theme generator, (session.ledger.listed theme generator).Nodup ∧
      session.ledger.listed theme generator ⊆ session.compiled) ∧
    (forall theme generator other id, (theme, generator) ≠ (other, id) ->
      (session.ledger.listed theme generator).Disjoint (session.ledger.listed other id)) ∧
    (forall name selector, (CompiledFor new calls name selector -> selector ∈ session.compiled) ∧
      (selector ∈ (session.invalidate name).1.compiled ↔
        selector ∈ session.compiled ∧ ¬ CompiledFor new calls name selector)) ∧
    (forall name other id, other ≠ name ->
      (session.invalidate name).1.ledger.isApplied other id =
        session.ledger.isApplied other id) ∧
    (forall before call after selector, calls = before ++ call :: after ->
      Compiles (new.run before) call selector ->
      (forall name, call.target? (new.run before) = some name -> .invalidate name ∉ after) ->
      selector ∈ session.compiled ∧
        forall book scope, session.compiler.compile book scope = session.compiler.compile
          (book.filter fun entry => Key.selector entry.1 scope != selector) scope) := by
  intro session
  have owned : session.Owned := owned_new.run calls keeping
  refine ⟨?_, owned.listed_disjoint, ?_, ?_, ?_⟩
  · exact fun theme generator =>
      ⟨owned.listed_nodup theme generator, owned.listed_compiled theme generator⟩
  · intro name selector
    rw [invalidate_fst, ← mem_selectors_run_iff calls keeping]
    exact ⟨fun listed => owned.selectors_compiled name listed,
      ClassTable.mem_compiled_forget_iff _ _ owned.compiled_nodup selector⟩
  · intro name other id different
    rw [invalidate_fst, Ledger.isApplied_invalidate owned.distinct, decide_eq_true different,
      Bool.true_and]
  · intro before call after selector split compiles spares
    have earlier : forall other, other ∈ before -> other.forgets = false :=
      fun other member => keeping other (by simp [split, member])
    have keeps : call.forgets = false := keeping call (by simp [split])
    have later : forall other, other ∈ after -> other.forgets = false :=
      fun other member => keeping other (by simp [split, member])
    have start := owned_new.run before earlier
    have belongs := (start.perform call keeps).belongs_run
      (start.belongs_of_compiles keeps compiles) after later spares
    have whole : session = ((new.run before).perform call).run after := by
      change new.run calls = _
      rw [split, run_append]
      rfl
    have compiled : selector ∈ session.compiled := whole ▸ belongs.compiled
    exact ⟨compiled, fun book scope =>
      (session.compiler.compile_filter_ne book scope selector compiled).symm⟩

/-- A class that was compiled directly outlives a generator with the same class
and the invalidation of its theme. -/
theorem direct_class_stays_compiled :
    let cards : Book := [("card", .book [("padding", "8px")])]
    let session := new.run
      [.compile cards ".light", .applyTheme "light" (.ofFunction "cards" fun _ _ => cards),
        .invalidate "light"]
    ".light .card" ∈ session.compiled := by
  intro cards
  let card : Candidate := ⟨"card", ".light", [("padding", "8px")]⟩
  have offered : card ∈ cards.candidates ".light" := List.mem_singleton.mpr rfl
  have marked : ".light .card" ∈ (new.perform (.compile cards ".light")).compiled := by
    have selector_eq : card.selector = ".light .card" := by decide +kernel
    rw [← selector_eq]
    exact Compiler.mem_compiled_compile new.compiler cards ".light" offered
  exact ((selectors_have_one_owner _ (by simp [Call.forgets])).2.2.2.2 [] (.compile cards ".light")
    [.applyTheme "light" (.ofFunction "cards" fun _ _ => cards), .invalidate "light"]
    ".light .card" rfl ⟨List.not_mem_nil, marked⟩ nofun).1

end Session
end ThemedStyles
