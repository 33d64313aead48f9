import Mathlib.Data.List.Induction
import ThemedStyles.Proofs.Compilation.Newcomers
import ThemedStyles.Proofs.Runs

namespace ThemedStyles

/-!
# Compilations as their history tells them

The compiler keeps a set of marks.  This module says what it does without
speaking of marks, by the history of the calls alone: which candidates came
before, in which order, and which selectors were forgotten in between.

A candidate is fresh if every earlier fresh candidate with its selector was
followed by a forgetting that names the selector.  The definition refers to
itself at an earlier place only, and not to any state.  The main statement says
that each compilation answers with its fresh selectors, adds one stylesheet with
the text of its fresh candidates or none where that is empty, and leaves the
earlier stylesheets as they are; and that compiling a book once more changes
nothing, as long as nothing was forgotten.
-/

/-- An event in the history of a compiler. -/
inductive Event where
  /-- A candidate came up, whether or not it was compiled. -/
  | offered (candidate : Candidate)
  /-- These selectors were named by a forgetting. -/
  | forgotten (selectors : List String)

/-- Is a selector fresh after a past?  An earlier candidate counts only if it
was fresh itself, at its own place. -/
def Fresh (past : List Event) (selector : String) : Prop :=
  forall before earlier after, (split : past = before ++ .offered earlier :: after) ->
    earlier.selector = selector -> Fresh before selector ->
      ∃ named, Event.forgotten named ∈ after ∧ selector ∈ named
termination_by past.length
decreasing_by simp [split]

namespace Event

/-- The marks that an event leaves behind. -/
def marks (marked : List String) : Event -> List String
  | .offered candidate =>
      if candidate.selector ∈ marked then marked else marked ++ [candidate.selector]
  | .forgotten selectors => marked.filter fun other => !selectors.contains other

/-- The marks after a past. -/
def marksAfter (past : List Event) : List String := past.foldl marks []

theorem marksAfter_append_singleton (past : List Event) (event : Event) :
    marksAfter (past ++ [event]) = marks (marksAfter past) event := by
  simp [marksAfter]

theorem nodup_marksAfter (past : List Event) : (marksAfter past).Nodup := by
  induction past using List.reverseRecOn with
  | nil => exact List.nodup_nil
  | append_singleton past event inductionHypothesis =>
      rw [marksAfter_append_singleton]
      cases event with
      | offered candidate =>
          by_cases present : candidate.selector ∈ marksAfter past
          · rw [marks, if_pos present]
            exact inductionHypothesis
          · rw [marks, if_neg present, ← List.concat_eq_append]
            exact inductionHypothesis.concat present
      | forgotten selectors => exact inductionHypothesis.filter _

end Event

/-! ## Fresh means not marked -/

theorem fresh_nil (selector : String) : Fresh [] selector := by
  rw [Fresh]
  intro before earlier after split
  simp at split

/-- A forgetting makes the selectors that it names fresh and changes nothing for
the others. -/
theorem fresh_append_forgotten (past : List Event) (selectors : List String) (selector : String) :
    Fresh (past ++ [.forgotten selectors]) selector ↔
      selector ∈ selectors ∨ Fresh past selector := by
  rw [Fresh, Fresh]
  constructor
  · intro fresh
    by_cases named : selector ∈ selectors
    · exact Or.inl named
    · refine Or.inr fun before earlier after split same older => ?_
      rcases fresh before earlier (after ++ [.forgotten selectors])
        (by simp [split]) same older with ⟨found, member, inside⟩
      rcases List.mem_append.mp member with kept | last
      · exact ⟨found, kept, inside⟩
      · rw [List.mem_singleton, Event.forgotten.injEq] at last
        exact absurd (last ▸ inside) named
  · intro either before earlier after split same older
    rcases Runs.split_append_singleton split with ⟨_, impossible, _⟩ | ⟨rest, past_eq, after_eq⟩
    · cases impossible
    · rw [after_eq]
      rcases either with named | fresh
      · exact ⟨selectors, by simp, named⟩
      · rcases fresh before earlier rest past_eq same older with ⟨found, member, inside⟩
        exact ⟨found, List.mem_append_left _ member, inside⟩

/-- No selector is fresh right after a candidate that has it.  Whether that
candidate was fresh itself does not matter: if it was not, the reason for that
still stands. -/
theorem fresh_append_offered (past : List Event) (candidate : Candidate) (selector : String) :
    Fresh (past ++ [.offered candidate]) selector ↔
      candidate.selector ≠ selector ∧ Fresh past selector := by
  constructor
  · intro fresh
    rw [Fresh] at fresh
    have before_fresh : Fresh past selector := by
      rw [Fresh]
      intro before earlier after split same older
      rcases fresh before earlier (after ++ [.offered candidate])
        (by simp [split]) same older with ⟨found, member, inside⟩
      rcases List.mem_append.mp member with kept | last
      · exact ⟨found, kept, inside⟩
      · rw [List.mem_singleton] at last
        cases last
    refine ⟨fun same => ?_, before_fresh⟩
    rcases fresh past candidate [] rfl same before_fresh with ⟨_, member, _⟩
    exact absurd member List.not_mem_nil
  · rintro ⟨different, fresh⟩
    rw [Fresh] at fresh ⊢
    intro before earlier after split same older
    rcases Runs.split_append_singleton split with ⟨_, last, _⟩ | ⟨rest, past_eq, after_eq⟩
    · cases last
      exact absurd same different
    · rcases fresh before earlier rest past_eq same older with ⟨found, member, inside⟩
      exact ⟨found, after_eq ▸ List.mem_append_left _ member, inside⟩

theorem fresh_iff_not_mem_marksAfter (past : List Event) (selector : String) :
    Fresh past selector ↔ selector ∉ Event.marksAfter past := by
  induction past using List.reverseRecOn with
  | nil => exact iff_of_true (fresh_nil selector) List.not_mem_nil
  | append_singleton past event inductionHypothesis =>
      rw [Event.marksAfter_append_singleton]
      cases event with
      | offered candidate =>
          rw [fresh_append_offered, inductionHypothesis, Event.marks]
          split
          · rename_i present
            constructor
            · exact fun both => both.2
            · exact fun absent => ⟨fun same => absent (same ▸ present), absent⟩
          · rw [List.mem_append, List.mem_singleton, not_or]
            exact ⟨fun both => ⟨both.2, Ne.symm both.1⟩, fun both => ⟨Ne.symm both.2, both.1⟩⟩
      | forgotten selectors =>
          rw [fresh_append_forgotten, inductionHypothesis, Event.marks, List.mem_filter]
          by_cases named : selector ∈ selectors <;> simp [named]

instance (past : List Event) (selector : String) : Decidable (Fresh past selector) :=
  decidable_of_iff _ (fresh_iff_not_mem_marksAfter past selector).symm

/-- The fresh ones among the candidates that come up after a past. -/
def freshAfter (past : List Event) : List Candidate -> List Candidate
  | [] => []
  | candidate :: rest =>
      let others := freshAfter (past ++ [.offered candidate]) rest
      if Fresh past candidate.selector then candidate :: others else others

theorem newcomers_marksAfter (past : List Event) (candidates : List Candidate) :
    newcomers (Event.marksAfter past) candidates = freshAfter past candidates := by
  induction candidates generalizing past with
  | nil => rfl
  | cons candidate rest inductionHypothesis =>
      have later := inductionHypothesis (past ++ [.offered candidate])
      rw [Event.marksAfter_append_singleton] at later
      unfold freshAfter
      by_cases present : candidate.selector ∈ Event.marksAfter past
      · have stale : ¬ Fresh past candidate.selector :=
          fun fresh => (fresh_iff_not_mem_marksAfter past _).mp fresh present
        rw [Event.marks, if_pos present] at later
        rw [newcomers_cons_of_mem present, if_neg stale, later]
      · have fresh := (fresh_iff_not_mem_marksAfter past _).mpr present
        rw [Event.marks, if_neg present] at later
        rw [newcomers_cons_of_not_mem present, if_pos fresh, later]

/-! ## Runs of calls -/

namespace Compiler

/-- A call on a compiler that may change it.  Whether the caller of a
compilation looks at the selectors of the answer makes no difference to it. -/
inductive Call where
  | compile (book : Book) (scope : String)
  | compileBag (bag : Entries Book)
  | forget (selectors : List String)

namespace Call

/-- The books that a call compiles, in order, each with its scope. -/
def books : Call -> List (String × Book)
  | .compile book scope => [(scope, book)]
  | .compileBag bag => bag
  | .forget _ => []

/-- The events of a call. -/
def events : Call -> List Event
  | .compile book scope => (book.candidates scope).map .offered
  | .compileBag bag => bag.flatMap fun entry => (entry.2.candidates entry.1).map .offered
  | .forget selectors => [.forgotten selectors]

end Call

/-- The compiler after a call. -/
def perform (compiler : Compiler) : Call -> Compiler
  | .compile book scope => (compiler.compile book scope).1
  | .compileBag bag => compiler.compileBag bag
  | .forget selectors => (compiler.forget selectors).1

/-- The compiler after calls, the first of them first. -/
def run (compiler : Compiler) (calls : List Call) : Compiler := calls.foldl perform compiler

/-- The stylesheets that books add after a past, at most one for each. -/
def sheetsAfter (known : PropertySet) (past : List Event) : List (String × Book) -> List String
  | [] => []
  | (scope, book) :: rest =>
      sheet known (freshAfter past (book.candidates scope)) ++
        sheetsAfter known (past ++ (book.candidates scope).map .offered) rest

theorem run_append (compiler : Compiler) (calls more : List Call) :
    compiler.run (calls ++ more) = (compiler.run calls).run more :=
  List.foldl_append

/-! ## The marks of a run are those of its history -/

/-- A compiler whose marks are those that a past leaves behind. -/
def Records (compiler : Compiler) (past : List Event) : Prop :=
  compiler.classes.compiled = Event.marksAfter past

namespace Records

variable {compiler : Compiler} {past : List Event}

theorem newcomers_eq (records : compiler.Records past) (book : Book) (scope : String) :
    compiler.newcomers book scope = freshAfter past (book.candidates scope) := by
  unfold Compiler.newcomers
  rw [records, newcomers_marksAfter]

/-- Offering candidates leaves the marks that compiling their newcomers leaves. -/
theorem marksAfter_offered (past : List Event) (candidates : List Candidate) :
    Event.marksAfter (past ++ candidates.map .offered) =
      Event.marksAfter past ++
        (ThemedStyles.newcomers (Event.marksAfter past) candidates).map Candidate.selector := by
  induction candidates generalizing past with
  | nil => simp [ThemedStyles.newcomers]
  | cons candidate rest inductionHypothesis =>
      have later := inductionHypothesis (past ++ [.offered candidate])
      rw [Event.marksAfter_append_singleton, List.append_assoc, List.singleton_append] at later
      rw [List.map_cons, later]
      by_cases present : candidate.selector ∈ Event.marksAfter past
      · rw [Event.marks, if_pos present, newcomers_cons_of_mem present]
      · rw [Event.marks, if_neg present, newcomers_cons_of_not_mem present, List.map_cons,
          List.append_assoc, List.singleton_append]

theorem compile (records : compiler.Records past) (book : Book) (scope : String) :
    (compiler.compile book scope).1.Records (past ++ (book.candidates scope).map .offered) := by
  unfold Records
  rw [marksAfter_offered, compile_compiled, compile_snd, records.newcomers_eq,
    newcomers_marksAfter, records]

theorem compileBag (records : compiler.Records past) (bag : Entries Book) :
    (compiler.compileBag bag).Records (past ++ (Call.compileBag bag).events) := by
  induction bag generalizing compiler past with
  | nil => simpa [Compiler.compileBag, Call.events] using records
  | cons entry rest inductionHypothesis =>
      have later := inductionHypothesis (records.compile entry.2 entry.1)
      rw [List.append_assoc] at later
      exact later

theorem forget (records : compiler.Records past) (selectors : List String) :
    (compiler.forget selectors).1.Records (past ++ [.forgotten selectors]) := by
  have distinct : compiler.classes.compiled.Nodup := records ▸ Event.nodup_marksAfter past
  change (compiler.classes.forget selectors).1.compiled = _
  rw [ClassTable.forget_fst _ _ distinct, Event.marksAfter_append_singleton, Event.marks, records]

theorem perform (records : compiler.Records past) (call : Call) :
    (compiler.perform call).Records (past ++ call.events) := by
  cases call with
  | compile book scope => exact records.compile book scope
  | compileBag bag => exact records.compileBag bag
  | forget selectors => exact records.forget selectors

theorem run (records : compiler.Records past) (calls : List Call) :
    (compiler.run calls).Records (past ++ calls.flatMap Call.events) := by
  induction calls generalizing compiler past with
  | nil => simpa [Compiler.run] using records
  | cons call rest inductionHypothesis =>
      have later := inductionHypothesis (records.perform call)
      rw [List.append_assoc] at later
      exact later

theorem new (known : PropertySet) : (Compiler.new known).Records [] := rfl

end Records

/-! ## What calls keep, and what they add to the stylesheets -/

theorem perform_properties (compiler : Compiler) (call : Call) :
    (compiler.perform call).properties = compiler.properties := by
  cases call with
  | compile book scope => exact compiler.compile_properties book scope
  | compileBag bag => exact compiler.compileBag_properties bag
  | forget _ => rfl

theorem run_properties (compiler : Compiler) (calls : List Call) :
    (compiler.run calls).properties = compiler.properties := by
  induction calls generalizing compiler with
  | nil => rfl
  | cons call rest inductionHypothesis =>
      exact (inductionHypothesis _).trans (compiler.perform_properties call)

theorem compileBag_sheets {compiler : Compiler} {past : List Event}
    (records : compiler.Records past) (bag : Entries Book) :
    (compiler.compileBag bag).sheets =
      compiler.sheets ++ sheetsAfter compiler.properties past bag := by
  induction bag generalizing compiler past with
  | nil => simp [compileBag, sheetsAfter]
  | cons entry rest inductionHypothesis =>
      have later := inductionHypothesis (records.compile entry.2 entry.1)
      rw [compile_sheets, compile_properties, records.newcomers_eq, List.append_assoc] at later
      exact later

theorem perform_sheets {compiler : Compiler} {past : List Event}
    (records : compiler.Records past) (call : Call) :
    (compiler.perform call).sheets =
      compiler.sheets ++ sheetsAfter compiler.properties past call.books := by
  cases call with
  | compile book scope => exact compileBag_sheets records [(scope, book)]
  | compileBag bag => exact compileBag_sheets records bag
  | forget _ => exact (List.append_nil _).symm

/-! ## Compiling once more -/

/-- Is the call a forgetting? -/
def Call.forgets : Call -> Bool
  | .forget _ => true
  | _ => false

theorem compiled_subset_run (compiler : Compiler) (calls : List Call)
    (keeping : forall call, call ∈ calls -> call.forgets = false) :
    compiler.classes.compiled ⊆ (compiler.run calls).classes.compiled := by
  induction calls generalizing compiler with
  | nil => exact fun _ member => member
  | cons call rest inductionHypothesis =>
      have later := inductionHypothesis (compiler.perform call)
        fun other member => keeping other (List.mem_cons_of_mem _ member)
      have first : compiler.classes.compiled ⊆ (compiler.perform call).classes.compiled := by
        cases call with
        | compile book scope => exact compiler.compiled_subset_compileBag [(scope, book)]
        | compileBag bag => exact compiler.compiled_subset_compileBag bag
        | forget selectors => exact absurd (keeping _ List.mem_cons_self) Bool.noConfusion
      exact fun selector member => later (first member)

/-- A call marks all selectors of the books that it compiles. -/
theorem mem_compiled_perform (compiler : Compiler) {call : Call} {book : Book} {scope : String}
    (listed : (scope, book) ∈ call.books) {candidate : Candidate}
    (member : candidate ∈ book.candidates scope) :
    candidate.selector ∈ (compiler.perform call).classes.compiled := by
  cases call with
  | compile other otherScope =>
      exact compiler.mem_compiled_compileBag [(otherScope, other)] listed member
  | compileBag bag => exact compiler.mem_compiled_compileBag bag listed member
  | forget _ => exact absurd listed List.not_mem_nil

/-- A book that a call compiled is compiled without any change while nothing is forgotten. -/
theorem compile_eq_self_of_run (compiler : Compiler) {call : Call} {between : List Call}
    {book : Book} {scope : String} (listed : (scope, book) ∈ call.books)
    (keeping : forall other, other ∈ between -> other.forgets = false) :
    ((compiler.perform call).run between).compile book scope =
      ((compiler.perform call).run between, []) := by
  apply compile_eq_self
  apply newcomers_eq_nil
  intro candidate member
  exact compiled_subset_run _ between keeping (compiler.mem_compiled_perform listed member)

/-- What a compiler does after any calls is what their history says.  Each
compilation answers with its fresh selectors; each call adds the stylesheets of
the books that it compiles, at most one for each, behind those that are there;
and a book that was compiled under a scope is compiled under it again without
any change, as long as nothing was forgotten in between. -/
theorem compile_follows_history (known : PropertySet) (calls : List Call) :
    let compiler := (Compiler.new known).run calls
    let past := calls.flatMap Call.events
    (forall book scope,
      (compiler.compile book scope).2 =
        (freshAfter past (book.candidates scope)).map Candidate.selector) ∧
    (forall call, (compiler.perform call).sheets =
      compiler.sheets ++ sheetsAfter known past call.books) ∧
    (forall earlier call between book scope, calls = earlier ++ call :: between ->
      (scope, book) ∈ call.books ->
      (forall other, other ∈ between -> other.forgets = false) ->
      compiler.compile book scope = (compiler, [])) := by
  intro compiler past
  have records : compiler.Records past := (Records.new known).run calls
  have properties : compiler.properties = known := run_properties (Compiler.new known) calls
  refine ⟨?_, ?_, ?_⟩
  · intro book scope
    rw [compile_snd, records.newcomers_eq]
  · intro call
    rw [perform_sheets records call, properties]
  · intro earlier call between book scope split listed keeping
    apply compile_eq_self
    apply newcomers_eq_nil
    intro candidate member
    have marked := ((Compiler.new known).run earlier).mem_compiled_perform listed member
    have kept := compiled_subset_run _ between keeping marked
    have whole : compiler =
        (((Compiler.new known).run earlier).perform call).run between := by
      change (Compiler.new known).run calls = _
      rw [split, run_append]
      rfl
    rw [whole]
    exact kept

/-- A book of a bag stays compiled while the same book is compiled elsewhere; what
was forgotten before does not matter. -/
theorem compile_again_after_bag :
    let cards : Book := [("card", .book [("padding", "8px")])]
    let compiler := (Compiler.new .standard).run
      [.forget [".light .card"], .compileBag [("", []), (".light", cards)], .compile cards ".dark"]
    compiler.compile cards ".light" = (compiler, []) := by
  intro cards
  exact (compile_follows_history .standard _).2.2 [.forget [".light .card"]]
    (.compileBag [("", []), (".light", cards)]) [.compile cards ".dark"] cards ".light" rfl
    (by simp [Call.books]) (by simp [Call.forgets])

end Compiler
end ThemedStyles
