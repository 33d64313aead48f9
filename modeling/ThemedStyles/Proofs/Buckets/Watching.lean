import ThemedStyles.Buckets
import ThemedStyles.Proofs.Compilation.History

namespace ThemedStyles

/-!
# Watching widths

An observer goes through a run with a compiler that others call too.  The widths of
the run fall into buckets, and the list of these buckets is all that matters: the
observer has the class of the last of them, a listener hears of those after its
registration that differ from the one before, and the compiler takes an observation
as one more call, which compiles the book of the bucket if there is one.

The first observation in a bucket marks all selectors of its book.  They stay marked
as long as nothing is forgotten, whatever else is compiled, and so later observations
in the bucket leave the compiler as it is.
-/

/-! ## Buckets -/

theorem breakpoints_ordered :
    breakpoints.reverse.Pairwise fun wider narrower => narrower.2 ≤ wider.2 := by
  decide

/-- The bucket of a width is the one with the greatest least width that is reached. -/
theorem bucketOf_greatest (width : Nat) :
    ∃ least, (bucketOf width, least) ∈ breakpoints ∧ least ≤ width ∧
      forall other, other ∈ breakpoints -> other.2 ≤ width -> other.2 ≤ least := by
  have reached : (breakpoints.reverse.find? fun breakpoint => breakpoint.2 ≤ width).isSome :=
    List.find?_isSome.mpr ⟨("xs", 0), by decide, by simp⟩
  rcases Option.isSome_iff_exists.mp reached with ⟨⟨bucket, least⟩, found⟩
  rcases List.find?_eq_some_iff_append.mp found with ⟨fits, wider, narrower, split, tooWide⟩
  have own : bucketOf width = bucket := by rw [bucketOf, found]
  have ordered := breakpoints_ordered
  rw [split, List.pairwise_append, List.pairwise_cons] at ordered
  refine ⟨least, ?listed, of_decide_eq_true fits, ?greatest⟩
  case listed =>
    rw [own]
    exact List.mem_of_find?_eq_some found |> List.mem_reverse.mp
  case greatest =>
    intro other listed reaches
    rw [← List.mem_reverse, split, List.mem_append, List.mem_cons] at listed
    rcases listed with wide | rfl | narrow
    · exact absurd (decide_eq_true reaches) (by simpa using tooWide other wide)
    · exact Nat.le_refl _
    · exact ordered.2.1.1 other narrow

/-- What compiling a book adds: the selectors that are not marked, with their rules, and
nothing else. -/
structure Compiler.Adds (compiler next : Compiler) (book : Book) (scope : String) : Prop where
  marks : next.classes.compiled =
    compiler.classes.compiled ++ (compiler.newcomers book scope).map Candidate.selector
  fresh : forall selector,
    selector ∈ (compiler.newcomers book scope).map Candidate.selector ↔
      selector ∉ compiler.classes.compiled ∧
        selector ∈ (book.candidates scope).map Candidate.selector
  sheets : next.sheets =
    compiler.sheets ++ sheet compiler.properties (compiler.newcomers book scope)
  once : (sheet compiler.properties (compiler.newcomers book scope)).length ≤ 1

theorem Compiler.adds_compile (compiler : Compiler) (book : Book) (scope : String) :
    compiler.Adds (compiler.compile book scope).1 book scope where
  marks := by rw [compile_compiled, compile_snd]
  fresh := mem_selectors_newcomers_iff _ _
  sheets := compiler.compile_sheets book scope
  once := length_sheet_le_one _ _

/-! ## Runs -/

/-- An observer with the compiler that it shares with others. -/
structure Watch where
  observer : WidthObserver
  compiler : Compiler

namespace Watch

inductive Step where
  | observe (width : Nat)
  | listen (listener : String)
  | call (call : Compiler.Call)

namespace Step

/-- The bucket of the width that a step observes. -/
def bucket? : Step -> Option String
  | .observe width => some (bucketOf width)
  | _ => none

def listener? : Step -> Option String
  | .listen listener => some listener
  | _ => none

/-- What a step is to the compiler. -/
def calls (books : Entries Book) : Step -> List Compiler.Call
  | .observe width =>
      let bucket := bucketOf width
      ((books.get? bucket).map fun book => .compile book ("." ++ bucketClass bucket)).toList
  | .listen _ => []
  | .call made => [made]

end Step

def start (compiler : Compiler) (books : Entries Book) : Watch := ⟨.new books, compiler⟩

def take (watch : Watch) : Step -> Watch
  | .observe width =>
      let (observer, compiler, _) := watch.observer.observe watch.compiler width
      ⟨observer, compiler⟩
  | .listen listener => { watch with observer := watch.observer.listen listener }
  | .call call => { watch with compiler := watch.compiler.perform call }

/-- Observer and compiler after steps, the first of them first. -/
def follow (watch : Watch) (steps : List Step) : Watch := steps.foldl take watch

/-- What a caller that observes a width is answered. -/
def answer (watch : Watch) (width : Nat) : Observation :=
  (watch.observer.observe watch.compiler width).2.2

def notices (watch : Watch) : Step -> List Notice
  | .observe width => watch.answer width
  | _ => []

/-- The notices of a step, each with the place of the listener that it is for. -/
def posts (watch : Watch) (step : Step) : List (Nat × Notice) :=
  Runs.numbered (watch.notices step)

/-- The buckets of the widths that were observed. -/
def observed (steps : List Step) : List String := steps.filterMap Step.bucket?

def listeners (steps : List Step) : List String := steps.filterMap Step.listener?

theorem take_eq (watch : Watch) (step : Step) :
    watch.take step =
      { observer :=
          { books := watch.observer.books
            current := step.bucket?.or watch.observer.current
            listeners := watch.observer.listeners ++ step.listener?.toList }
        compiler := watch.compiler.run (step.calls watch.observer.books) } := by
  cases step with
  | observe width =>
      simp only [take, WidthObserver.observe, WidthObserver.compileBucket, Step.calls]
      cases watch.observer.books.get? (bucketOf width) with
      | none => simp [Step.bucket?, Step.listener?, Compiler.run]
      | some book => simp [Step.bucket?, Step.listener?, Compiler.run, Compiler.perform]
  | listen listener => rfl
  | call call => simp [take, Step.bucket?, Step.listener?, Step.calls, Compiler.run]

/-- What a run leaves behind is known from its steps. -/
theorem follow_start_eq (compiler : Compiler) (books : Entries Book) (steps : List Step) :
    (start compiler books).follow steps =
      { observer := ⟨books, (observed steps).getLast?, listeners steps⟩
        compiler := compiler.run (steps.flatMap (Step.calls books)) } := by
  induction steps using List.reverseRecOn with
  | nil => rfl
  | append_singleton steps step inductionHypothesis =>
      have last : (start compiler books).follow (steps ++ [step]) =
          ((start compiler books).follow steps).take step := List.foldl_append
      rw [last, inductionHypothesis, take_eq, observed, observed, listeners, listeners,
        List.filterMap_append, List.filterMap_append, List.flatMap_append, Compiler.run_append]
      cases fallen : step.bucket? <;> cases joined : step.listener? <;> simp [fallen, joined]

theorem follow_append_cons (watch : Watch) (before : List Step) (step : Step)
    (after : List Step) :
    watch.follow (before ++ step :: after) = ((watch.follow before).take step).follow after :=
  List.foldl_append

/-! ## What a listener hears -/

section Hears

variable {watch : Watch}

theorem heardBy_posts_of_none {place : Nat} (absent : watch.observer.listeners[place]? = none)
    (step : Step) : Runs.heardBy place (watch.posts step) = [] := by
  rw [posts, Runs.heardBy_numbered]
  cases step with
  | observe width =>
      by_cases same : watch.observer.current = some (bucketOf width) <;>
        simp [notices, answer, WidthObserver.observe, WidthObserver.notices, same, absent]
  | _ => rfl

/-- A listener hears of a width whose bucket differs from the current one. -/
theorem heardBy_posts_of_some {place : Nat} {listener : String}
    (present : watch.observer.listeners[place]? = some listener) (step : Step) :
    Runs.heardBy place (watch.posts step) =
      (Runs.changes watch.observer.current step.bucket?.toList).map
        fun bucket => ⟨listener, bucketClass bucket⟩ := by
  rw [posts, Runs.heardBy_numbered]
  cases step with
  | observe width =>
      by_cases same : watch.observer.current = some (bucketOf width) <;>
        simp [notices, answer, WidthObserver.observe, WidthObserver.notices, same, present,
          Step.bucket?, Runs.changes]
  | _ => rfl

/-- From its registration on, a listener hears of the changes of the bucket, and of nothing
before. -/
theorem heardBy_log_eq (compiler : Compiler) (books : Entries Book) (before : List Step)
    (listener : String) (after : List Step) :
    Runs.heardBy (listeners before).length (Runs.log take posts (start compiler books)
        (before ++ .listen listener :: after)) =
      (Runs.changes (observed before).getLast? (observed after)).map
        fun bucket => ⟨listener, bucketClass bucket⟩ := by
  let place := (listeners before).length
  have silent_while_not_taken : Runs.log take
      (fun watch step => Runs.heardBy place (watch.posts step))
      (start compiler books) before = [] := by
    refine Runs.log_eq_nil fun earlier step later split => heardBy_posts_of_none ?_ step
    change ((start compiler books).follow earlier).observer.listeners[place]? = none
    have grown : listeners before = listeners earlier ++ listeners (step :: later) := by
      rw [split]
      exact List.filterMap_append
    rw [follow_start_eq, List.getElem?_eq_none_iff]
    change (listeners earlier).length ≤ (listeners before).length
    rw [grown, List.length_append]
    exact Nat.le_add_right _ _
  have heard_once_taken : Runs.log take
      (fun watch step => Runs.heardBy place (watch.posts step))
      (((start compiler books).follow before).take (.listen listener)) after =
      (Runs.changes (observed before).getLast? (observed after)).map
        fun bucket => ⟨listener, bucketClass bucket⟩ := by
    have current : (((start compiler books).follow before).take
        (.listen listener)).observer.current = (observed before).getLast? := by
      rw [take_eq, follow_start_eq]
      rfl
    rw [← current]
    refine Runs.log_eq_changes (fun watch : Watch => watch.observer.current) ?follows ?emits
    case follows =>
      intro watch step
      rw [take_eq]
    case emits =>
      intro earlier step later split
      refine heardBy_posts_of_some ?_ step
      change (follow _ earlier).observer.listeners[place]? = some listener
      rw [← follow_append_cons, follow_start_eq, listeners, List.filterMap_append]
      simp [place, listeners, Step.listener?]
  rw [Runs.heardBy_log, Runs.log_append, silent_while_not_taken, Runs.log]
  exact heard_once_taken

end Hears

/-! ## When the book of a bucket is compiled -/

/-- Observing forgets nothing. -/
theorem forgets_calls (books : Entries Book) {between : List Step}
    (keeping : forall call, .call call ∈ between -> call.forgets = false) :
    forall made, made ∈ between.flatMap (Step.calls books) -> made.forgets = false := by
  intro made member
  rcases List.mem_flatMap.mp member with ⟨step, listed, inside⟩
  cases step with
  | observe width =>
      rcases Option.map_eq_some_iff.mp (Option.mem_toList.mp inside) with ⟨book, _, rfl⟩
      rfl
  | listen listener => cases inside
  | call other =>
      rw [List.mem_singleton.mp inside]
      exact keeping other listed

/-- Observing a width compiles the book of its bucket, if there is one. -/
theorem compiler_observe (watch : Watch) (width : Nat) :
    (watch.take (.observe width)).compiler =
      match watch.observer.books.get? (bucketOf width) with
      | some book => (watch.compiler.compile book ("." ++ bucketClass (bucketOf width))).1
      | none => watch.compiler :=
  rfl

/-- The book of a bucket is not compiled for the second time, unless something was forgotten. -/
theorem compiler_observe_again (compiler : Compiler) (books : Entries Book) (before : List Step)
    {earlier width : Nat} {between : List Step} (same : bucketOf earlier = bucketOf width)
    (keeping : forall call, .call call ∈ between -> call.forgets = false) :
    let watch := (start compiler books).follow (before ++ .observe earlier :: between)
    (watch.take (.observe width)).compiler = watch.compiler := by
  intro watch
  let past := compiler.run (before.flatMap (Step.calls books))
  let calls := between.flatMap (Step.calls books)
  have reached : watch.compiler = (past.run (Step.calls books (.observe earlier))).run calls := by
    rw [← Compiler.run_append, ← Compiler.run_append]
    change ((start compiler books).follow _).compiler = _
    rw [follow_start_eq, List.flatMap_append, List.flatMap_cons]
  have known : watch.observer.books = books :=
    congrArg (fun watch => watch.observer.books) (follow_start_eq compiler books _)
  rw [compiler_observe, known]
  cases bookOf : books.get? (bucketOf width) with
  | none => rfl
  | some book =>
      let scope := "." ++ bucketClass (bucketOf width)
      have same_call : Step.calls books (.observe earlier) = [.compile book scope] := by
        rw [Step.calls, same, bookOf]
        rfl
      have unchanged : ((past.perform (.compile book scope)).run calls).compile book scope =
          ((past.perform (.compile book scope)).run calls, []) :=
        Compiler.compile_eq_self_of_run past List.mem_cons_self (forgets_calls books keeping)
      rw [reached, same_call]
      exact congrArg Prod.fst unchanged

/-- After any run, an observation answers with the class of the widest bucket that its width
reaches, which is the current class from then on.  It compiles the book of the bucket, which
adds what is not marked and, after an earlier observation in the same bucket and no
forgetting since, nothing at all.  A listener hears of the buckets after its registration
that differ from the one before, whether or not that one was observed before its
registration. -/
theorem listeners_and_books_follow_buckets (compiler : Compiler) (books : Entries Book)
    (steps : List Step) :
    let watch := (start compiler books).follow steps
    watch.observer.currentClass? = (observed steps).getLast?.map bucketClass ∧
    (forall width,
      let next := watch.take (.observe width)
      (∃ least, (bucketOf width, least) ∈ breakpoints ∧ least ≤ width ∧
        forall other, other ∈ breakpoints -> other.2 ≤ width -> other.2 ≤ least) ∧
      (watch.answer width).className = bucketClass (bucketOf width) ∧
      next.observer.currentClass? = some (bucketClass (bucketOf width)) ∧
      (books.get? (bucketOf width) = none -> next.compiler = watch.compiler) ∧
      (forall book, books.get? (bucketOf width) = some book ->
        watch.compiler.Adds next.compiler book ("." ++ bucketClass (bucketOf width))) ∧
      (forall before earlier between, steps = before ++ .observe earlier :: between ->
        bucketOf earlier = bucketOf width ->
        (forall call, .call call ∈ between -> call.forgets = false) ->
          next.compiler = watch.compiler)) ∧
    (forall before listener after, steps = before ++ .listen listener :: after ->
      Runs.heardBy (listeners before).length (Runs.log take posts (start compiler books) steps) =
        (Runs.changes (observed before).getLast? (observed after)).map
          fun bucket => ⟨listener, bucketClass bucket⟩) := by
  intro watch
  have reached := follow_start_eq compiler books steps
  have known : watch.observer.books = books :=
    congrArg (fun watch => watch.observer.books) reached
  have current : watch.observer.current = (observed steps).getLast? :=
    congrArg (fun watch => watch.observer.current) reached
  refine ⟨congrArg (Option.map bucketClass) current, fun width => ?observation, ?hears⟩
  case observation =>
    refine ⟨bucketOf_greatest width, rfl, rfl, ?bookless, ?booked, ?again⟩
    case bookless =>
      intro missing
      rw [compiler_observe, known, missing]
    case booked =>
      intro book found
      rw [compiler_observe, known, found]
      exact watch.compiler.adds_compile book _
    case again =>
      intro before earlier between split same keeping
      have unchanged := compiler_observe_again compiler books before same keeping
      rwa [← split] at unchanged
  case hears =>
    rintro before listener after rfl
    exact heardBy_log_eq compiler books before listener after

/-- The middle bucket is entered twice and its book compiled once, while the menu comes
too late for the first change. -/
theorem columns_compiled_at_first_width :
    let columns : Book := [("columns", .book [("columnCount", "2")])]
    let begun := start (.new .standard) [("md", columns)]
    let steps : List Step :=
      [.listen "page", .observe 950, .call (.compile columns ".wide"), .listen "menu",
       .observe 899, .observe 600, .observe 1000]
    let watch := begun.follow steps
    watch.observer.currentClass? = some "size-md" ∧
      (begun.take (.observe 950)).compiler.classes.compiled = [".size-md .columns"] ∧
      (watch.answer 1199).className = "size-md" ∧
      (watch.take (.observe 1199)).compiler = watch.compiler ∧
      (watch.answer 1200).className = "size-lg" ∧
      (watch.take (.observe 1200)).compiler = watch.compiler ∧
      (watch.take (.observe 1200)).observer.currentClass? = some "size-lg" ∧
      Runs.heardBy 0 (Runs.log take posts begun steps) =
        [⟨"page", "size-md"⟩, ⟨"page", "size-sm"⟩, ⟨"page", "size-md"⟩] ∧
      Runs.heardBy 1 (Runs.log take posts begun steps) =
        [⟨"menu", "size-sm"⟩, ⟨"menu", "size-md"⟩] := by
  intro columns begun steps watch
  have law := listeners_and_books_follow_buckets (.new .standard) [("md", columns)]
  obtain ⟨current, observation, hears⟩ := law steps
  obtain ⟨_, _, _, _, booked, _⟩ := (law []).2.1 950
  have first : (begun.take (.observe 950)).compiler.classes.compiled = [".size-md .columns"] :=
    (booked columns rfl).marks.trans (by decide +kernel)
  obtain ⟨_, middle, _, _, _, again⟩ := observation 1199
  have unchanged := again (steps.take 1) 950 (steps.drop 2) rfl rfl
    (by simp [steps, Compiler.Call.forgets])
  obtain ⟨_, large, currently, bookless, _, _⟩ := observation 1200
  have page := hears [] "page" steps.tail rfl
  have menu := hears (steps.take 3) "menu" (steps.drop 4) rfl
  exact ⟨current, first, middle, unchanged, large, bookless rfl, currently, page, menu⟩

end Watch
end ThemedStyles
