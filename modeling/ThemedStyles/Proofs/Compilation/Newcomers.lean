import Mathlib.Data.List.Nodup
import ThemedStyles.Compiler

namespace ThemedStyles

/-!
# What one compilation adds

Compiling a book looks at its top-level entries with a body, the candidates, in
order.  A candidate whose selector is marked is passed over; any other is
compiled and marks its selector, so that a later candidate of the same book with
that selector is passed over too.  The candidates that are compiled are the
newcomers of the book.

Everything a compilation does is determined by its newcomers: the answer lists
their selectors, the marks grow by exactly these, and the stylesheet is the text
of their rules one after the other.  Nothing here depends on how the marks came
about, so that histories and sessions can be built on it.
-/

/-- A top-level entry with a body, to be compiled under a scope. -/
structure Candidate where
  key : String
  scope : String
  body : Book

namespace Candidate

/-- The selector that the key denotes under the scope. -/
def selector (candidate : Candidate) : String := Key.selector candidate.key candidate.scope

/-- The rules of the body. -/
def rules (known : PropertySet) (candidate : Candidate) : Rules :=
  Rules.flatten known [] candidate.selector candidate.body

/-- The text of the rules. -/
def css (known : PropertySet) (candidate : Candidate) : String :=
  (candidate.rules known).css candidate.selector

end Candidate

/-- The entries of a book that are compiled under a scope.  An entry without a
body is passed over. -/
def Book.candidates (book : Book) (scope : String) : List Candidate :=
  book.filterMap fun entry => entry.2.book?.map fun body => ⟨entry.1, scope, body⟩

theorem mem_candidates_iff {book : Book} {scope : String} {candidate : Candidate} :
    candidate ∈ book.candidates scope ↔
      (candidate.key, Value.book candidate.body) ∈ book ∧ candidate.scope = scope := by
  rw [Book.candidates, List.mem_filterMap]
  constructor
  · rintro ⟨⟨key, value⟩, listed, made⟩
    cases value with
    | book body =>
        cases Option.some.inj made
        exact ⟨listed, rfl⟩
    | _ => cases made
  · rintro ⟨listed, rfl⟩
    exact ⟨_, listed, rfl⟩

/-- The keys of the candidates are keys of the book, in their order. -/
theorem keys_candidates_sublist (book : Book) (scope : String) :
    ((book.candidates scope).map Candidate.key).Sublist (Entries.keys book) := by
  induction book with
  | nil => exact List.Sublist.refl _
  | cons entry rest inductionHypothesis =>
      rcases entry with ⟨key, value⟩
      cases value with
      | book body => exact inductionHypothesis.cons_cons key
      | _ => exact inductionHypothesis.cons key

/-- The candidates whose selectors are not marked when their turn comes. -/
def newcomers (marked : List String) : List Candidate -> List Candidate
  | [] => []
  | candidate :: rest =>
      if candidate.selector ∈ marked then newcomers marked rest
      else candidate :: newcomers (marked ++ [candidate.selector]) rest

/-- The stylesheet of compiled candidates.  Without any text there is none. -/
def sheet (known : PropertySet) (compiled : List Candidate) : List String :=
  let text := String.join (compiled.map (Candidate.css known))
  if text = "" then [] else [text]

theorem length_sheet_le_one (known : PropertySet) (compiled : List Candidate) :
    (sheet known compiled).length ≤ 1 := by
  unfold sheet
  dsimp only
  split <;> simp

/-! ## Selectors of newcomers -/

section Selectors

variable (marked : List String) (candidates : List Candidate)

theorem newcomers_cons_of_mem {marked : List String} {candidate : Candidate}
    (present : candidate.selector ∈ marked) (rest : List Candidate) :
    newcomers marked (candidate :: rest) = newcomers marked rest :=
  if_pos present

theorem newcomers_cons_of_not_mem {marked : List String} {candidate : Candidate}
    (absent : candidate.selector ∉ marked) (rest : List Candidate) :
    newcomers marked (candidate :: rest) =
      candidate :: newcomers (marked ++ [candidate.selector]) rest :=
  if_neg absent

theorem newcomers_eq_nil (all : forall candidate, candidate ∈ candidates ->
    candidate.selector ∈ marked) : newcomers marked candidates = [] := by
  induction candidates with
  | nil => rfl
  | cons candidate rest inductionHypothesis =>
      rw [newcomers_cons_of_mem (all candidate List.mem_cons_self)]
      exact inductionHypothesis fun other member => all other (List.mem_cons_of_mem _ member)

/-- Candidates with different selectors, none of them marked, are all newcomers. -/
theorem newcomers_eq_self {marked : List String} {candidates : List Candidate}
    (unmarked : forall candidate, candidate ∈ candidates -> candidate.selector ∉ marked)
    (distinct : (candidates.map Candidate.selector).Nodup) :
    newcomers marked candidates = candidates := by
  induction candidates generalizing marked with
  | nil => rfl
  | cons candidate rest inductionHypothesis =>
      rw [List.map_cons, List.nodup_cons] at distinct
      rw [newcomers_cons_of_not_mem (unmarked candidate List.mem_cons_self), inductionHypothesis]
      · intro other member
        rw [List.mem_append, List.mem_singleton, not_or]
        refine ⟨unmarked other (List.mem_cons_of_mem _ member), fun same => ?_⟩
        exact distinct.1 (same ▸ List.mem_map_of_mem member)
      · exact distinct.2

/-- Every selector of a candidate that is not marked gets a newcomer, and no
other selector does. -/
theorem mem_selectors_newcomers_iff (selector : String) :
    selector ∈ (newcomers marked candidates).map Candidate.selector ↔
      selector ∉ marked ∧ selector ∈ candidates.map Candidate.selector := by
  induction candidates generalizing marked with
  | nil => simp [newcomers]
  | cons candidate rest inductionHypothesis =>
      unfold newcomers
      split
      · rename_i present
        rw [inductionHypothesis, List.map_cons, List.mem_cons]
        constructor
        · rintro ⟨unmarked, member⟩
          exact ⟨unmarked, Or.inr member⟩
        · rintro ⟨unmarked, same | member⟩
          · exact absurd (same ▸ present) unmarked
          · exact ⟨unmarked, member⟩
      · rename_i absent
        rw [List.map_cons, List.mem_cons, inductionHypothesis, List.map_cons, List.mem_cons,
          List.mem_append, List.mem_singleton]
        constructor
        · rintro (same | ⟨unmarked, member⟩)
          · exact ⟨same ▸ absent, Or.inl same⟩
          · exact ⟨fun present => unmarked (Or.inl present), Or.inr member⟩
        · rintro ⟨unmarked, same | member⟩
          · exact Or.inl same
          · by_cases same : selector = candidate.selector
            · exact Or.inl same
            · exact Or.inr ⟨fun either => either.elim unmarked same, member⟩

/-- Marks and newcomers together repeat nothing that the marks do not repeat. -/
theorem nodup_append_newcomers (distinct : marked.Nodup) :
    (marked ++ (newcomers marked candidates).map Candidate.selector).Nodup := by
  induction candidates generalizing marked with
  | nil => simpa [newcomers] using distinct
  | cons candidate rest inductionHypothesis =>
      unfold newcomers
      split
      · exact inductionHypothesis marked distinct
      · rename_i absent
        have grown : (marked ++ [candidate.selector]).Nodup := by
          rw [← List.concat_eq_append]
          exact distinct.concat absent
        have later := inductionHypothesis _ grown
        rw [List.append_assoc] at later
        exact later

/-- Candidates with a marked selector may as well be left out. -/
theorem newcomers_filter_ne (selector : String) (present : selector ∈ marked) :
    newcomers marked (candidates.filter fun candidate => candidate.selector != selector) =
      newcomers marked candidates := by
  induction candidates generalizing marked with
  | nil => rfl
  | cons candidate rest inductionHypothesis =>
      by_cases same : candidate.selector = selector
      · rw [List.filter_cons_of_neg (by simp [same]), inductionHypothesis marked present,
          newcomers_cons_of_mem (same ▸ present)]
      · rw [List.filter_cons_of_pos (by simp [same])]
        by_cases known : candidate.selector ∈ marked
        · rw [newcomers_cons_of_mem known, newcomers_cons_of_mem known,
            inductionHypothesis marked present]
        · rw [newcomers_cons_of_not_mem known, newcomers_cons_of_not_mem known,
            inductionHypothesis _ (List.mem_append_left _ present)]

/-- Marks that do not tell the candidates apart have the same newcomers. -/
theorem newcomers_congr {marked other : List String} {candidates : List Candidate}
    (same : forall candidate, candidate ∈ candidates ->
      (candidate.selector ∈ marked ↔ candidate.selector ∈ other)) :
    newcomers marked candidates = newcomers other candidates := by
  induction candidates generalizing marked other with
  | nil => rfl
  | cons candidate rest inductionHypothesis =>
      have here := same candidate List.mem_cons_self
      have later := fun inner member => same inner (List.mem_cons_of_mem _ member)
      by_cases present : candidate.selector ∈ marked
      · rw [newcomers_cons_of_mem present, newcomers_cons_of_mem (here.mp present),
          inductionHypothesis later]
      · rw [newcomers_cons_of_not_mem present, newcomers_cons_of_not_mem (mt here.mpr present)]
        congr 1
        apply inductionHypothesis
        intro inner member
        rw [List.mem_append, List.mem_append, later inner member]

end Selectors

/-! ## A compilation is determined by its newcomers -/

namespace Batch

/-- Compile a candidate whose selector is not marked. -/
def take (known : PropertySet) (batch : Batch) (candidate : Candidate) : Batch where
  css := batch.css ++ candidate.css known
  fresh := batch.fresh ++ [candidate.selector]
  classes := (batch.classes.mark candidate.selector).registerKey candidate.key

theorem compiled_take (known : PropertySet) (batch : Batch) (candidate : Candidate)
    (absent : candidate.selector ∉ batch.classes.compiled) :
    (batch.take known candidate).classes.compiled =
      batch.classes.compiled ++ [candidate.selector] := by
  rw [take, ClassTable.compiled_registerKey]
  exact ClassTable.compiled_mark_of_not_mem _ _ absent

/-- Adding the entries of a book is taking its newcomers. -/
theorem foldl_add (known : PropertySet) (book : Book) (scope : String) (batch : Batch) :
    book.foldl (Batch.add known scope) batch =
      (newcomers batch.classes.compiled (book.candidates scope)).foldl (take known) batch := by
  induction book generalizing batch with
  | nil => rfl
  | cons entry rest inductionHypothesis =>
      rcases entry with ⟨key, value⟩
      cases value with
      | book body =>
          let candidate : Candidate := ⟨key, scope, body⟩
          have split : Book.candidates ((key, .book body) :: rest) scope =
              candidate :: Book.candidates rest scope := rfl
          rw [List.foldl_cons, split]
          by_cases present : candidate.selector ∈ batch.classes.compiled
          · have passed : Batch.add known scope batch (key, .book body) = batch :=
              if_pos ((batch.classes.isCompiled_iff _).mpr present)
            rw [passed, inductionHypothesis, newcomers_cons_of_mem present]
          · have taken : Batch.add known scope batch (key, .book body) =
                batch.take known candidate :=
              if_neg (mt (batch.classes.isCompiled_iff _).mp present)
            rw [taken, inductionHypothesis, compiled_take known batch candidate present,
              newcomers_cons_of_not_mem present, List.foldl_cons]
      | _ => exact inductionHypothesis batch

theorem foldl_take_css (known : PropertySet) (compiled : List Candidate) (batch : Batch) :
    (compiled.foldl (take known) batch).css =
      batch.css ++ String.join (compiled.map (Candidate.css known)) := by
  induction compiled generalizing batch with
  | nil => simp
  | cons candidate rest inductionHypothesis =>
      rw [List.foldl_cons, inductionHypothesis, List.map_cons, String.join_cons,
        ← String.append_assoc]
      rfl

theorem foldl_take_fresh (known : PropertySet) (compiled : List Candidate) (batch : Batch) :
    (compiled.foldl (take known) batch).fresh =
      batch.fresh ++ compiled.map Candidate.selector := by
  induction compiled generalizing batch with
  | nil => simp
  | cons candidate rest inductionHypothesis =>
      rw [List.foldl_cons, inductionHypothesis, List.map_cons]
      simp [take]

theorem foldl_take_compiled (known : PropertySet) (candidates : List Candidate) (batch : Batch) :
    ((newcomers batch.classes.compiled candidates).foldl (take known) batch).classes.compiled =
      batch.classes.compiled ++
        (newcomers batch.classes.compiled candidates).map Candidate.selector := by
  induction candidates generalizing batch with
  | nil => simp [newcomers]
  | cons candidate rest inductionHypothesis =>
      by_cases present : candidate.selector ∈ batch.classes.compiled
      · rw [newcomers_cons_of_mem present]
        exact inductionHypothesis batch
      · have later := inductionHypothesis (batch.take known candidate)
        rw [compiled_take known batch candidate present] at later
        rw [newcomers_cons_of_not_mem present, List.foldl_cons, later, List.map_cons,
          List.append_assoc, List.singleton_append]

end Batch

namespace Compiler

variable (compiler : Compiler) (book : Book) (scope : String)

/-- The candidates that compiling a book would compile now. -/
def newcomers (compiler : Compiler) (book : Book) (scope : String) : List Candidate :=
  ThemedStyles.newcomers compiler.classes.compiled (book.candidates scope)

theorem batch_eq : compiler.batch book scope =
    (compiler.newcomers book scope).foldl (Batch.take compiler.properties)
      ⟨"", [], compiler.classes⟩ :=
  Batch.foldl_add compiler.properties book scope ⟨"", [], compiler.classes⟩

theorem compile_properties :
    (compiler.compile book scope).1.properties = compiler.properties := by
  simp only [compile]
  split <;> rfl

theorem compile_classes :
    (compiler.compile book scope).1.classes = (compiler.batch book scope).classes := by
  simp only [compile]
  split <;> rfl

/-- The answer lists the selectors of the newcomers. -/
theorem compile_snd :
    (compiler.compile book scope).2 =
      (compiler.newcomers book scope).map Candidate.selector := by
  change (compiler.batch book scope).fresh = _
  rw [batch_eq, Batch.foldl_take_fresh]
  rfl

/-- The marks grow by the selectors that the answer lists. -/
theorem compile_compiled :
    (compiler.compile book scope).1.classes.compiled =
      compiler.classes.compiled ++ (compiler.compile book scope).2 := by
  rw [compile_classes, compile_snd, batch_eq]
  exact Batch.foldl_take_compiled compiler.properties (book.candidates scope)
    ⟨"", [], compiler.classes⟩

/-- The stylesheets grow by that of the newcomers, if they have any text. -/
theorem compile_sheets :
    (compiler.compile book scope).1.sheets =
      compiler.sheets ++ sheet compiler.properties (compiler.newcomers book scope) := by
  have text : (compiler.batch book scope).css =
      String.join ((compiler.newcomers book scope).map (Candidate.css compiler.properties)) := by
    rw [batch_eq, Batch.foldl_take_css]
    exact String.empty_append
  unfold compile sheet
  simp only [text, String.isEmpty_iff]
  split <;> simp [inject]

/-- Without newcomers nothing changes. -/
theorem compile_eq_self (none : compiler.newcomers book scope = []) :
    compiler.compile book scope = (compiler, []) := by
  have idle : compiler.batch book scope = ⟨"", [], compiler.classes⟩ := by
    rw [batch_eq, none]
    rfl
  unfold compile
  rw [idle]
  rfl

theorem nodup_compile (distinct : compiler.classes.compiled.Nodup) :
    (compiler.compile book scope).1.classes.compiled.Nodup := by
  rw [compile_compiled, compile_snd]
  exact nodup_append_newcomers _ _ distinct

theorem mem_compile_snd_iff (selector : String) :
    selector ∈ (compiler.compile book scope).2 ↔
      selector ∉ compiler.classes.compiled ∧
        selector ∈ (book.candidates scope).map Candidate.selector := by
  rw [compile_snd]
  exact mem_selectors_newcomers_iff _ _ selector

/-- A compiled book has marked all its selectors. -/
theorem mem_compiled_compile {candidate : Candidate}
    (member : candidate ∈ book.candidates scope) :
    candidate.selector ∈ (compiler.compile book scope).1.classes.compiled := by
  rw [compile_compiled, List.mem_append, mem_compile_snd_iff]
  by_cases present : candidate.selector ∈ compiler.classes.compiled
  · exact Or.inl present
  · exact Or.inr ⟨present, List.mem_map_of_mem member⟩

theorem candidates_filter (selector : String) :
    Book.candidates (book.filter fun entry => Key.selector entry.1 scope != selector) scope =
      (book.candidates scope).filter fun candidate => candidate.selector != selector := by
  induction book with
  | nil => rfl
  | cons entry rest inductionHypothesis =>
      rcases entry with ⟨key, value⟩
      cases value <;> by_cases same : Key.selector key scope = selector <;>
        simp_all [Book.candidates, Value.book?, Candidate.selector]

/-- Entries whose selector is compiled already may as well be left out: they add
nothing to the answer, to the classes or to the stylesheets. -/
theorem compile_filter_ne (selector : String) (present : selector ∈ compiler.classes.compiled) :
    compiler.compile (book.filter fun entry => Key.selector entry.1 scope != selector) scope =
      compiler.compile book scope := by
  have same : compiler.batch (book.filter fun entry => Key.selector entry.1 scope != selector)
      scope = compiler.batch book scope := by
    rw [batch_eq, batch_eq, Compiler.newcomers, candidates_filter,
      newcomers_filter_ne _ _ selector present]
    rfl
  unfold compile
  rw [same]

/-! ## Bags of books -/

theorem compileBag_properties (compiler : Compiler) (bag : Entries Book) :
    (compiler.compileBag bag).properties = compiler.properties := by
  induction bag generalizing compiler with
  | nil => rfl
  | cons entry rest inductionHypothesis =>
      exact (inductionHypothesis _).trans (compiler.compile_properties entry.2 entry.1)

theorem compiled_subset_compileBag (compiler : Compiler) (bag : Entries Book) :
    compiler.classes.compiled ⊆ (compiler.compileBag bag).classes.compiled := by
  induction bag generalizing compiler with
  | nil => exact fun _ member => member
  | cons entry rest inductionHypothesis =>
      intro selector member
      apply inductionHypothesis
      rw [compile_compiled]
      exact List.mem_append_left _ member

theorem nodup_compileBag (compiler : Compiler) (bag : Entries Book)
    (distinct : compiler.classes.compiled.Nodup) :
    (compiler.compileBag bag).classes.compiled.Nodup := by
  induction bag generalizing compiler with
  | nil => exact distinct
  | cons entry rest inductionHypothesis =>
      exact inductionHypothesis _ (compiler.nodup_compile entry.2 entry.1 distinct)

theorem mem_compiled_compileBag (compiler : Compiler) (bag : Entries Book) {book : Book}
    {scope : String} (listed : (scope, book) ∈ bag) {candidate : Candidate}
    (member : candidate ∈ book.candidates scope) :
    candidate.selector ∈ (compiler.compileBag bag).classes.compiled := by
  induction bag generalizing compiler with
  | nil => exact absurd listed List.not_mem_nil
  | cons entry rest inductionHypothesis =>
      rcases List.mem_cons.mp listed with same | later
      · apply compiled_subset_compileBag _ rest
        rw [← same]
        exact compiler.mem_compiled_compile book scope member
      · exact inductionHypothesis _ later

end Compiler
end ThemedStyles
