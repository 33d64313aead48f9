import Mathlib.Data.List.Forall2
import ThemedStyles.Proofs.Compilation.Registration
import ThemedStyles.Proofs.Rules.Relocation
import ThemedStyles.Proofs.Selectors.Containment

namespace ThemedStyles

/-!
# Compiling one book under different scopes

A book is compiled for every theme, and each time it should give the same styles
below another class.  A fresh compiler does so if the keys of the book put
suffixes behind their scope.  Whether two selectors are the same decides what is
compiled, which rules are shared and in which order they are written; behind one
scope it decides so for the suffixes, and these do not depend on the scope.

A pattern is what remains of a compiled entry without its scope.  The patterns of
a book fix everything that a compilation does, up to the scope in front of the
selectors and of the headers of blocks.
-/

/-- The key of a compiled entry and its rules, with suffixes for selectors. -/
structure Pattern where
  key : String
  rules : Rules

namespace Pattern

/-- What stands behind the scope in the selector of the entry. -/
def suffix (pattern : Pattern) : String := Key.suffix pattern.key

/-- The blocks of the entry, with suffixes for headers. -/
def blocks (pattern : Pattern) : List (String × String) := pattern.rules.blocks pattern.suffix

/-- A block with its header behind the scope. -/
def blockText (scope : String) (block : String × String) : String :=
  Rules.blockText (scope ++ block.1, block.2)

/-- The stylesheet of compiled entries under a scope.  Without any block there
is none. -/
def sheet (scope : String) (patterns : List Pattern) : List String :=
  let blocks := patterns.flatMap Pattern.blocks
  if blocks = [] then [] else [String.join (blocks.map (blockText scope))]

/-- A candidate that is the entry under this scope. -/
structure Fits (known : PropertySet) (scope : String) (pattern : Pattern)
    (candidate : Candidate) : Prop where
  key : candidate.key = pattern.key
  selector : candidate.selector = scope ++ pattern.suffix
  rules : candidate.rules known = pattern.rules.under scope

section

variable {known : PropertySet} {scope : String}

theorem Fits.css {pattern : Pattern} {candidate : Candidate}
    (fits : pattern.Fits known scope candidate) :
    candidate.css known = String.join (pattern.blocks.map (blockText scope)) := by
  rw [Candidate.css, fits.rules, fits.selector, Rules.css_eq_blocks, Rules.under,
    Rules.blocks_moved (Rules.injective_append scope), List.map_map]
  rfl

theorem map_eq_of_fits {α : Type} {ofCandidate : Candidate -> α} {ofPattern : Pattern -> α}
    (agree : forall {pattern candidate}, pattern.Fits known scope candidate ->
      ofCandidate candidate = ofPattern pattern)
    {patterns : List Pattern} {candidates : List Candidate}
    (fits : List.Forall₂ (Fits known scope) patterns candidates) :
    candidates.map ofCandidate = patterns.map ofPattern := by
  induction fits with
  | nil => rfl
  | cons here _ inductionHypothesis =>
      rw [List.map_cons, List.map_cons, agree here, inductionHypothesis]

theorem join_blocks_eq_empty_iff (blocks : List (String × String)) :
    String.join (blocks.map (blockText scope)) = "" ↔ blocks = [] := by
  cases blocks with
  | nil => exact iff_of_true rfl rfl
  | cons block rest =>
      refine iff_of_false (fun empty => ?_) (List.cons_ne_nil block rest)
      rw [List.map_cons, String.join_cons, String.append_eq_empty_iff] at empty
      have header := empty.1
      rw [blockText, Rules.blockText, String.append_eq_empty_iff, String.append_eq_empty_iff,
        String.append_eq_empty_iff] at header
      exact absurd header.1.1.2 (by decide)

theorem sheet_eq_of_fits {patterns : List Pattern} {candidates : List Candidate}
    (fits : List.Forall₂ (Fits known scope) patterns candidates) :
    ThemedStyles.sheet known candidates = sheet scope patterns := by
  have joined : forall patterns : List Pattern,
      String.join (patterns.map fun pattern => String.join (pattern.blocks.map (blockText scope))) =
        String.join ((patterns.flatMap Pattern.blocks).map (blockText scope)) := by
    intro patterns
    induction patterns with
    | nil => rfl
    | cons pattern rest inductionHypothesis =>
        rw [List.map_cons, String.join_cons, inductionHypothesis, List.flatMap_cons,
          List.map_append, String.join_append]
  have text : String.join (candidates.map (Candidate.css known)) =
      String.join ((patterns.flatMap Pattern.blocks).map (blockText scope)) :=
    (congrArg String.join (map_eq_of_fits Fits.css fits)).trans (joined patterns)
  unfold ThemedStyles.sheet sheet
  dsimp only
  rw [text]
  simp only [join_blocks_eq_empty_iff]

end

end Pattern

/-! ## The patterns of a book -/

theorem Candidate.exists_pattern (known : PropertySet) {key : String} {body : Book}
    (appends : forall inner, inner ∈ key :: Rules.nestingKeys known body ->
      Key.Appends inner.toList) :
    ∃ pattern : Pattern, pattern.key = key ∧ forall scope, Selector.IsClassScope scope.toList ->
      pattern.Fits known scope ⟨key, scope, body⟩ := by
  have keyAppends := appends key List.mem_cons_self
  rcases Rules.exists_flatten known body
    (fun nested inside => appends nested (List.mem_cons_of_mem _ inside))
    (Key.undivided_suffix keyAppends) with ⟨rules, flattened⟩
  refine ⟨⟨key, rules⟩, rfl, fun scope isScope => ?_⟩
  have selector_eq : Key.selector key scope = scope ++ Key.suffix key := by
    have added : Key.selector key (scope ++ "") = scope ++ ("" ++ Key.suffix key) :=
      Key.selector_of_appends isScope (by simp) keyAppends
    rwa [String.append_empty, String.empty_append] at added
  refine ⟨rfl, selector_eq, ?_⟩
  rw [Candidate.rules, Candidate.selector, selector_eq]
  exact flattened scope isScope

/-- Which entries of a book are new, and what they are up to their scope, is the
same under every class scope behind which the same suffixes are marked. -/
theorem Book.exists_patterns (known : PropertySet) (book : Book)
    (appends : forall key, key ∈ book.selectorKeys known -> Key.Appends key.toList)
    (marked : List String) :
    ∃ patterns : List Pattern, forall scope, Selector.IsClassScope scope.toList ->
      List.Forall₂ (Pattern.Fits known scope) patterns
        (newcomers (marked.map (scope ++ ·)) (book.candidates scope)) := by
  induction book generalizing marked with
  | nil => exact ⟨[], fun _ _ => .nil⟩
  | cons entry rest inductionHypothesis =>
      rcases entry with ⟨key, value⟩
      have later := inductionHypothesis fun inner member =>
        appends inner (List.mem_append_right _ member)
      cases value with
      | book body =>
          rcases Candidate.exists_pattern known
            (fun inner member => appends inner (List.mem_append_left _ member)) with
            ⟨pattern, rfl, fits⟩
          have split : forall scope, Book.candidates ((pattern.key, .book body) :: rest) scope =
              ⟨pattern.key, scope, body⟩ :: Book.candidates rest scope := fun _ => rfl
          by_cases present : pattern.suffix ∈ marked
          · rcases later marked with ⟨patterns, fitRest⟩
            refine ⟨patterns, fun scope isScope => ?_⟩
            have marks : (⟨pattern.key, scope, body⟩ : Candidate).selector ∈
                marked.map (scope ++ ·) := by
              rw [(fits scope isScope).selector]
              exact List.mem_map_of_mem present
            rw [split, newcomers_cons_of_mem marks]
            exact fitRest scope isScope
          · rcases later (marked ++ [pattern.suffix]) with ⟨patterns, fitRest⟩
            refine ⟨pattern :: patterns, fun scope isScope => ?_⟩
            have selector_eq := (fits scope isScope).selector
            have marks : (⟨pattern.key, scope, body⟩ : Candidate).selector ∉
                marked.map (scope ++ ·) := by
              rw [selector_eq, List.mem_map_of_injective (Rules.injective_append scope)]
              exact present
            have others := fitRest scope isScope
            rw [List.map_append, List.map_singleton, ← selector_eq] at others
            rw [split, newcomers_cons_of_not_mem marks]
            exact .cons (fits scope isScope) others
      | _ => exact later marked

namespace Compiler

/-- If its keys put suffixes behind their scope, a book has patterns that do not
depend on the scope and fix what a fresh compiler does with it under a class
scope.  The selectors compiled, the rules, and the headers of the blocks in the
stylesheet are those of the patterns, put behind the scope; the order, the
declarations, the lines of the blocks and the classes do not change with it. -/
theorem compile_under_any_class_scope (known : PropertySet) (book : Book)
    (appends : forall key, key ∈ book.selectorKeys known -> Key.Appends key.toList) :
    ∃ patterns : List Pattern, forall scope, Selector.IsClassScope scope.toList ->
      let compiler := new known
      let outcome := compiler.compile book scope
      outcome.2 = patterns.map (fun pattern => scope ++ pattern.suffix) ∧
      (compiler.newcomers book scope).map (Candidate.rules known) =
        patterns.map (fun pattern => pattern.rules.under scope) ∧
      outcome.1.classes.names =
        ((patterns.map Pattern.key).foldl ClassTable.registerKey ClassTable.empty).names ∧
      outcome.1.classes.compiled = outcome.2 ∧
      outcome.1.sheets = Pattern.sheet scope patterns := by
  rcases book.exists_patterns known appends [] with ⟨patterns, fits⟩
  refine ⟨patterns, fun scope isScope => ?_⟩
  have fit : List.Forall₂ (Pattern.Fits known scope) patterns
      ((new known).newcomers book scope) := fits scope isScope
  intro compiler outcome
  refine ⟨?_, Pattern.map_eq_of_fits Pattern.Fits.rules fit, ?_, ?_, ?_⟩
  · exact (compiler.compile_snd book scope).trans
      (Pattern.map_eq_of_fits Pattern.Fits.selector fit)
  · rw [compile_names, Pattern.map_eq_of_fits Pattern.Fits.key fit]
    rfl
  · exact (compile_compiled (new known) book scope).trans (List.nil_append _)
  · rw [compile_sheets]
    exact Pattern.sheet_eq_of_fits fit

/-- A class with a state and a class nested in that, and a raw class, below a
theme and below a panel of another theme. -/
theorem card_below_light_and_dark_panel :
    let book : Book :=
      [("card", .book [("padding", "8px"),
        ("&:hover", .book [("cardTitle", .book [("margin", "0")])])]),
       ("!MuiButton-root", .book [("gap", "4px")])]
    let light := (new .empty).compile book ".light"
    let panel := (new .empty).compile book ".dark .panel"
    (forall key, key ∈ book.selectorKeys .empty -> Key.Appends key.toList) ∧
    light.1.classes.names = panel.1.classes.names ∧
    ∃ patterns : List Pattern,
      light.2 = patterns.map (fun pattern => ".light" ++ pattern.suffix) ∧
      panel.2 = patterns.map (fun pattern => ".dark .panel" ++ pattern.suffix) ∧
      light.1.sheets = Pattern.sheet ".light" patterns ∧
      panel.1.sheets = Pattern.sheet ".dark .panel" patterns := by
  intro book light panel
  have appends : forall key, key ∈ book.selectorKeys .empty -> Key.Appends key.toList := by
    decide +kernel
  rcases compile_under_any_class_scope .empty book appends with ⟨patterns, under⟩
  have first := under ".light" (by decide)
  have second := under ".dark .panel" (by decide)
  exact ⟨appends, first.2.2.1.trans second.2.2.1.symm, patterns, first.1, second.1,
    first.2.2.2.2, second.2.2.2.2⟩

end Compiler
end ThemedStyles
