import ThemedStyles.Proofs.Compilation.Independence
import ThemedStyles.Proofs.Selectors.Suffixes
import ThemedStyles.Proofs.Sessions.Application

namespace ThemedStyles

/-!
# Themes applied in any order

Two themes share one compiler, with one record of what is compiled and one table
of classes.  Still it does not matter which of them is applied first.  The
selectors of a theme begin with the class of the theme and a blank, as long as
its book has identifiers and raw keys only; the name of the theme can be read
off such a selector, so that no selector belongs to both.  The ledger and the
registry keep the themes apart anyway.

Nested keys of a body need no condition, for only the selectors of whole entries
are recorded.
-/

/-- A book in which the keys of bodies are identifiers or raw. -/
def Book.Descends (book : Book) : Prop :=
  forall key body, (key, Value.book body) ∈ book -> Key.Descends key.toList

namespace Session

/-! ## Selectors of different themes -/

theorem toList_themeScope {name : String} (identifier : Key.isIdentifier name.toList = true) :
    (themeScope name).toList = '.' :: name.toList := by
  have nonempty : ¬ name.isEmpty = true := by
    rw [String.isEmpty_iff]
    rintro rfl
    exact absurd identifier (by decide)
  rw [themeScope, if_neg nonempty, String.toList_append]
  rfl

theorem isClassScope_themeScope {name : String}
    (identifier : Key.isIdentifier name.toList = true) :
    Selector.IsClassScope (themeScope name).toList := by
  rw [toList_themeScope identifier]
  refine ⟨rfl, fun member => ?_⟩
  rcases List.mem_cons.mp member with dot | inside
  · exact absurd dot (by decide)
  · exact absurd (Key.inIdentifier_of_mem identifier inside) (by decide)

/-- The name of a theme is read off the selectors that are compiled for it. -/
theorem takeWhile_selector {name : String} (identifier : Key.isIdentifier name.toList = true)
    {book : Book} (descends : book.Descends) {candidate : Candidate}
    (member : candidate ∈ book.candidates (themeScope name)) :
    candidate.selector.toList.takeWhile (· != ' ') = '.' :: name.toList := by
  have unbroken : forall char, char ∈ '.' :: name.toList -> (char != ' ') = true := by
    intro char inside
    rcases List.mem_cons.mp inside with rfl | inside
    · rfl
    · refine bne_iff_ne.mpr fun blank => ?_
      exact absurd (Key.inIdentifier_of_mem identifier (blank ▸ inside)) (by decide)
  rcases List.mem_filterMap.mp member with ⟨⟨key, value⟩, listed, made⟩
  cases value with
  | book body =>
      cases Option.some.inj made
      rcases Key.exists_descent (isClassScope_themeScope identifier)
        (descends key body listed) with ⟨rest, shape⟩
      rw [Candidate.selector, Key.selector, String.toList_ofList, shape,
        toList_themeScope identifier, List.takeWhile_append_of_pos unbroken,
        List.takeWhile_cons_of_neg (by simp), List.append_nil]
  | _ => cases made

theorem apart_of_themes {first second : String} (different : first ≠ second)
    (firstIdentifier : Key.isIdentifier first.toList = true)
    (secondIdentifier : Key.isIdentifier second.toList = true) {firstBook secondBook : Book}
    (firstDescends : firstBook.Descends) (secondDescends : secondBook.Descends) :
    Apart (firstBook.candidates (themeScope first))
      (secondBook.candidates (themeScope second)) := by
  intro candidate member rival inside same
  have firstName := takeWhile_selector firstIdentifier firstDescends member
  have secondName := takeWhile_selector secondIdentifier secondDescends inside
  rw [same, secondName, List.cons.injEq] at firstName
  exact different (String.toList_inj.mp firstName.2.symm)

/-! ## What an application comes to -/

/-- The error of an application, and the book that it compiles and notes. -/
def application (session : Session) (name : String) (generator : Generator) :
    Option Error × Option Book :=
  if session.ledger.isApplied name generator.id then (none, none)
  else
    match generator.generate (session.registry.theme name) name with
    | .error error => (some error, none)
    | .ok book => (none, some book)

/-- Compile a book for a theme and note it. -/
def note (session : Session) (name id : String) : Option Book -> Session
  | none => session
  | some book =>
      { session with
        compiler := (session.compiler.compile book (themeScope name)).1
        ledger := session.ledger.mark name id
          (session.compiler.compile book (themeScope name)).2 }

section Application

variable (session : Session) (name id : String) (generator : Generator) (made : Option Book)

theorem applyTheme_eq_note : session.applyTheme name generator =
    (session.note name generator.id (session.application name generator).2,
      (session.application name generator).1) := by
  unfold application
  cases applied : session.ledger.isApplied name generator.id with
  | true => exact applyTheme_of_isApplied session name generator applied
  | false =>
      cases outcome : generator.generate (session.registry.theme name) name with
      | error error => exact applyTheme_of_error session name generator applied outcome
      | ok book => exact applyTheme_of_ok session name generator applied outcome

theorem generate_of_application {book : Book}
    (makes : (session.application name generator).2 = some book) :
    generator.generate (session.registry.theme name) name = .ok book := by
  unfold application at makes
  split at makes
  · cases makes
  · split at makes
    · cases makes
    · rename_i outcome
      rw [outcome, Option.some.inj makes]

/-- Without a book there is nothing to compile. -/
theorem note_compiler : (session.note name id made).compiler =
    (session.compiler.compile (made.getD []) (themeScope name)).1 := by
  cases made with
  | some book => rfl
  | none => exact congrArg Prod.fst (session.compiler.compile_eq_self [] (themeScope name) rfl).symm

/-- What an application comes to does not depend on other themes. -/
theorem application_note_of_ne {other : String} (different : name ≠ other) :
    (session.note other id made).application name generator =
      session.application name generator := by
  cases made with
  | none => rfl
  | some book =>
      have same : (session.note other id (some book)).ledger.isApplied name generator.id =
          session.ledger.isApplied name generator.id := by
        rw [note, Ledger.isApplied_mark]
        simp [different]
      unfold application
      rw [same]
      rfl

end Application

/-! ## Two applications -/

section Two

variable (session : Session) {first second : String} (different : first ≠ second)
  (id tag : String) {made others : Option Book}

theorem isApplied_note_comm (name key : String) :
    ((session.note first id made).note second tag others).ledger.isApplied name key =
      ((session.note second tag others).note first id made).ledger.isApplied name key := by
  cases made with
  | none => rfl
  | some book =>
      cases others with
      | none => rfl
      | some other =>
          simp only [note, Ledger.isApplied_mark]
          exact Bool.or_left_comm _ _ _

include different in
theorem listed_note_comm
    (apart : Apart ((made.getD []).candidates (themeScope first))
      ((others.getD []).candidates (themeScope second))) (name key : String) :
    ((session.note first id made).note second tag others).ledger.listed name key =
      ((session.note second tag others).note first id made).ledger.listed name key := by
  cases made with
  | none => rfl
  | some book =>
      cases others with
      | none => rfl
      | some other =>
          rw [Option.getD_some, Option.getD_some] at apart
          simp only [note]
          rw [session.compiler.compile_snd_of_apart apart,
            session.compiler.compile_snd_of_apart (Apart.symm apart)]
          exact session.ledger.listed_mark_comm different id tag _ _ name key

end Two

theorem descends_application (session : Session) (name : String) (generator : Generator)
    (descends : forall book, generator.generate (session.registry.theme name) name = .ok book ->
      book.Descends) : ((session.application name generator).2.getD []).Descends := by
  cases made : (session.application name generator).2 with
  | some book => exact descends book (session.generate_of_application name generator made)
  | none => exact fun _ _ member => absurd member List.not_mem_nil

/-- What the second of two applications comes to is known before the first. -/
theorem applyTheme_applyTheme_eq (session : Session) {first second : String}
    (different : first ≠ second) (one two : Generator) :
    (session.applyTheme first one).1.applyTheme second two =
      ((session.note first one.id (session.application first one).2).note second two.id
        (session.application second two).2, (session.application second two).1) := by
  rw [applyTheme_eq_note session first one, applyTheme_eq_note _ second two,
    application_note_of_ne _ _ _ _ _ (Ne.symm different)]

/-- Two generators may be applied to two themes in either order, if the names of
the themes and the keys of bodies in the books are identifiers, or raw keys in
the books.  Either call has the same answer, and in the end the same pairs are
noted with the same selectors, the same selectors are compiled and the same keys
have classes.  Either theme adds the same stylesheet, if it adds one; only their
order is that of the calls. -/
theorem themes_compile_in_any_order (session : Session) (first second : String)
    (one two : Generator) (different : first ≠ second)
    (firstIdentifier : Key.isIdentifier first.toList = true)
    (secondIdentifier : Key.isIdentifier second.toList = true)
    (oneDescends : forall book, one.generate (session.registry.theme first) first = .ok book ->
      book.Descends)
    (twoDescends : forall book, two.generate (session.registry.theme second) second = .ok book ->
      book.Descends) :
    let afterFirst := session.applyTheme first one
    let afterSecond := session.applyTheme second two
    let forwards := afterFirst.1.applyTheme second two
    let backwards := afterSecond.1.applyTheme first one
    (forwards.2 = afterSecond.2 ∧ backwards.2 = afterFirst.2) ∧
    (forall name id,
      forwards.1.ledger.isApplied name id = backwards.1.ledger.isApplied name id ∧
      forwards.1.ledger.listed name id = backwards.1.ledger.listed name id) ∧
    (forall selector, selector ∈ forwards.1.compiled ↔ selector ∈ backwards.1.compiled) ∧
    (forall key, forwards.1.compiler.classes.class? key =
      backwards.1.compiler.classes.class? key) ∧
    ∃ firstSheet secondSheet : List String, firstSheet.length ≤ 1 ∧ secondSheet.length ≤ 1 ∧
      afterFirst.1.compiler.sheets = session.compiler.sheets ++ firstSheet ∧
      afterSecond.1.compiler.sheets = session.compiler.sheets ++ secondSheet ∧
      forwards.1.compiler.sheets = session.compiler.sheets ++ firstSheet ++ secondSheet ∧
      backwards.1.compiler.sheets = session.compiler.sheets ++ secondSheet ++ firstSheet := by
  intro afterFirst afterSecond forwards backwards
  let made := (session.application first one).2
  let others := (session.application second two).2
  have apart : Apart ((made.getD []).candidates (themeScope first))
      ((others.getD []).candidates (themeScope second)) :=
    apart_of_themes different firstIdentifier secondIdentifier
      (session.descends_application first one oneDescends)
      (session.descends_application second two twoDescends)
  have first_eq : afterFirst = (session.note first one.id made,
      (session.application first one).1) := session.applyTheme_eq_note first one
  have second_eq : afterSecond = (session.note second two.id others,
      (session.application second two).1) := session.applyTheme_eq_note second two
  have forwards_eq : forwards = ((session.note first one.id made).note second two.id others,
      (session.application second two).1) :=
    session.applyTheme_applyTheme_eq different one two
  have backwards_eq : backwards = ((session.note second two.id others).note first one.id made,
      (session.application first one).1) :=
    session.applyTheme_applyTheme_eq (Ne.symm different) two one
  rw [first_eq, second_eq, forwards_eq, backwards_eq]
  refine ⟨⟨rfl, rfl⟩, fun name id => ⟨?_, ?_⟩, fun selector => ?_, fun key => ?_, ?_⟩
  · exact isApplied_note_comm session one.id two.id name id
  · exact listed_note_comm session different one.id two.id apart name id
  · simp only [compiled, note_compiler]
    exact (session.compiler.mem_compiled_in_any_order apart selector).symm
  · simp only [note_compiler]
    exact (session.compiler.class?_in_any_order apart key).symm
  · let known := session.compiler.properties
    refine ⟨sheet known (session.compiler.newcomers (made.getD []) (themeScope first)),
      sheet known (session.compiler.newcomers (others.getD []) (themeScope second)),
      length_sheet_le_one _ _, length_sheet_le_one _ _, ?_⟩
    simp only [note_compiler]
    exact ⟨session.compiler.compile_sheets _ _, session.compiler.compile_sheets _ _,
      session.compiler.compile_sheets_of_apart apart.symm,
      session.compiler.compile_sheets_of_apart apart⟩

/-- Two themes with generators that make the same book, of a class and a list of
raw classes, in a session that has applied one of them before to another theme. -/
theorem light_and_dark_in_any_order :
    let cards : Generator := .ofFunction "cards" fun _ _ =>
      [("card", .book [("gap", "8px")]), ("!MuiButton, MuiInput", .book [("gap", "4px")])]
    let session := (new.applyTheme "plain" cards).1
    "light" ≠ "dark" ∧
    forall selector,
      selector ∈ ((session.applyTheme "light" cards).1.applyTheme "dark" cards).1.compiled ↔
        selector ∈ ((session.applyTheme "dark" cards).1.applyTheme "light" cards).1.compiled := by
  intro cards session
  have different : "light" ≠ "dark" := by decide
  have descends : forall theme name book, cards.generate theme name = .ok book ->
      book.Descends := by
    intro theme name book made key body member
    cases Except.ok.inj made
    simp only [List.mem_cons, Prod.mk.injEq, List.not_mem_nil, or_false] at member
    rcases member with ⟨rfl, _⟩ | ⟨rfl, _⟩ <;> decide
  exact ⟨different, (themes_compile_in_any_order session "light" "dark" cards cards different
    (by decide) (by decide) (descends _ _) (descends _ _)).2.2.1⟩

end Session
end ThemedStyles
