import ThemedStyles.Proofs.Compilation.Registration
import ThemedStyles.Proofs.Selectors.Collisions

namespace ThemedStyles

/-!
# Books without collisions

An entry whose selector is compiled already is passed over without a word, so a
book loses rules where two of its keys denote one selector.  The keys `padSmall`
and `pad-small` do.  In a book whose keys are camel-normal identifiers this
cannot happen, under no scope that is empty or begins with a dot: a new compiler
compiles every body of the book, in order.
-/

/-- Every body of the book has a key that is a camel-normal identifier. -/
def Book.IsCamelNormal (book : Book) : Prop :=
  forall key body, (key, Value.book body) ∈ book ->
    Key.isIdentifier key.toList = true ∧ Text.IsCamelNormal key.toList

/-- Camel-normal identifiers denote different selectors. -/
theorem nodup_selectors_of_isCamelNormal {book : Book} {scope : String}
    (distinct : (Entries.keys book).Nodup) (dotted : Key.IsDotted scope.toList)
    (normal : book.IsCamelNormal) : ((book.candidates scope).map Candidate.selector).Nodup := by
  have keys : ((book.candidates scope).map Candidate.key).Nodup :=
    distinct.sublist (keys_candidates_sublist book scope)
  rw [List.Nodup, List.pairwise_map] at keys ⊢
  refine keys.imp_of_mem fun {first second} firstMember secondMember different same => ?_
  rcases mem_candidates_iff.mp firstMember with ⟨firstListed, firstScope⟩
  rcases mem_candidates_iff.mp secondMember with ⟨secondListed, secondScope⟩
  rw [Candidate.selector, Candidate.selector, firstScope, secondScope] at same
  rcases normal _ _ firstListed with ⟨firstIdentifier, firstNormal⟩
  rcases normal _ _ secondListed with ⟨secondIdentifier, secondNormal⟩
  exact different (Key.eq_of_selector_eq dotted firstIdentifier secondIdentifier firstNormal
    secondNormal same)

namespace Compiler

/-- A new compiler loses no rule of a book whose keys are camel-normal identifiers.
It answers with one selector for each body, in order and all different; every key
of a body can be cast; and the text is that of the rules of all bodies. -/
theorem camel_book_loses_no_rule (known : PropertySet) (book : Book) (scope : String)
    (distinct : (Entries.keys book).Nodup) (dotted : Key.IsDotted scope.toList)
    (normal : book.IsCamelNormal) :
    let outcome := (Compiler.new known).compile book scope
    let bodies := book.candidates scope
    outcome.2 = bodies.map Candidate.selector ∧ outcome.2.Nodup ∧
    (forall key body, (key, Value.book body) ∈ book ->
      outcome.1.classes.cast key = .ok (Text.dashed key)) ∧
    outcome.1.sheets = sheet known bodies ∧
    outcome.1.text = String.join (bodies.map (Candidate.css known)) := by
  intro outcome bodies
  have different : (bodies.map Candidate.selector).Nodup :=
    nodup_selectors_of_isCamelNormal distinct dotted normal
  have all : (Compiler.new known).newcomers book scope = bodies :=
    newcomers_eq_self (fun _ _ => List.not_mem_nil) different
  have answer : outcome.2 = bodies.map Candidate.selector := by
    rw [← all]
    exact compile_snd _ book scope
  have sheets : outcome.1.sheets = sheet known bodies := by
    have added := (Compiler.new known).compile_sheets book scope
    rw [all] at added
    exact added
  refine ⟨answer, answer ▸ different, ?_, sheets, ?_⟩
  · intro key body listed
    have identifier := (normal key body listed).1
    have present : key ∈ bodies.map Candidate.key :=
      List.mem_map.mpr ⟨⟨key, scope, body⟩, mem_candidates_iff.mpr ⟨listed, rfl⟩, rfl⟩
    have registered : outcome.1.classes.class? key = some (Text.dashed key) := by
      have found := (Compiler.new known).compile_class? book scope key
      rw [all, if_pos present, Key.className?, if_pos identifier] at found
      exact found
    rw [ClassTable.cast_of_words (Key.words_of_isIdentifier identifier), registered]
  · rw [text, sheets, sheet]
    split
    · rename_i empty
      rw [empty]
      rfl
    · simp

/-- A heading and a padding below a theme and an element, with which the key of the
heading begins. -/
theorem padding_and_heading_are_compiled :
    let book : Book :=
      [("padSmall", .book [("padding", "8px")]), ("note", "none"), ("h3", .book [("margin", "0")])]
    let outcome := (Compiler.new .standard).compile book ".light, h"
    (Entries.keys book).Nodup ∧ Key.IsDotted ".light, h".toList ∧ book.IsCamelNormal ∧
      outcome.2 = [".light .pad-small, h .pad-small", ".light .h-3, h3"] ∧
      outcome.1.classes.cast "h3" = .ok (Text.dashed "h3") := by
  intro book outcome
  have distinct : (Entries.keys book).Nodup := by decide
  have dotted : Key.IsDotted ".light, h".toList := by decide
  have normal : book.IsCamelNormal := by
    intro key body member
    simp only [book, List.mem_cons, Prod.mk.injEq, List.not_mem_nil, or_false] at member
    rcases member with ⟨rfl, _⟩ | ⟨_, other⟩ | ⟨rfl, _⟩
    · decide
    · cases other
    · decide
  rcases camel_book_loses_no_rule .standard book ".light, h" distinct dotted normal with
    ⟨answer, _, castable, _⟩
  refine ⟨distinct, dotted, normal, ?_, castable "h3" [("margin", "0")] (by simp [book])⟩
  rw [show outcome.2 = _ from answer]
  decide +kernel

end Compiler
end ThemedStyles
