import ThemedStyles.Proofs.Compilation.History

namespace ThemedStyles
namespace Compiler

/-!
# Forgetting what was just compiled

The answer of a compilation lists the marks that it has added, each once and behind
those that were there.  Forgetting the answer therefore takes the marks back to what
they were, in their old order, and nothing else: the stylesheet stays, and so do the
classes.  What a compilation does is determined by the marks, so the same book is
compiled once more, with the same answer and the same stylesheet.

This needs no history, only that no selector is marked twice.  Every run of a
compiler keeps to that, whatever else is put among its stylesheets.
-/

/-- Forgetting names that are all different takes them from the end of a list. -/
theorem filter_not_contains_append {first rest : List String}
    (distinct : (first ++ rest).Nodup) :
    ((first ++ rest).filter fun selector => !rest.contains selector) = first := by
  have apart := List.disjoint_of_nodup_append distinct
  have kept : (first.filter fun selector => !rest.contains selector) = first := by
    rw [List.filter_eq_self]
    intro selector member
    simpa using fun named => apart member named
  have dropped : (rest.filter fun selector => !rest.contains selector) = [] := by simp
  rw [List.filter_append, kept, dropped, List.append_nil]

section

variable (compiler : Compiler) (book : Book) (scope : String)

/-- Forgetting the answer of a compilation brings the marks back, counts all of the answer
and leaves everything else as the compilation has left it. -/
theorem forget_compile (distinct : compiler.classes.compiled.Nodup) :
    let compiled := compiler.compile book scope
    compiled.1.forget compiled.2 =
      ({ compiled.1 with classes := ⟨compiled.1.classes.names, compiler.classes.compiled⟩ },
        compiled.2.length) := by
  intro compiled
  have marks : compiled.1.classes.compiled = compiler.classes.compiled ++ compiled.2 :=
    compiler.compile_compiled book scope
  have distinctMarks : compiled.1.classes.compiled.Nodup :=
    compiler.nodup_compile book scope distinct
  have left : (compiled.1.classes.forget compiled.2).1 =
      ⟨compiled.1.classes.names, compiler.classes.compiled⟩ := by
    rw [ClassTable.forget_fst _ _ distinctMarks, marks]
    rw [marks] at distinctMarks
    rw [filter_not_contains_append distinctMarks]
  have count : (compiled.1.classes.forget compiled.2).2 = compiled.2.length := by
    have total := compiled.1.classes.forget_snd compiled.2
    rw [left, marks, List.length_append, Nat.add_comm] at total
    exact Nat.add_left_cancel total
  exact Prod.ext (congrArg (fun classes => { compiled.1 with classes }) left) count

/-- The answer and the stylesheet of a compilation are determined by the properties and the
marks that it finds. -/
theorem compile_congr {other : Compiler} (properties : other.properties = compiler.properties)
    (marks : other.classes.compiled = compiler.classes.compiled) :
    (other.compile book scope).2 = (compiler.compile book scope).2 ∧
      ∃ added, added.length ≤ 1 ∧
        (compiler.compile book scope).1.sheets = compiler.sheets ++ added ∧
        (other.compile book scope).1.sheets = other.sheets ++ added := by
  have same : other.newcomers book scope = compiler.newcomers book scope :=
    congrArg (ThemedStyles.newcomers · (book.candidates scope)) marks
  refine ⟨?_, sheet compiler.properties (compiler.newcomers book scope), ?_, ?_, ?_⟩
  · rw [compile_snd, compile_snd, same]
  · exact length_sheet_le_one _ _
  · exact compiler.compile_sheets book scope
  · rw [other.compile_sheets, same, properties]

end

/-- At every moment of a run, whatever stylesheets there are, forgetting what a compilation
has answered counts the whole answer and brings the marks back in their order, while the
classes and the stylesheets stay.  The same compilation then answers the same again, and
adds the same stylesheet or none.  Which selectors are forgotten matters, and not in which
order they are named. -/
theorem forget_undoes_compile (known : PropertySet) (calls : List Call) (sheets : List String)
    (book : Book) (scope : String) :
    let compiler := { (Compiler.new known).run calls with sheets }
    let compiled := compiler.compile book scope
    let forgotten := compiled.1.forget compiled.2
    let again := forgotten.1.compile book scope
    (forgotten.2 = compiled.2.length ∧
      forgotten.1.classes.compiled = compiler.classes.compiled ∧
      forgotten.1.classes.names = compiled.1.classes.names ∧
      forgotten.1.sheets = compiled.1.sheets) ∧
    (again.2 = compiled.2 ∧
      ∃ added, added.length ≤ 1 ∧ compiled.1.sheets = compiler.sheets ++ added ∧
        again.1.sheets = forgotten.1.sheets ++ added) ∧
    (forall selectors others, selectors.Perm others ->
      compiler.forget selectors = compiler.forget others) := by
  intro compiler compiled forgotten again
  have distinct : compiler.classes.compiled.Nodup := by
    have records := (Records.new known).run calls
    change ((Compiler.new known).run calls).classes.compiled.Nodup
    exact records ▸ Event.nodup_marksAfter _
  have undone : forgotten =
      ({ compiled.1 with classes := ⟨compiled.1.classes.names, compiler.classes.compiled⟩ },
        compiled.2.length) :=
    compiler.forget_compile book scope distinct
  have marks : forgotten.1.classes.compiled = compiler.classes.compiled := by rw [undone]
  have properties : forgotten.1.properties = compiler.properties := by
    rw [undone]
    exact compiler.compile_properties book scope
  refine ⟨⟨?_, marks, ?_, ?_⟩, ?_, ?_⟩
  · rw [undone]
  · rw [undone]
  · rw [undone]
  · exact compiler.compile_congr book scope properties marks
  · intro selectors others reordered
    have same := compiler.classes.forget_perm reordered
    rw [Compiler.forget, Compiler.forget, same]

/-- Of two keys with one selector one is compiled, forgotten and compiled again; what was
compiled under another scope may be forgotten in either order. -/
theorem forgotten_pad_is_compiled_again :
    let book : Book := [("pad-small", .book [("margin", "4px")]),
      ("padSmall", .book [("padding", "8px")]), ("gap", .book [])]
    let compiler := { (Compiler.new .standard).run [.compile book ".dark"] with sheets := ["a"] }
    let compiled := compiler.compile book ".light"
    let forgotten := compiled.1.forget compiled.2
    compiled.2 = [".light .pad-small", ".light .gap"] ∧ forgotten.2 = 2 ∧
      (forgotten.1.compile book ".light").2 = [".light .pad-small", ".light .gap"] ∧
      compiler.forget [".dark .gap", ".dark .pad-small"] =
        compiler.forget [".dark .pad-small", ".dark .gap"] := by
  intro book compiler compiled forgotten
  have undone := forget_undoes_compile .standard [.compile book ".dark"] ["a"] book ".light"
  have answer : compiled.2 = [".light .pad-small", ".light .gap"] := by
    have records := (Records.new .standard).run [.compile book ".dark"]
    have fresh : compiler.newcomers book ".light" = freshAfter _ (book.candidates ".light") :=
      records.newcomers_eq book ".light"
    rw [compile_snd, fresh]
    decide +kernel
  refine ⟨answer, ?_, ?_, ?_⟩
  · exact undone.1.1.trans (congrArg List.length answer)
  · exact undone.2.1.1.trans answer
  · exact undone.2.2 _ _ (List.Perm.swap _ _ [])

end Compiler
end ThemedStyles
