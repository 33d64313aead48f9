import ThemedStyles.Proofs.Compilation.Registration

namespace ThemedStyles

/-!
# Books that do not meet

Compiling a book can change what a later book compiles in one way only: it marks
selectors.  Two books whose candidates have no selector in common have the same
newcomers in either order.  Then the answers are the same, every selector and
every class is there in the end, and only the order differs in which selectors
are marked, keys are registered and the two stylesheets follow each other.
-/

/-- No candidate of one list has the selector of a candidate of the other. -/
def Apart (first second : List Candidate) : Prop :=
  forall candidate, candidate ∈ first -> forall rival, rival ∈ second ->
    candidate.selector ≠ rival.selector

theorem Apart.symm {first second : List Candidate} (apart : Apart first second) :
    Apart second first :=
  fun rival inside candidate member equal => apart candidate member rival inside equal.symm

namespace Compiler

section

variable (compiler : Compiler) {book other : Book} {scope otherScope : String}

/-- A book has the same newcomers after a book from which it is apart. -/
theorem newcomers_compile_of_apart
    (apart : Apart (book.candidates scope) (other.candidates otherScope)) :
    (compiler.compile other otherScope).1.newcomers book scope =
      compiler.newcomers book scope := by
  apply newcomers_congr
  intro candidate member
  rw [compile_compiled, List.mem_append, mem_compile_snd_iff]
  refine or_iff_left fun added => ?_
  rcases List.mem_map.mp added.2 with ⟨rival, inside, same⟩
  exact apart candidate member rival inside same.symm

theorem compile_snd_of_apart
    (apart : Apart (book.candidates scope) (other.candidates otherScope)) :
    ((compiler.compile other otherScope).1.compile book scope).2 =
      (compiler.compile book scope).2 := by
  rw [compile_snd, compile_snd, newcomers_compile_of_apart compiler apart]

/-- The stylesheet of a book is the same after a book from which it is apart. -/
theorem compile_sheets_of_apart
    (apart : Apart (book.candidates scope) (other.candidates otherScope)) :
    ((compiler.compile other otherScope).1.compile book scope).1.sheets =
      (compiler.sheets ++ sheet compiler.properties (compiler.newcomers other otherScope)) ++
        sheet compiler.properties (compiler.newcomers book scope) := by
  rw [compile_sheets, compile_sheets, compile_properties,
    newcomers_compile_of_apart compiler apart]

/-- Two books that are apart mark the same selectors in either order. -/
theorem mem_compiled_in_any_order
    (apart : Apart (book.candidates scope) (other.candidates otherScope)) (selector : String) :
    selector ∈ ((compiler.compile other otherScope).1.compile book scope).1.classes.compiled ↔
      selector ∈
        ((compiler.compile book scope).1.compile other otherScope).1.classes.compiled := by
  rw [compile_compiled, compile_compiled, compile_compiled, compile_compiled,
    compile_snd_of_apart compiler apart, compile_snd_of_apart compiler apart.symm]
  simp only [List.mem_append]
  exact or_right_comm

/-- Two books that are apart register the same classes in either order, since a key has
one class, whichever of the books registers it. -/
theorem class?_in_any_order
    (apart : Apart (book.candidates scope) (other.candidates otherScope)) (key : String) :
    ((compiler.compile other otherScope).1.compile book scope).1.classes.class? key =
      ((compiler.compile book scope).1.compile other otherScope).1.classes.class? key := by
  rw [compile_class?, compile_class?, compile_class?, compile_class?,
    newcomers_compile_of_apart compiler apart, newcomers_compile_of_apart compiler apart.symm]
  cases compiler.classes.class? key with
  | some name => rfl
  | none =>
      by_cases first : key ∈ (compiler.newcomers book scope).map Candidate.key <;>
        by_cases second : key ∈ (compiler.newcomers other otherScope).map Candidate.key <;>
        simp [first, second]

end

end Compiler
end ThemedStyles
