import ThemedStyles.Proofs.Compilation.Growth
import ThemedStyles.Proofs.Sessions.Calls

namespace ThemedStyles
namespace Session

/-!
# Classes of a session

Whatever is called on a session, its compiler only ever sees books to compile
and selectors to forget.  So everything that holds of all runs of a compiler
holds of the compiler of a session, and in particular that a phrase which could
be cast once is cast to the same text ever after, also when themes have been
invalidated in between.
-/

/-- The calls on the compiler that a call on the session comes to. -/
theorem exists_compiler_calls (session : Session) (call : Call) :
    ∃ calls, (session.perform call).compiler = session.compiler.run calls := by
  cases session.perform_effect call with
  | kept _ compiler _ => exact ⟨[], compiler⟩
  | direct bag _ _ compiler _ => exact ⟨[.compileBag bag], compiler⟩
  | applied name _ book _ _ compiler _ => exact ⟨[.compile book (themeScope name)], compiler⟩
  | invalidated name _ compiler _ =>
      exact ⟨[.forget (session.ledger.selectors name)], compiler⟩
  | forgotten selectors _ compiler _ => exact ⟨[.forget selectors], compiler⟩

theorem exists_compiler_run (session : Session) (calls : List Call) :
    ∃ steps, (session.run calls).compiler = session.compiler.run steps := by
  induction calls generalizing session with
  | nil => exact ⟨[], rfl⟩
  | cons call rest inductionHypothesis =>
      rcases session.exists_compiler_calls call with ⟨first, performed⟩
      rcases inductionHypothesis (session.perform call) with ⟨later, finished⟩
      refine ⟨first ++ later, ?_⟩
      rw [Compiler.run_append, ← performed]
      exact finished

/-- At any moment of any run of calls, on a compiler or on a session around it,
the classes are settled: each key is an identifier with the class of its name,
and the list of classes only grows at its end.  A phrase can be cast exactly if
its words are registered, and is cast to the same text at every later moment. -/
theorem classes_are_settled (known : PropertySet) :
    (forall calls more : List Compiler.Call,
      let compiler := (Compiler.new known).run calls
      compiler.classes.Settles (compiler.run more).classes) ∧
    (forall (registry : Registry) (calls more : List Call),
      let session := (Session.mk (Compiler.new known) registry Ledger.empty).run calls
      session.compiler.classes.Settles (session.run more).compiler.classes) := by
  refine ⟨Compiler.settles_run known, fun registry calls more => ?_⟩
  rcases exists_compiler_run ⟨Compiler.new known, registry, Ledger.empty⟩ calls with
    ⟨steps, earlier⟩
  intro session
  rcases session.exists_compiler_run more with ⟨others, later⟩
  rw [later, show session.compiler = (Compiler.new known).run steps from earlier]
  exact Compiler.settles_run known steps others

end Session
end ThemedStyles
