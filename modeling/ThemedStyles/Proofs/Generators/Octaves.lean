import ThemedStyles.Generator.Standard

namespace ThemedStyles

/-!
# Steps at the bounds of octaves

An octave may have any bounds, whatever the size of the scale that it is drawn on.  It
may be empty, its bounds may be the wrong way around, and it may begin past the end of
the scale.  What comes of it is said by three numbers, its two bounds and the size of the
scale: an octave that reads the scale fails if it has a step at all and reaches past the
end.  The first step that is missing is the first one past the end, or the first one of
the octave if that comes later.

Octaves, and the three lists of octaves of a theme, are evaluated one after the other,
and the first failure is the failure of all.
-/

/-- The first item that fails, fails with this error. -/
def FailsFirst {α β : Type} (run : α -> Except Error β) (items : List α) (error : Error) :
    Prop :=
  ∃ before failing after, items = before ++ failing :: after ∧
    (forall item, item ∈ before -> ∃ result, run item = .ok result) ∧ run failing = .error error

section FailsFirst

variable {α β : Type} {run : α -> Except Error β} {error : Error}

theorem not_failsFirst_nil : ¬ FailsFirst run [] error := by
  rintro ⟨before, failing, after, split, _⟩
  exact List.append_ne_nil_of_right_ne_nil before (List.cons_ne_nil failing after) split.symm

theorem failsFirst_cons_iff {item : α} {rest : List α} :
    FailsFirst run (item :: rest) error ↔
      run item = .error error ∨
        (∃ result, run item = .ok result) ∧ FailsFirst run rest error := by
  constructor
  · rintro ⟨before, failing, after, split, succeed, fails⟩
    cases before with
    | nil =>
        cases split
        exact Or.inl fails
    | cons first before =>
        cases split
        refine Or.inr ⟨succeed item List.mem_cons_self, before, failing, after, rfl, ?_, fails⟩
        exact fun other member => succeed other (List.mem_cons_of_mem item member)
  · rintro (fails | ⟨succeeds, before, failing, after, rfl, succeed, fails⟩)
    · exact ⟨[], item, rest, rfl, fun _ member => absurd member List.not_mem_nil, fails⟩
    · refine ⟨item :: before, failing, after, rfl, ?_, fails⟩
      intro other member
      rcases List.mem_cons.mp member with rfl | earlier
      · exact succeeds
      · exact succeed other earlier

end FailsFirst

namespace Octave

variable (octave : Octave) (scale : Scale)

/-! ## One octave -/

/-- The step at an index, from the generator or else from the scale. -/
def stepAt? (index : Nat) : Option (String × String) :=
  match octave.generator with
  | some generator => some (generator.step index)
  | none => scale.table[index]?

theorem stepAt?_eq_none_iff (index : Nat) :
    octave.stepAt? scale index = none ↔
      octave.generator = none ∧ scale.table.length ≤ index := by
  rw [stepAt?]
  cases octave.generator with
  | some generator => simp
  | none => simp

theorem step_eq (index : Nat) :
    octave.step scale index =
      match octave.stepAt? scale index with
      | some entry => .ok entry
      | none => .error (.octaveIndex scale index) := by
  rw [step, stepAt?]
  cases octave.generator <;> rfl

theorem stepsFrom_eq_ok_iff (count index : Nat) (entries : List (String × String)) :
    octave.stepsFrom scale count index = .ok entries ↔
      entries.map some = (List.range' index count).map (octave.stepAt? scale) := by
  induction count generalizing index entries with
  | zero => simp [stepsFrom]
  | succ count inductionHypothesis =>
      rw [stepsFrom, List.range'_succ, List.map_cons, List.map_eq_cons_iff, step_eq]
      cases octave.stepAt? scale index with
      | none =>
          refine iff_of_false (fun fails => nomatch fails) ?_
          rintro ⟨_, _, _, absent, _⟩
          exact nomatch absent
      | some entry =>
          refine Error.map_eq_ok_iff.trans ?_
          constructor
          · rintro ⟨others, later, rfl⟩
            exact ⟨entry, others, rfl, rfl, (inductionHypothesis (index + 1) others).mp later⟩
          · rintro ⟨first, others, rfl, same, listed⟩
            cases same
            exact ⟨others, (inductionHypothesis (index + 1) others).mpr listed, rfl⟩

/-- The first index without a step is the first one past the end of the scale, or the
first one of the octave if that comes later. -/
theorem stepsFrom_eq_error_iff (count index : Nat) (error : Error) :
    octave.stepsFrom scale count index = .error error ↔
      (octave.generator = none ∧ 0 < count ∧ scale.table.length < index + count) ∧
        error = .octaveIndex scale (max index scale.table.length) := by
  induction count generalizing index with
  | zero => simp [stepsFrom]
  | succ count inductionHypothesis =>
      have missing := octave.stepAt?_eq_none_iff scale index
      rw [stepsFrom, step_eq]
      cases found : octave.stepAt? scale index with
      | none =>
          rcases missing.mp found with ⟨reads, past⟩
          have inside : scale.table.length < index + (count + 1) := by omega
          simp [reads, inside, past, eq_comm]
      | some entry =>
          refine Error.map_eq_error_iff.trans ?_
          rw [inductionHypothesis]
          by_cases reads : octave.generator = none
          · have before : index < scale.table.length := by
              apply Nat.lt_of_not_le
              intro past
              rw [missing.mpr ⟨reads, past⟩] at found
              cases found
            have inside : 0 < count ∧ scale.table.length < index + 1 + count ↔
                0 < count + 1 ∧ scale.table.length < index + (count + 1) := by omega
            have same : max (index + 1) scale.table.length = max index scale.table.length := by
              omega
            rw [inside, same]
          · simp [reads]

theorem steps_eq_error_iff (error : Error) :
    octave.steps scale = .error error ↔
      (octave.generator = none ∧ octave.min.getD 0 < octave.length.getD scale.table.length ∧
        scale.table.length < octave.length.getD scale.table.length) ∧
        error = .octaveIndex scale (max (octave.min.getD 0) scale.table.length) := by
  rw [steps, stepsFrom_eq_error_iff]
  have inside : 0 < octave.length.getD scale.table.length - octave.min.getD 0 ∧
      scale.table.length < octave.min.getD 0 +
        (octave.length.getD scale.table.length - octave.min.getD 0) ↔
      octave.min.getD 0 < octave.length.getD scale.table.length ∧
        scale.table.length < octave.length.getD scale.table.length := by omega
  rw [inside]

theorem steps_of_eq_ok {entries : List (String × String)}
    (evaluated : octave.steps scale = .ok entries) :
    entries.length = octave.length.getD scale.table.length - octave.min.getD 0 ∧
      forall offset, offset < octave.length.getD scale.table.length - octave.min.getD 0 ->
        entries[offset]? = octave.stepAt? scale (octave.min.getD 0 + offset) := by
  have listed := (octave.stepsFrom_eq_ok_iff scale _ _ entries).mp evaluated
  refine ⟨by simpa using congrArg List.length listed, fun offset inside => ?_⟩
  have here := congrArg (fun steps => steps[offset]?) listed
  rw [List.getElem?_map, List.getElem?_map, List.getElem?_range' inside] at here
  rcases Option.map_eq_some_iff.mp here with ⟨entry, present, same⟩
  rw [Nat.one_mul] at same
  exact present.trans same

/-! ## Octaves one after the other -/

theorem allSteps_eq_ok_iff (octaves : List Octave) (entries : List (String × String)) :
    allSteps scale octaves = .ok entries ↔
      ∃ parts : List (List (String × String)),
        parts.map Except.ok = octaves.map (fun octave => octave.steps scale) ∧
          entries = parts.flatten := by
  induction octaves generalizing entries with
  | nil => simp [allSteps, eq_comm]
  | cons octave rest inductionHypothesis =>
      rw [allSteps, List.map_cons]
      cases octave.steps scale with
      | error _ => simp [List.map_eq_cons_iff]
      | ok first =>
          refine Error.map_eq_ok_iff.trans ?_
          simp only [inductionHypothesis, List.map_eq_cons_iff]
          constructor
          · rintro ⟨others, ⟨parts, evaluated, rfl⟩, rfl⟩
            exact ⟨first :: parts, ⟨first, parts, rfl, rfl, evaluated⟩, rfl⟩
          · rintro ⟨_, ⟨part, parts, rfl, same, evaluated⟩, rfl⟩
            cases same
            exact ⟨parts.flatten, ⟨parts, evaluated, rfl⟩, rfl⟩

theorem allSteps_eq_error_iff (octaves : List Octave) (error : Error) :
    allSteps scale octaves = .error error ↔
      FailsFirst (fun octave => octave.steps scale) octaves error := by
  induction octaves with
  | nil => simp [allSteps, not_failsFirst_nil]
  | cons octave rest inductionHypothesis =>
      rw [allSteps, failsFirst_cons_iff, ← inductionHypothesis]
      cases octave.steps scale with
      | error _ => simp
      | ok entries =>
          refine Error.map_eq_error_iff.trans ?_
          simp

end Octave

namespace Generator

/-- The octaves of a theme, each list with the scale that it is drawn on, in the order in
which they are evaluated. -/
def octaveLists (theme : Theme) : List (Scale × List Octave) :=
  [(.spacing, theme.spacing), (.fontSize, theme.typography.octaves),
    (.colour, theme.palette.octaves)]

theorem standardBook_eq_error_iff (theme : Theme) (name : String) (error : Error) :
    standardBook theme name = .error error ↔
      FailsFirst (fun list => Octave.allSteps list.1 list.2) (octaveLists theme) error := by
  rw [standardBook, octaveLists]
  simp only [failsFirst_cons_iff, not_failsFirst_nil, and_false, or_false]
  cases Octave.allSteps .spacing theme.spacing with
  | error _ => simp [bind, Except.bind]
  | ok spacing =>
      cases Octave.allSteps .fontSize theme.typography.octaves with
      | error _ => simp [bind, Except.bind]
      | ok sizes =>
          cases Octave.allSteps .colour theme.palette.octaves <;>
            simp [bind, Except.bind, pure, Except.pure]

end Generator

/-- An octave fails exactly if it reads its scale, has a step at all and reaches past the
end of the scale, and then for the first index without a step.  Otherwise it gives the
step of each of its indices in order.  Several octaves give all their steps one after the
other, or fail as the first one that fails, and so do the three lists of octaves of a
theme when its book is made. -/
theorem octaves_exact_at_bounds :
    (forall (octave : Octave) (scale : Scale),
      let size := scale.table.length
      let first := octave.min.getD 0
      let last := octave.length.getD size
      let reachesPast := octave.generator = none ∧ first < last ∧ size < last
      (forall error, octave.steps scale = .error error ↔
        reachesPast ∧ error = .octaveIndex scale (max first size)) ∧
      (¬ reachesPast -> ∃ entries, octave.steps scale = .ok entries ∧
        entries.length = last - first ∧
        forall offset, offset < last - first ->
          entries[offset]? = octave.stepAt? scale (first + offset))) ∧
    (forall scale index, (Error.octaveIndex scale index).message =
      "octave index " ++ toString index ++ " out of range for builtin '" ++ scale.name ++
        "' table of " ++ toString scale.table.length ++ " entries") ∧
    (forall scale octaves,
      (forall entries, Octave.allSteps scale octaves = .ok entries ↔
        ∃ parts : List (List (String × String)),
          parts.map Except.ok = octaves.map (fun octave => octave.steps scale) ∧
            entries = parts.flatten) ∧
      (forall error, Octave.allSteps scale octaves = .error error ↔
        FailsFirst (fun octave => octave.steps scale) octaves error)) ∧
    (forall theme name error, Generator.standard.generate theme name = .error error ↔
      FailsFirst (fun list => Octave.allSteps list.1 list.2) (Generator.octaveLists theme)
        error) := by
  refine ⟨fun octave scale => ⟨octave.steps_eq_error_iff scale, fun within => ?_⟩, fun _ _ => rfl,
    fun scale octaves => ⟨Octave.allSteps_eq_ok_iff scale octaves,
      Octave.allSteps_eq_error_iff scale octaves⟩, Generator.standardBook_eq_error_iff⟩
  cases evaluated : octave.steps scale with
  | error error => exact absurd ((octave.steps_eq_error_iff scale error).mp evaluated).1 within
  | ok entries => exact ⟨entries, rfl, octave.steps_of_eq_ok scale evaluated⟩

end ThemedStyles
