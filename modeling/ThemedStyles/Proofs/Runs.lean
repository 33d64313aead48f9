import Mathlib.Data.List.Induction

namespace ThemedStyles
namespace Runs

/-!
# Runs as lists of steps

Runs grow at their end.  A statement about what happened before, or since, some
step of a run is a statement about a split of its list, and is proved by looking
at the last step.

What the steps of a run give out makes a log.  A log that tells of nothing but the
changes of one value, each at the step that brings it about, is known from the run
alone: it lists the values that the steps bring, where they differ from the ones
before.
-/

universe u v w

/-- Where a run with a known last step is split at a step, that step is the last
one or an earlier one. -/
theorem split_append_singleton {α : Type u} {past before after : List α} {last middle : α}
    (split : past ++ [last] = before ++ middle :: after) :
    (past = before ∧ last = middle ∧ after = []) ∨
      ∃ rest, past = before ++ middle :: rest ∧ after = rest ++ [last] := by
  rcases List.eq_nil_or_concat after with empty | ⟨rest, final, equal⟩
  · subst empty
    have ends := List.append_inj' split rfl
    exact Or.inl ⟨ends.1, List.singleton_inj.mp ends.2, rfl⟩
  · rw [List.concat_eq_append] at equal
    subst equal
    have regrouped := split.trans (List.append_assoc before (middle :: rest) [final]).symm
    have ends := List.append_inj' regrouped rfl
    exact Or.inr ⟨rest, ends.1, by rw [List.singleton_inj.mp ends.2]⟩

/-! ## Changes of a value -/

/-- The values that differ from the one before them.  What is before the first value
is `last`. -/
def changes {α : Type u} [DecidableEq α] (last : Option α) : (values : List α) -> List α
  | [] => []
  | value :: rest =>
      if last = some value then changes last rest else value :: changes (some value) rest

/-- At most one value, and then the rest. -/
theorem changes_toList_append {α : Type u} [DecidableEq α] (last value? : Option α)
    (rest : List α) :
    changes last (value?.toList ++ rest) =
      changes last value?.toList ++ changes (value?.or last) rest := by
  cases value? with
  | none => rfl
  | some value => by_cases same : last = some value <;> simp [changes, same]

/-! ## Logs -/

section Log

variable {σ : Type u} {τ : Type v} {ε : Type w} {perform : σ -> τ -> σ} {emit : σ -> τ -> List ε}

/-- What the steps of a run give out, the first of them first. -/
def log (perform : σ -> τ -> σ) (emit : σ -> τ -> List ε) : σ -> (steps : List τ) -> List ε
  | _, [] => []
  | state, step :: rest => emit state step ++ log perform emit (perform state step) rest

theorem log_append (state : σ) (first rest : List τ) :
    log perform emit state (first ++ rest) =
      log perform emit state first ++ log perform emit (first.foldl perform state) rest := by
  induction first generalizing state with
  | nil => rfl
  | cons step first inductionHypothesis =>
      rw [List.cons_append, log, log, inductionHypothesis, List.append_assoc]
      rfl

/-- The log of a run in which each step tells of the change that it makes to a value, if
it makes one. -/
theorem log_eq_changes {α : Type} [DecidableEq α] (current : σ -> Option α)
    {value? : τ -> Option α} {say : α -> ε} {state : σ} {steps : List τ}
    (follows : forall state step, current (perform state step) = (value? step).or (current state))
    (emits : forall before step after, steps = before ++ step :: after ->
      emit (before.foldl perform state) step =
        (changes (current (before.foldl perform state)) (value? step).toList).map say) :
    log perform emit state steps =
      (changes (current state) (steps.filterMap value?)).map say := by
  induction steps generalizing state with
  | nil => rfl
  | cons step rest inductionHypothesis =>
      have first := emits [] step rest rfl
      have later := @inductionHypothesis (perform state step)
        fun before other after split => emits (step :: before) other after (by rw [split]; rfl)
      have values : (step :: rest).filterMap value? =
          (value? step).toList ++ rest.filterMap value? := by
        cases brought : value? step <;> simp [brought]
      rw [List.foldl_nil] at first
      rw [log, first, later, follows, values, changes_toList_append, List.map_append]

/-- The log of a run whose steps tell nothing. -/
theorem log_eq_nil {state : σ} {steps : List τ}
    (silent : forall before step after, steps = before ++ step :: after ->
      emit (before.foldl perform state) step = []) :
    log perform emit state steps = [] := by
  induction steps generalizing state with
  | nil => rfl
  | cons step rest inductionHypothesis =>
      have later := @inductionHypothesis (perform state step)
        fun before other after split => silent (step :: before) other after (by rw [split]; rfl)
      have first := silent [] step rest rfl
      rw [List.foldl_nil] at first
      rw [log, first, later, List.append_nil]

/-- The messages to one receiver, in their order. -/
def heardBy (receiver : Nat) (posts : List (Nat × ε)) : List ε :=
  (posts.filter fun post => post.1 == receiver).map Prod.snd

theorem heardBy_append (receiver : Nat) (first rest : List (Nat × ε)) :
    heardBy receiver (first ++ rest) = heardBy receiver first ++ heardBy receiver rest := by
  rw [heardBy, List.filter_append, List.map_append]
  rfl

/-- Messages to receivers that are numbered by their places. -/
def numbered (messages : List ε) : List (Nat × ε) := messages.zipIdx.map Prod.swap

theorem heardBy_numbered (receiver : Nat) (messages : List ε) :
    heardBy receiver (numbered messages) = messages[receiver]?.toList := by
  induction messages using List.reverseRecOn with
  | nil => rfl
  | append_singleton messages message inductionHypothesis =>
      have last : numbered (messages ++ [message]) =
          numbered messages ++ [(messages.length, message)] := by
        simp [numbered, List.zipIdx_append]
      rw [last, heardBy_append, inductionHypothesis]
      rcases Nat.lt_trichotomy receiver messages.length with inside | rfl | outside
      · simp [heardBy, List.getElem?_append_left inside, Nat.ne_of_gt inside]
      · simp [heardBy]
      · have beyond : (messages ++ [message])[receiver]? = none := by
          rw [List.getElem?_eq_none_iff, List.length_append]
          exact outside
        rw [beyond, List.getElem?_eq_none (Nat.le_of_lt outside)]
        simp [heardBy, Nat.ne_of_lt outside]

theorem heardBy_log (receiver : Nat) (post : σ -> τ -> List (Nat × ε)) (state : σ)
    (steps : List τ) :
    heardBy receiver (log perform post state steps) =
      log perform (fun state step => heardBy receiver (post state step)) state steps := by
  induction steps generalizing state with
  | nil => rfl
  | cons step rest inductionHypothesis =>
      rw [log, log, ← inductionHypothesis, heardBy_append]

end Log

end Runs
end ThemedStyles
