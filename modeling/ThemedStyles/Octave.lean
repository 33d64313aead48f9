import ThemedStyles.Error
import ThemedStyles.Text.Quoted

namespace ThemedStyles

/-!
# Octaves

An octave is a bounded run of steps, each a label and a value.  It runs from
`min` up to but not including `length`; a missing bound is that of the whole
scale.  An octave with a generator computes its steps, any other reads them from
the built-in scale it is drawn on, and fails where it reaches past its end.

Functions cannot be compared, so a generator carries a tag.  Two octaves have
the same generator when the tags agree, as they do in copies of one octave.
-/

/-- A computation of steps, known by its tag. -/
structure StepGenerator where
  tag : Nat
  step : Nat -> String × String

/-- A bounded run of labelled steps. -/
structure Octave where
  generator : Option StepGenerator
  min : Option Nat
  length : Option Nat

namespace Octave

/-- The whole built-in scale. -/
def builtin : Octave := ⟨none, none, none⟩

/-- The step at an index. -/
def step (octave : Octave) (scale : Scale) (index : Nat) : Except Error (String × String) :=
  match octave.generator with
  | some generator => .ok (generator.step index)
  | none =>
      match scale.table[index]? with
      | some entry => .ok entry
      | none => .error (.octaveIndex scale index)

/-- `count` steps from an index on, or the first error. -/
def stepsFrom (octave : Octave) (scale : Scale) : (count index : Nat) ->
    Except Error (List (String × String))
  | 0, _ => .ok []
  | count + 1, index =>
      match octave.step scale index with
      | .ok entry => (octave.stepsFrom scale count (index + 1)).map (entry :: ·)
      | .error error => .error error

/-- All steps of an octave, or the first error. -/
def steps (octave : Octave) (scale : Scale) : Except Error (List (String × String)) :=
  let first := octave.min.getD 0
  octave.stepsFrom scale (octave.length.getD scale.table.length - first) first

/-- The steps of octaves one after the other, or the error of the first octave
that fails. -/
def allSteps (scale : Scale) : List Octave -> Except Error (List (String × String))
  | [] => .ok []
  | octave :: rest =>
      match octave.steps scale with
      | .ok entries => (allSteps scale rest).map (entries ++ ·)
      | .error error => .error error

/-- Does the octave compute its steps? -/
def hasGenerator (octave : Octave) : Bool := octave.generator.isSome

/-- Equality: the same bounds and the same generator. -/
def same (first second : Octave) : Bool :=
  first.generator.map StepGenerator.tag == second.generator.map StepGenerator.tag &&
    first.min == second.min && first.length == second.length

/-- The octave with the generator of an older one, if it has none of its own
and the bounds are the same. -/
def adopting (octave older : Octave) : Octave :=
  if octave.generator.isNone && octave.min == older.min && octave.length == older.length then
    { octave with generator := older.generator }
  else octave

/-- Octaves that adopt from the older ones at the same positions. -/
def adoptingAll : (octaves olders : List Octave) -> List Octave
  | octave :: octaves, older :: olders => octave.adopting older :: adoptingAll octaves olders
  | octaves, [] => octaves
  | [], _ :: _ => []

/-- A description of an octave, which shows only whether it has a generator. -/
def described (octave : Octave) : String :=
  Text.described "Octave"
    [("func", Text.optional (octave.generator.map fun _ => Text.quoted "<fn>")),
     ("min", Text.optional (octave.min.map toString)),
     ("length", Text.optional (octave.length.map toString))]

end Octave
end ThemedStyles
