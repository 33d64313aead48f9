import ThemedStyles.Proofs.Text.Casing

namespace ThemedStyles
namespace Text

/-!
# Keys that are read off their names

Camel-normal keys are read off their names.  Here it is shown that no other key is, so
that the three pairs of neighbours are all that can go wrong: a capital behind a capital
has lost its place, and a small letter behind a digit or a dash comes back as a capital.

A dash of the key is what makes this more than a matter of single characters.  Such a
dash is dropped where a small letter follows it, and kept where a dash is put in right
behind it.  So whether a character may follow a dash is seen where the dash is read, and
for every other pair of neighbours where the second one is read.
-/

theorem isAlphanum_of_dashBefore {previous : Option Char} {char : Char}
    (dash : dashBefore previous char = true) : char.isAlphanum = true := by
  rcases Bool.or_eq_true_iff.mp dash with opening | parting
  · rcases Bool.or_eq_true_iff.mp (Bool.and_eq_true_iff.mp opening).1 with capital | digit
    · rw [Char.isAlphanum, isAlpha_eq, capital, Bool.true_or, Bool.true_or]
    · rw [Char.isAlphanum, digit, Bool.or_true]
  · rw [Char.isAlphanum, (Bool.and_eq_true_iff.mp parting).1, Bool.true_or]

theorem ne_dash_of_isAlphanum {char : Char} (joined : char.isAlphanum = true) : char ≠ '-' := by
  rintro rfl
  exact absurd joined (by decide)

theorem isAlphanum_toUpper {char : Char} (joined : char.isAlphanum = true) :
    char.toUpper.isAlphanum = true := by
  rw [Char.isAlphanum, Bool.or_eq_true] at joined
  rcases joined with letter | digit
  · rw [Char.isAlphanum, isAlpha_eq, isUpper_toUpper, letter, Bool.true_or, Bool.true_or]
  · rw [Char.isAlphanum, isDigit_toUpper, digit, Bool.or_true]

/-- A small letter that a dash comes before is not restored. -/
theorem not_isLower_of_restored {char : Char} (restored : char.toLower.toUpper = char) :
    char.isLower = false := by
  cases small : char.isLower with
  | false => rfl
  | true =>
      have capital := toUpper_of_isLower small
      rw [toLower_of_not_isUpper capital.2.2.1] at restored
      rw [restored, capital.2.2.1] at capital
      exact absurd capital.1 Bool.false_ne_true

theorem follows_of_dashBefore {first char : Char} (dash : dashBefore (some first) char = true)
    (large : char.isLower = false) : Follows first char := by
  refine ⟨?_, fun both => absurd (large.symm.trans both.2) Bool.false_ne_true⟩
  rintro ⟨behind, capital⟩
  rw [dashBefore_of_isUpper capital, Option.any_some, behind] at dash
  exact Bool.false_ne_true dash

theorem follows_of_not_dashBefore {first char : Char} (other : first ≠ '-')
    (bare : dashBefore (some first) char = false) (small : char.isUpper = false) :
    Follows first char := by
  refine ⟨fun both => absurd (small.symm.trans both.2) Bool.false_ne_true, ?_⟩
  rintro ⟨behind, lower⟩
  rw [dashBefore_of_isLower lower, Option.any_some, behind.resolve_right other] at bare
  exact Bool.false_ne_true bare.symm

/-- A dash may follow any character. -/
theorem follows_dash (first : Char) : Follows first '-' :=
  ⟨fun both => absurd both.2 (by decide), fun both => absurd both.2 (by decide)⟩

theorem dash_follows {second : Char} (large : second.isLower = false) : Follows '-' second :=
  ⟨fun both => absurd both.1 (by decide), fun both =>
    absurd (large.symm.trans both.2) Bool.false_ne_true⟩

/-- Is what is left of a key, behind a character, read off its part of the name? -/
def IsRestored (previous : Option Char) (key : List Char) : Prop :=
  camelChars (dashedBehind previous key) = key

theorem IsRestored.of_dash {previous : Option Char} {char : Char} {rest : List Char}
    (restored : IsRestored previous (char :: rest)) (dash : dashBefore previous char = true) :
    char.isLower = false ∧ IsRestored (some char) rest := by
  have joined := (isAlphanum_toLower char).trans (isAlphanum_of_dashBefore dash)
  rw [IsRestored, dashedBehind, dash, if_pos rfl, camelChars_dash_cons joined, List.cons.injEq]
    at restored
  exact ⟨not_isLower_of_restored restored.1, restored.2⟩

theorem IsRestored.of_no_dash {previous : Option Char} {char : Char} {rest : List Char}
    (restored : IsRestored previous (char :: rest)) (bare : dashBefore previous char = false)
    (other : char ≠ '-') : char.isUpper = false ∧ IsRestored (some char) rest := by
  have notDash : char.toLower ≠ '-' := by
    intro same
    cases capital : char.isUpper with
    | true => exact absurd (same ▸ (toLower_of_isUpper capital).1) (by decide)
    | false => exact other ((toLower_of_not_isUpper capital).symm.trans same)
  rw [IsRestored, dashedBehind, bare, if_neg Bool.false_ne_true,
    camelChars_cons fun same => absurd same notDash, List.cons.injEq] at restored
  exact ⟨restored.1 ▸ isUpper_toLower char, restored.2⟩

/-- A dash of the key is kept only if no letter or digit is put right behind it. -/
theorem IsRestored.of_literal {previous : Option Char} {rest : List Char}
    (restored : IsRestored previous ('-' :: rest)) :
    (forall next, rest.head? = some next -> next.isLower = false) ∧ IsRestored (some '-') rest := by
  have bareDash : dashBefore previous '-' = false := by simp [dashBefore, opensWord]
  rw [IsRestored, dashedBehind, bareDash, if_neg Bool.false_ne_true,
    show ('-' : Char).toLower = '-' from rfl] at restored
  have kept : (dashedBehind (some '-') rest).head?.any Char.isAlphanum = false := by
    cases shape : dashedBehind (some '-') rest with
    | nil => rfl
    | cons next tail =>
        rw [List.head?_cons, Option.any_some, Bool.eq_false_iff]
        intro joined
        rw [shape, camelChars_dash_cons joined, List.cons.injEq] at restored
        exact ne_dash_of_isAlphanum (isAlphanum_toUpper joined) restored.1
  rw [camelChars_cons fun _ => kept, List.cons.injEq] at restored
  refine ⟨?_, restored.2⟩
  intro next head
  rcases List.head?_eq_some_iff.mp head with ⟨tail, rfl⟩
  rw [Bool.eq_false_iff]
  intro small
  have bare : dashBefore (some '-') next = false := dashBefore_of_isLower small (some '-')
  rw [dashedBehind, bare, if_neg Bool.false_ne_true, List.head?_cons, Option.any_some,
    isAlphanum_toLower, Char.isAlphanum, isAlpha_eq, small, Bool.or_true] at kept
  exact Bool.noConfusion kept

/-- In a key that is restored, all neighbours may follow each other, and its first
character may follow the one before the key, unless that one is a dash.  Its own dashes
are judged where they are read. -/
theorem IsRestored.follows {previous : Option Char} {key : List Char}
    (restored : IsRestored previous key) :
    (forall first char, previous = some first -> first ≠ '-' -> key.head? = some char ->
      Follows first char) ∧ key.IsChain Follows := by
  induction key generalizing previous with
  | nil => exact ⟨fun _ _ _ _ absent => (nomatch absent), .nil⟩
  | cons char rest inductionHypothesis =>
      cases dash : dashBefore previous char with
      | true =>
          rcases restored.of_dash dash with ⟨large, restoredRest⟩
          rcases inductionHypothesis restoredRest with ⟨behind, chain⟩
          have notDash := ne_dash_of_isAlphanum (isAlphanum_of_dashBefore dash)
          refine ⟨?_, List.isChain_cons.mpr ⟨fun next => behind char next rfl notDash, chain⟩⟩
          rintro first _ rfl _ ⟨⟩
          exact follows_of_dashBefore dash large
      | false =>
          by_cases literal : char = '-'
          · subst literal
            rcases restored.of_literal with ⟨large, restoredRest⟩
            rcases inductionHypothesis restoredRest with ⟨_, chain⟩
            refine ⟨?_, List.isChain_cons.mpr ⟨fun next head => dash_follows (large next head),
              chain⟩⟩
            rintro first _ rfl _ ⟨⟩
            exact follows_dash first
          · rcases restored.of_no_dash dash literal with ⟨small, restoredRest⟩
            rcases inductionHypothesis restoredRest with ⟨behind, chain⟩
            refine ⟨?_, List.isChain_cons.mpr ⟨fun next => behind char next rfl literal, chain⟩⟩
            rintro first _ rfl other ⟨⟩
            exact follows_of_not_dashBefore other dash small

/-- A key is read off its name exactly if no capital stands behind a capital in it and
no small letter behind a digit or a dash. -/
theorem camel_dashed_iff (key : String) :
    camel (dashed key) = key ↔ IsCamelNormal key.toList := by
  rw [camel, dashed, String.toList_ofList, ← String.toList_inj, String.toList_ofList]
  constructor
  · intro same
    have restored : IsRestored none key.toList := by
      rw [IsRestored, ← dashedChars_eq, same]
    exact restored.follows.2
  · exact camelChars_dashedChars

end Text
end ThemedStyles
