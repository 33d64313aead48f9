import Mathlib.Data.List.Chain
import ThemedStyles.Text.Casing

namespace ThemedStyles
namespace Text

/-!
# Keys and names, one character at a time

The dash-case form is made in two sweeps over the whole key.  What the sweeps
come to can be said of each character by itself: it is made small, and whether a
dash comes before it depends on it and on the character before it only.  A dash
opens a run of capitals and digits, and it stands between a digit and a letter.

The camel-case form undoes this as long as no dash is lost and none is taken for
one that was put in.  A capital behind a capital has no dash of its own; a small
letter behind a digit or a dash gets one that makes it a capital.  Keys without
these three pairs of neighbours are told apart by their names.
-/

/-! ## Small and capital letters -/

/-- A character with a code in a range, by its place in the range. -/
theorem exists_of_code {char : Char} {least count : Nat} (above : least ≤ char.toNat)
    (below : char.toNat < least + count) :
    ∃ index, index < count ∧ char = Char.ofNat (least + index) := by
  refine ⟨char.toNat - least, by omega, ?_⟩
  rw [Nat.add_sub_cancel' above, Char.ofNat_toNat]

theorem toLower_of_not_isUpper {char : Char} (other : char.isUpper = false) :
    char.toLower = char := by
  unfold Char.toLower
  split
  · rename_i capital
    exact absurd (decide_eq_true capital) (Bool.eq_false_iff.mp other)
  · rfl

/-- A letter is a capital or small. -/
theorem isAlpha_eq (char : Char) : char.isAlpha = (char.isUpper || char.isLower) := rfl

/-- A capital and its small letter. -/
theorem toLower_of_isUpper {char : Char} (capital : char.isUpper = true) :
    char.toLower.isLower = true ∧ char.toLower.isDigit = false ∧
      char.toLower.toUpper = char ∧ char.isDigit = false := by
  have range := of_decide_eq_true capital
  have code : 65 ≤ char.toNat ∧ char.toNat ≤ 90 :=
    ⟨UInt32.le_iff_toNat_le.mp range.1, UInt32.le_iff_toNat_le.mp range.2⟩
  obtain ⟨index, inside, rfl⟩ : ∃ index, index < 26 ∧ char = Char.ofNat (65 + index) :=
    exists_of_code code.1 (by omega)
  clear capital range code
  revert index
  decide

theorem toUpper_of_isDigit {char : Char} (digit : char.isDigit = true) : char.toUpper = char := by
  have code : 48 ≤ char.toNat ∧ char.toNat ≤ 57 := Char.isDigit_iff_toNat.mp digit
  obtain ⟨index, inside, rfl⟩ : ∃ index, index < 10 ∧ char = Char.ofNat (48 + index) :=
    exists_of_code code.1 (by omega)
  clear digit code
  revert index
  decide

theorem isDigit_toLower (char : Char) : char.toLower.isDigit = char.isDigit := by
  cases capital : char.isUpper with
  | true => rw [(toLower_of_isUpper capital).2.1, (toLower_of_isUpper capital).2.2.2]
  | false => rw [toLower_of_not_isUpper capital]

theorem isLower_toLower (char : Char) : char.toLower.isLower = char.isAlpha := by
  cases capital : char.isUpper with
  | true => rw [(toLower_of_isUpper capital).1, isAlpha_eq, capital, Bool.true_or]
  | false => rw [toLower_of_not_isUpper capital, isAlpha_eq, capital, Bool.false_or]

/-- A small letter and its capital. -/
theorem toUpper_of_isLower {char : Char} (small : char.isLower = true) :
    char.toUpper.isUpper = true ∧ char.toUpper.toLower = char ∧ char.isUpper = false ∧
      char.isDigit = false := by
  rcases Bool.and_eq_true_iff.mp small with ⟨above, below⟩
  have code : 97 ≤ char.toNat ∧ char.toNat ≤ 122 :=
    ⟨UInt32.le_iff_toNat_le.mp (of_decide_eq_true above),
      UInt32.le_iff_toNat_le.mp (of_decide_eq_true below)⟩
  obtain ⟨index, inside, rfl⟩ : ∃ index, index < 26 ∧ char = Char.ofNat (97 + index) :=
    exists_of_code code.1 (by omega)
  clear small above below code
  revert index
  decide

theorem toUpper_of_not_isLower {char : Char} (other : char.isLower = false) :
    char.toUpper = char := by
  unfold Char.toUpper
  split
  · rename_i small
    have lower : char.isLower = true :=
      Bool.and_eq_true_iff.mpr ⟨decide_eq_true small.1, decide_eq_true small.2⟩
    rw [other] at lower
    cases lower
  · rfl

theorem isDigit_toUpper (char : Char) : char.toUpper.isDigit = char.isDigit := by
  cases small : char.isLower with
  | true =>
      have capital := toUpper_of_isLower small
      rw [(toLower_of_isUpper capital.1).2.2.2, capital.2.2.2]
  | false => rw [toUpper_of_not_isLower small]

theorem isUpper_toUpper (char : Char) : char.toUpper.isUpper = char.isAlpha := by
  cases small : char.isLower with
  | true => rw [(toUpper_of_isLower small).1, isAlpha_eq, small, Bool.or_true]
  | false => rw [toUpper_of_not_isLower small, isAlpha_eq, small, Bool.or_false]

theorem isUpper_toLower (char : Char) : char.toLower.isUpper = false := by
  cases capital : char.isUpper with
  | true => exact (toUpper_of_isLower (toLower_of_isUpper capital).1).2.2.1
  | false => rw [toLower_of_not_isUpper capital, capital]

theorem isAlphanum_toLower (char : Char) : char.toLower.isAlphanum = char.isAlphanum := by
  rw [Char.isAlphanum, Char.isAlphanum, isDigit_toLower, isAlpha_eq, isUpper_toLower,
    isLower_toLower, Bool.false_or]

theorem isAlpha_of_isDigit {char : Char} (digit : char.isDigit = true) : char.isAlpha = false := by
  cases letter : char.isAlpha with
  | false => rfl
  | true =>
      rcases Bool.or_eq_true_iff.mp letter with capital | small
      · exact absurd ((toLower_of_isUpper capital).2.2.2.symm.trans digit) Bool.false_ne_true
      · exact absurd ((toUpper_of_isLower small).2.2.2.symm.trans digit) Bool.false_ne_true

theorem isAlpha_toLower {char : Char} (letter : char.isAlpha = true) :
    char.toLower.isAlpha = true := by
  rw [isAlpha_eq, isLower_toLower, letter, Bool.or_true]

theorem toLower_of_not_opensWord {char : Char} (closed : opensWord char = false) :
    char.toLower = char :=
  toLower_of_not_isUpper (Bool.or_eq_false_iff.mp closed).1

/-! ## One character at a time -/

/-- Does a dash come before a character, behind the previous one if there is any? -/
def dashBefore (previous : Option Char) (char : Char) : Bool :=
  (opensWord char && !previous.any opensWord) || (char.isAlpha && previous.any Char.isDigit)

/-- A dash comes before a capital, unless it goes on with a run of capitals. -/
theorem dashBefore_of_isUpper {char : Char} (capital : char.isUpper = true)
    (previous : Option Char) : dashBefore previous char = !previous.any Char.isUpper := by
  rw [dashBefore, opensWord, isAlpha_eq, capital, Bool.true_or, Bool.true_or, Bool.true_and,
    Bool.true_and]
  cases previous with
  | none => rfl
  | some first =>
      rw [Option.any_some, Option.any_some, Option.any_some, opensWord]
      cases upper : first.isUpper with
      | true => rw [(toLower_of_isUpper upper).2.2.2]; rfl
      | false => cases first.isDigit <;> rfl

theorem dashBefore_of_isDigit {char : Char} (digit : char.isDigit = true)
    (previous : Option Char) :
    dashBefore previous char = !(previous.any Char.isUpper || previous.any Char.isDigit) := by
  rw [dashBefore, opensWord, isAlpha_of_isDigit digit, digit, Bool.or_true, Bool.true_and,
    Bool.false_and, Bool.or_false]
  cases previous <;> rfl

theorem dashBefore_of_isLower {char : Char} (small : char.isLower = true)
    (previous : Option Char) : dashBefore previous char = previous.any Char.isDigit := by
  rw [dashBefore, opensWord, isAlpha_eq, small, (toUpper_of_isLower small).2.2.1,
    (toUpper_of_isLower small).2.2.2, Bool.or_false, Bool.false_and, Bool.false_or, Bool.or_true,
    Bool.true_and]

/-- The dash-case form of what follows a character. -/
def dashedBehind : (previous : Option Char) -> List Char -> List Char
  | _, [] => []
  | previous, char :: rest =>
      if dashBefore previous char then '-' :: char.toLower :: dashedBehind (some char) rest
      else char.toLower :: dashedBehind (some char) rest

/-- The second sweep passes over a dash. -/
theorem partDigits_dash_cons (rest : List Char) :
    partDigits ('-' :: rest) = '-' :: partDigits rest := by
  rw [partDigits, show ('-' : Char).isDigit = false from rfl, Bool.false_and]
  rfl

/-- The second sweep puts no dash where there is one. -/
theorem partDigits_cons_dash (char : Char) (rest : List Char) :
    partDigits (char :: '-' :: rest) = char :: partDigits ('-' :: rest) := by
  rw [partDigits, List.head?_cons, Option.any_some, show ('-' : Char).isLower = false from rfl,
    Bool.and_false]
  rfl

/-- The second sweep meets the small form of a character that the first sweep has
left behind, and goes on with what the first sweep makes of the rest. -/
theorem partDigits_openRuns (char : Char) (rest : List Char) :
    partDigits (char.toLower :: openRuns (opensWord char) rest) =
      char.toLower :: dashedBehind (some char) rest := by
  induction rest generalizing char with
  | nil => simp [openRuns, partDigits, dashedBehind]
  | cons next rest inductionHypothesis =>
      have later := inductionHypothesis next
      have no_dash_between :
          partDigits (char.toLower :: next.toLower :: openRuns (opensWord next) rest) =
          if next.isAlpha && char.isDigit
            then char.toLower :: '-' :: next.toLower :: dashedBehind (some next) rest
            else char.toLower :: next.toLower :: dashedBehind (some next) rest := by
        rw [partDigits, later, List.head?_cons, Option.any_some, isDigit_toLower,
          isLower_toLower, Bool.and_comm]
      rw [openRuns, dashedBehind, dashBefore, Option.any_some, Option.any_some]
      cases opens : opensWord next with
      | false =>
          rw [opens, toLower_of_not_opensWord opens] at no_dash_between
          rw [toLower_of_not_opensWord opens]
          simp only [Bool.false_eq_true, if_false, Bool.false_and, Bool.false_or]
          rw [no_dash_between]
          split <;> rfl
      | true =>
          rw [opens] at no_dash_between later
          cases inside : opensWord char with
          | true =>
              simp only [if_true, Bool.not_true, Bool.and_false, Bool.false_or]
              rw [no_dash_between]
              split <;> rfl
          | false =>
              simp only [if_true, Bool.false_eq_true, if_false, Bool.not_false, Bool.and_true,
                Bool.true_or]
              rw [partDigits_cons_dash, partDigits_dash_cons, later]

/-- Both sweeps together make every character small and put a dash before some. -/
theorem dashedChars_eq (key : List Char) : dashedChars key = dashedBehind none key := by
  cases key with
  | nil => rfl
  | cons char rest =>
      have behind := partDigits_openRuns char rest
      rw [dashedChars, openRuns, dashedBehind, dashBefore]
      cases opens : opensWord char with
      | true =>
          rw [opens] at behind
          simp only [Bool.false_eq_true, if_true, if_false, Option.any_none, Bool.not_false,
            Bool.and_true, Bool.true_or]
          rw [partDigits_dash_cons, behind]
      | false =>
          rw [opens] at behind
          rw [toLower_of_not_opensWord opens] at behind ⊢
          simpa using behind

/-- The character before a position, if there is one. -/
def predecessor? (key : List Char) : (position : Nat) -> Option Char
  | 0 => none
  | position + 1 => key[position]?

theorem predecessor?_append_cons (front : List Char) (char : Char) (rest : List Char) :
    predecessor? (front ++ char :: rest) (front.length + 1) = some char := by
  rw [predecessor?, List.getElem?_append_right (Nat.le_refl _), Nat.sub_self,
    List.getElem?_cons_zero]

/-- What is left of a key, behind a front of it, by the positions in the whole key. -/
theorem dashedBehind_eq_flatMap (front rest : List Char) :
    dashedBehind (predecessor? (front ++ rest) front.length) rest =
      (rest.zipIdx front.length).flatMap fun (char, position) =>
        if dashBefore (predecessor? (front ++ rest) position) char then ['-', char.toLower]
        else [char.toLower] := by
  induction rest generalizing front with
  | nil => rfl
  | cons char rest inductionHypothesis =>
      have later := inductionHypothesis (front ++ [char])
      rw [List.append_assoc, List.singleton_append, List.length_append, List.length_singleton,
        predecessor?_append_cons] at later
      rw [dashedBehind, List.zipIdx_cons, List.flatMap_cons, ← later]
      dsimp only
      split <;> rfl

/-- The dash-case form, position by position.  Every character is made small, and a
dash comes before it exactly if it is a capital or a digit and the one before it, if
there is any, is neither, or if it is a letter behind a digit.  Nothing else is put in,
left out or changed. -/
theorem dashed_at_every_position (key : String) :
    (dashed key).toList = key.toList.zipIdx.flatMap fun (char, position) =>
      if dashBefore (predecessor? key.toList position) char then ['-', char.toLower]
      else [char.toLower] := by
  have positions := dashedBehind_eq_flatMap [] key.toList
  rw [List.nil_append, List.length_nil, predecessor?] at positions
  rw [dashed, String.toList_ofList, dashedChars_eq, positions]

/-- A digit behind a letter, and a capital behind a digit. -/
example : dashed "sizeMaxVertical7Rem" = "size-max-vertical-7-rem" := by decide +kernel

/-! ## Back to the key -/

/-- May the second character follow the first in a key that can be told from its
name?  A capital must not follow a capital, and a small letter must follow
neither a digit nor a dash. -/
def Follows (first second : Char) : Prop :=
  ¬ (first.isUpper = true ∧ second.isUpper = true) ∧
    ¬ ((first.isDigit = true ∨ first = '-') ∧ second.isLower = true)

instance (first second : Char) : Decidable (Follows first second) :=
  inferInstanceAs (Decidable (¬ (first.isUpper = true ∧ second.isUpper = true) ∧
    ¬ ((first.isDigit = true ∨ first = '-') ∧ second.isLower = true)))

/-- A key in which all neighbours may follow each other. -/
def IsCamelNormal (key : List Char) : Prop := key.IsChain Follows

instance (key : List Char) : Decidable (IsCamelNormal key) :=
  inferInstanceAs (Decidable (key.IsChain Follows))

/-- A dash is dropped before a letter or a digit, which becomes a capital. -/
theorem camelChars_dash_cons {char : Char} (joined : char.isAlphanum = true) (rest : List Char) :
    camelChars ('-' :: char :: rest) = char.toUpper :: camelChars rest := by
  rw [camelChars, if_pos ⟨rfl, joined⟩]

/-- Any other character is kept. -/
theorem camelChars_cons {char : Char} {rest : List Char}
    (kept : char = '-' -> rest.head?.any Char.isAlphanum = false) :
    camelChars (char :: rest) = char :: camelChars rest := by
  cases rest with
  | nil => rfl
  | cons next rest =>
      rw [camelChars, if_neg]
      rintro ⟨dash, joined⟩
      have other := kept dash
      rw [List.head?_cons, Option.any_some, joined] at other
      cases other

/-- A character that a dash comes before, behind a character that it may follow, is a
capital or a digit. -/
theorem opensWord_of_dashBefore {previous : Option Char} {char : Char}
    (follows : forall first, previous = some first -> Follows first char)
    (dash : dashBefore previous char = true) : opensWord char = true := by
  rcases Bool.or_eq_true_iff.mp dash with opening | parting
  · exact (Bool.and_eq_true_iff.mp opening).1
  · rcases Bool.and_eq_true_iff.mp parting with ⟨letter, behind⟩
    rcases (Option.any_eq_true _ _).mp behind with ⟨first, present, digit⟩
    have small : ¬ char.isLower = true := fun small =>
      (follows first present).2 ⟨Or.inl digit, small⟩
    have capital : char.isUpper = true := (Bool.or_eq_true_iff.mp letter).resolve_right small
    rw [opensWord, capital, Bool.true_or]

/-- A character that no dash comes before, behind a character that it may follow, is
small already. -/
theorem toLower_of_not_dashBefore {previous : Option Char} {char : Char}
    (follows : forall first, previous = some first -> Follows first char)
    (joined : dashBefore previous char = false) : char.toLower = char := by
  cases capital : char.isUpper with
  | false => exact toLower_of_not_isUpper capital
  | true =>
      rw [dashBefore_of_isUpper capital, Bool.not_eq_false', Option.any_eq_true] at joined
      rcases joined with ⟨first, present, upper⟩
      exact absurd ⟨upper, capital⟩ (follows first present).1

/-- What is left of a digit or a capital is made a capital again. -/
theorem toUpper_toLower_of_opensWord {char : Char} (opens : opensWord char = true) :
    char.toLower.isAlphanum = true ∧ char.toLower.toUpper = char := by
  cases capital : char.isUpper with
  | true =>
      have small := toLower_of_isUpper capital
      refine ⟨?_, small.2.2.1⟩
      rw [Char.isAlphanum, isAlpha_eq, small.1, Bool.or_true, Bool.true_or]
  | false =>
      have digit : char.isDigit = true := by rwa [opensWord, capital, Bool.false_or] at opens
      rw [toLower_of_not_isUpper capital]
      exact ⟨by rw [Char.isAlphanum, digit, Bool.or_true], toUpper_of_isDigit digit⟩

/-- No letter or digit is put right behind a dash of the key. -/
theorem head?_dashedBehind_dash {key : List Char}
    (follows : forall char, key.head? = some char -> Follows '-' char) :
    (dashedBehind (some '-') key).head?.any Char.isAlphanum = false := by
  cases key with
  | nil => rfl
  | cons char rest =>
      have allowed := follows char rfl
      rw [dashedBehind]
      cases dash : dashBefore (some '-') char with
      | true => rfl
      | false =>
          have same : char.toLower = char :=
            toLower_of_not_dashBefore (fun _ first => Option.some.inj first ▸ allowed) dash
          have small : char.isLower = false :=
            Bool.eq_false_iff.mpr fun small => allowed.2 ⟨Or.inr rfl, small⟩
          have closed : opensWord char = false := by
            simpa [dashBefore, show opensWord '-' = false from rfl] using (Bool.or_eq_false_iff.mp dash).1
          rcases Bool.or_eq_false_iff.mp closed with ⟨capital, digit⟩
          simp [same, Char.isAlphanum, isAlpha_eq, small, capital, digit]

theorem camelChars_dashedBehind {previous : Option Char} {key : List Char}
    (normal : (previous.toList ++ key).IsChain Follows) :
    camelChars (dashedBehind previous key) = key := by
  induction key generalizing previous with
  | nil => rfl
  | cons char rest inductionHypothesis =>
      have chain : (char :: rest).IsChain Follows := normal.right_of_append
      have follows : forall first, previous = some first -> Follows first char := by
        rintro first rfl
        exact (List.isChain_cons_cons.mp normal).1
      have later : camelChars (dashedBehind (some char) rest) = rest := inductionHypothesis chain
      rw [dashedBehind]
      cases dash : dashBefore previous char with
      | true =>
          have restored := toUpper_toLower_of_opensWord (opensWord_of_dashBefore follows dash)
          rw [if_pos rfl, camelChars_dash_cons restored.1, restored.2, later]
      | false =>
          have kept : char = '-' ->
              (dashedBehind (some char) rest).head?.any Char.isAlphanum = false := by
            rintro rfl
            exact head?_dashedBehind_dash (List.isChain_cons.mp chain).1
          rw [if_neg Bool.false_ne_true, toLower_of_not_dashBefore follows dash,
            camelChars_cons kept, later]

/-- A camel-normal key is read off its name. -/
theorem camelChars_dashedChars {key : List Char} (normal : IsCamelNormal key) :
    camelChars (dashedChars key) = key := by
  rw [dashedChars_eq]
  exact camelChars_dashedBehind normal

end Text
end ThemedStyles
