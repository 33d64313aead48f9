import Mathlib.Data.List.Infix
import ThemedStyles.Proofs.Text.CamelNormal

namespace ThemedStyles
namespace Text

/-!
# Names that come back from their keys

A name is read as a key, and the key is written out again.  One would like the name of
every key to come back, and it need not.  Reading drops a dash before a letter or digit,
and writing puts it in again if that character opens a word of the shorter key.  Behind
a single letter between two dashes it does not, since that letter is a capital now:
`a-b-c` is read as `aBC` and comes back as `a-bc`.  The other way around, a digit within
a run that began with capitals had no dash, and gets one when all but the first of the
capitals have stayed small: `color-ui2` is read as `colorUi2` and comes back as
`color-ui-2`.

Nothing else goes wrong.  A name is steady if it has neither a single letter between two
dashes with a word behind it nor a digit behind two letters, and the name of a key comes
back exactly if it is steady.  This is said of the names of keys only; in other texts a digit may stand
where no key puts it.

Both kinds of places are seen by looking back over what has been read of the name, so
every condition here is one on a character and on what stands before it.
-/

/-! ## Names that are written out again -/

/-- Does each character of a text satisfy a condition together with what stands before
it?  That is given backwards, so that its head is the character right before. -/
def EachBehind (holds : List Char -> Char -> Prop) : (before : List Char) -> List Char -> Prop
  | _, [] => True
  | before, char :: rest => holds before char ∧ EachBehind holds (char :: before) rest

theorem eachBehind_iff {holds : List Char -> Char -> Prop} {before text : List Char} :
    EachBehind holds before text ↔
      forall front char rest, text = front ++ char :: rest ->
        holds (front.reverse ++ before) char := by
  induction text generalizing before with
  | nil => simp [EachBehind]
  | cons char text inductionHypothesis =>
      rw [EachBehind, inductionHypothesis]
      constructor
      · rintro ⟨here, later⟩ front other rest split
        cases front with
        | nil =>
            obtain ⟨rfl, rfl⟩ := List.cons.inj split
            exact here
        | cons first front =>
            obtain ⟨rfl, rfl⟩ := List.cons.inj split
            have behind := later front other rest rfl
            rwa [List.reverse_cons, List.append_assoc]
      · intro each
        refine ⟨each [] char text rfl, fun front other rest split => ?_⟩
        have behind := each (char :: front) other rest (by rw [split, List.cons_append])
        rwa [List.reverse_cons, List.append_assoc] at behind

/-- The last character of the key that is read off a part of a name, given backwards. -/
def lastRead : (before : List Char) -> Option Char
  | [] => none
  | [char] => some char
  | char :: previous :: _ =>
      some (if previous = '-' ∧ char.isAlphanum then char.toUpper else char)

/-- The text ends in a letter right behind a dash, which is read as a capital. -/
def EndsInOpening (before : List Char) : Prop :=
  ∃ letter more, before = letter :: '-' :: more ∧ letter.isAlpha = true

/-- The text ends in two letters, the last of which is read as it is. -/
def EndsInLetters (before : List Char) : Prop :=
  ∃ second first more, before = second :: first :: more ∧ second.isAlpha = true ∧
    first.isAlpha = true

/-- Where a name does not come back: at the beginning of a word behind a single letter
between two dashes, and at a digit behind two letters. -/
def Unsteady (before : List Char) (char : Char) : Prop :=
  (char.isAlphanum = true ∧ ∃ more, before = '-' :: more ∧ EndsInOpening more) ∨
    (char.isDigit = true ∧ EndsInLetters before)

/-- What is known of a character in the name of a key.  A digit has a dash before it that
is not behind a digit, or goes on with a number, or goes on with a run that begins with a
letter behind a dash. -/
structure Arises (before : List Char) (char : Char) : Prop where
  small : char.isUpper = false
  letter : char.isLower = true -> before.head?.any Char.isDigit = false
  digit : char.isDigit = true ->
    (before.head? = some '-' ∧ before.tail.head?.any Char.isDigit = false) ∨
    before.head?.any Char.isDigit = true ∨ EndsInOpening before ∨ EndsInLetters before

section Before

variable {before : List Char} {char : Char}

theorem exists_letter_of_ends (ends : EndsInOpening before ∨ EndsInLetters before) :
    ∃ letter more, before = letter :: more ∧ letter.isAlpha = true := by
  rcases ends with ⟨letter, more, rfl, alphabetic⟩ | ⟨second, first, more, rfl, alphabetic, _⟩
  · exact ⟨letter, '-' :: more, rfl, alphabetic⟩
  · exact ⟨second, first :: more, rfl, alphabetic⟩

theorem head_isDigit_of_ends (ends : EndsInOpening before ∨ EndsInLetters before) :
    before.head?.any Char.isDigit = false := by
  rcases exists_letter_of_ends ends with ⟨letter, more, rfl, alphabetic⟩
  rw [List.head?_cons, Option.any_some, Bool.eq_false_iff]
  intro digit
  exact Bool.false_ne_true ((isAlpha_of_isDigit digit).symm.trans alphabetic)

theorem EndsInOpening.not_endsInLetters (opening : EndsInOpening before) :
    ¬ EndsInLetters before := by
  rcases opening with ⟨letter, more, rfl, _⟩
  rintro ⟨second, first, others, split, _, alphabetic⟩
  obtain ⟨rfl, -⟩ := List.cons.inj (List.cons.inj split).2
  exact absurd alphabetic (by decide)

theorem not_unsteady_dash (before : List Char) : ¬ Unsteady before '-' := by
  rintro (⟨alphanumeric, _⟩ | ⟨digit, _⟩)
  · exact absurd alphanumeric (by decide)
  · exact absurd digit (by decide)

theorem unsteady_iff_of_kept (kept : before.head? = some '-' -> char.isAlphanum = false) :
    Unsteady before char ↔ char.isDigit = true ∧ EndsInLetters before := by
  refine or_iff_right ?_
  rintro ⟨joined, more, rfl, _⟩
  exact Bool.false_ne_true ((kept rfl).symm.trans joined)

theorem unsteady_behind_dash_iff (joined : char.isAlphanum = true) :
    Unsteady ('-' :: before) char ↔ EndsInOpening before := by
  constructor
  · rintro (⟨_, more, split, opening⟩ | ⟨_, second, first, more, split, alphabetic, _⟩)
    · exact (List.cons.inj split).2 ▸ opening
    · exact absurd ((List.cons.inj split).1 ▸ alphabetic) (by decide)
  · exact fun opening => Or.inl ⟨joined, before, rfl, opening⟩

theorem lastRead_isDigit (before : List Char) :
    (lastRead before).any Char.isDigit = before.head?.any Char.isDigit := by
  match before with
  | [] => rfl
  | [_] => rfl
  | char :: previous :: more =>
      rw [lastRead, List.head?_cons, Option.any_some, Option.any_some]
      split
      · exact isDigit_toUpper char
      · rfl

theorem lastRead_isUpper_iff (small : before.head?.any Char.isUpper = false) :
    (lastRead before).any Char.isUpper = true ↔ EndsInOpening before := by
  match before with
  | [] => simp [lastRead, EndsInOpening]
  | [char] => simpa [lastRead, EndsInOpening] using small
  | char :: previous :: more =>
      rw [List.head?_cons, Option.any_some] at small
      rw [lastRead, Option.any_some, EndsInOpening]
      constructor
      · intro capital
        split at capital
        · rename_i dropped
          rw [isUpper_toUpper] at capital
          exact ⟨char, more, by rw [dropped.1], capital⟩
        · exact absurd (small.symm.trans capital) Bool.false_ne_true
      · rintro ⟨letter, others, split, alphabetic⟩
        obtain ⟨rfl, rfl, rfl⟩ : char = letter ∧ previous = '-' ∧ more = others := by
          simpa using split
        rw [if_pos ⟨rfl, by rw [Char.isAlphanum, alphabetic, Bool.true_or]⟩, isUpper_toUpper,
          alphabetic]

/-- Where a character is kept on the way to the key, a dash is put in on the way back
only at a digit behind two letters. -/
theorem dashBefore_lastRead_iff (arises : Arises before char)
    (small : before.head?.any Char.isUpper = false)
    (kept : before.head? = some '-' -> char.isAlphanum = false) :
    dashBefore (lastRead before) char = true ↔ Unsteady before char := by
  rw [unsteady_iff_of_kept kept]
  cases digit : char.isDigit with
  | false =>
      refine iff_of_false ?_ fun both => Bool.false_ne_true both.1
      intro dash
      have letter : char.isAlpha = true := by
        simpa [Char.isAlphanum, digit] using isAlphanum_of_dashBefore dash
      have lower : char.isLower = true := by simpa [isAlpha_eq, arises.small] using letter
      rw [dashBefore_of_isLower lower, lastRead_isDigit, arises.letter lower] at dash
      exact Bool.false_ne_true dash
  | true =>
      rw [dashBefore_of_isDigit digit, lastRead_isDigit, and_iff_right rfl]
      rcases arises.digit digit with ⟨dash, _⟩ | number | opening | letters
      · have joined : char.isAlphanum = true := by rw [Char.isAlphanum, digit, Bool.or_true]
        exact absurd ((kept dash).symm.trans joined) Bool.false_ne_true
      · rw [number, Bool.or_true, Bool.not_true]
        refine iff_of_false Bool.false_ne_true fun letters => ?_
        exact Bool.false_ne_true ((head_isDigit_of_ends (Or.inr letters)).symm.trans number)
      · rw [(lastRead_isUpper_iff small).mpr opening, Bool.true_or, Bool.not_true]
        exact iff_of_false Bool.false_ne_true opening.not_endsInLetters
      · rw [head_isDigit_of_ends (Or.inr letters), Bool.or_false, Bool.not_eq_true',
          ← Bool.not_eq_true, lastRead_isUpper_iff small]
        exact iff_of_true (fun opening => opening.not_endsInLetters letters) letters

/-- Where a dash is dropped on the way to the key, it is put in again unless it is the
second of two dashes around a single letter. -/
theorem dashBefore_toUpper_lastRead_iff (arises : Arises ('-' :: before) char)
    (small : before.head?.any Char.isUpper = false) (joined : char.isAlphanum = true) :
    dashBefore (lastRead before) char.toUpper = true ↔ ¬ Unsteady ('-' :: before) char := by
  rw [unsteady_behind_dash_iff joined, ← lastRead_isUpper_iff small, Bool.not_eq_true]
  cases digit : char.isDigit with
  | false =>
      have letter : char.isAlpha = true := by simpa [Char.isAlphanum, digit] using joined
      rw [dashBefore_of_isUpper ((isUpper_toUpper char).trans letter), Bool.not_eq_true']
  | true =>
      have apart : before.head?.any Char.isDigit = false := by
        rcases arises.digit digit with ⟨_, apart⟩ | number | ends
        · exact apart
        · exact absurd number Bool.false_ne_true
        · rcases exists_letter_of_ends ends with ⟨letter, more, split, alphabetic⟩
          exact absurd ((List.cons.inj split).1 ▸ alphabetic) (by decide)
      rw [dashBefore_of_isDigit ((isDigit_toUpper char).trans digit), lastRead_isDigit, apart,
        Bool.or_false, Bool.not_eq_true']

end Before

theorem toLower_toUpper {char : Char} (small : char.isUpper = false) :
    char.toUpper.toLower = char := by
  cases lower : char.isLower with
  | true => exact (toUpper_of_isLower lower).2.1
  | false => rw [toUpper_of_not_isLower lower, toLower_of_not_isUpper small]

section Steps

variable {previous : Option Char} {char : Char} {rest : List Char}

/-- A character that is kept comes back if no dash is put before it. -/
theorem dashedBehind_camelChars_cons_iff (small : char.isUpper = false)
    (kept : char = '-' -> rest.head?.any Char.isAlphanum = false) :
    dashedBehind previous (camelChars (char :: rest)) = char :: rest ↔
      dashBefore previous char = false ∧ dashedBehind (some char) (camelChars rest) = rest := by
  rw [camelChars_cons kept, dashedBehind, toLower_of_not_isUpper small]
  cases dash : dashBefore previous char with
  | false => simp
  | true =>
      have notDash : '-' ≠ char := (ne_dash_of_isAlphanum (isAlphanum_of_dashBefore dash)).symm
      simp [notDash]

/-- A dash that is dropped comes back if one is put in its place. -/
theorem dashedBehind_camelChars_dash_cons_iff (small : char.isUpper = false)
    (joined : char.isAlphanum = true) :
    dashedBehind previous (camelChars ('-' :: char :: rest)) = '-' :: char :: rest ↔
      dashBefore previous char.toUpper = true ∧
        dashedBehind (some char.toUpper) (camelChars rest) = rest := by
  rw [camelChars_dash_cons joined, dashedBehind, toLower_toUpper small]
  cases dash : dashBefore previous char.toUpper with
  | true => simp
  | false => simp [ne_dash_of_isAlphanum joined]

end Steps

/-- What is left of a name comes back exactly if it is steady from there on.  It must
not begin in the middle of a dash and a letter or digit that are read together.  Since
reading takes up one character or two, the induction is on the length. -/
theorem dashedBehind_camelChars_iff {before name : List Char}
    (arises : EachBehind Arises before name) (small : before.head?.any Char.isUpper = false)
    (whole : before.head? = some '-' -> name.head?.any Char.isAlphanum = false) :
    dashedBehind (lastRead before) (camelChars name) = name ↔
      EachBehind (fun before char => ¬ Unsteady before char) before name := by
  induction size : name.length using Nat.strongRecOn generalizing before name with
  | ind size inductionHypothesis =>
  subst size
  cases name with
  | nil => exact iff_of_true rfl trivial
  | cons char rest =>
      rcases arises with ⟨here, later⟩
      by_cases dropped : char = '-' ∧ rest.head?.any Char.isAlphanum = true
      · rcases dropped with ⟨rfl, joined⟩
        cases rest with
        | nil => exact absurd joined (by simp)
        | cons next rest =>
            rw [List.head?_cons, Option.any_some] at joined
            rcases later with ⟨hereNext, later⟩
            have read : lastRead (next :: '-' :: before) = some next.toUpper := by
              rw [lastRead, if_pos ⟨rfl, joined⟩]
            have shorter : rest.length < ('-' :: next :: rest).length :=
              (Nat.lt_succ_self _).trans (Nat.lt_succ_self _)
            have back := inductionHypothesis rest.length shorter later hereNext.small
              (fun dash => absurd (Option.some.inj dash) (ne_dash_of_isAlphanum joined)) rfl
            rw [read] at back
            rw [dashedBehind_camelChars_dash_cons_iff hereNext.small joined, back, EachBehind,
              EachBehind, dashBefore_toUpper_lastRead_iff hereNext small joined,
              and_iff_right (not_unsteady_dash before)]
      · have kept : char = '-' -> rest.head?.any Char.isAlphanum = false := fun dash =>
          Bool.eq_false_iff.mpr fun joined => dropped ⟨dash, joined⟩
        have read : lastRead (char :: before) = some char := by
          match before, whole with
          | [], _ => rfl
          | previous :: more, whole =>
              rw [lastRead, if_neg]
              rintro ⟨rfl, joined⟩
              exact absurd ((whole rfl).symm.trans joined) Bool.false_ne_true
        have back := inductionHypothesis rest.length (by simp) later here.small
          (fun dash => kept (Option.some.inj dash)) rfl
        rw [read] at back
        rw [dashedBehind_camelChars_cons_iff here.small kept, back, EachBehind,
          ← dashBefore_lastRead_iff here small whole, Bool.not_eq_true]

/-! ## The names of keys -/

/-- A key is being written out: what has become of its last character, and where that
one was a capital, what stands before it. -/
structure WrittenSoFar (previous : Option Char) (before : List Char) : Prop where
  last : before.head? = previous.map Char.toLower
  capital : previous.any Char.isUpper = true -> EndsInOpening before ∨ EndsInLetters before

section Written

variable {previous : Option Char} {before : List Char} {char : Char}

theorem WrittenSoFar.isDigit (written : WrittenSoFar previous before) :
    before.head?.any Char.isDigit = previous.any Char.isDigit := by
  rw [written.last]
  cases previous with
  | none => rfl
  | some first => exact isDigit_toLower first

theorem writtenSoFar_behind_dash (before : List Char) (char : Char) :
    WrittenSoFar (some char) (char.toLower :: '-' :: before) :=
  ⟨rfl, fun capital => Or.inl ⟨char.toLower, before, rfl,
    isAlpha_toLower (Bool.or_eq_true_iff.mpr (Or.inl capital))⟩⟩

/-- A capital that no dash comes before stands behind a capital. -/
theorem WrittenSoFar.joined (written : WrittenSoFar previous before)
    (bare : dashBefore previous char = false) :
    WrittenSoFar (some char) (char.toLower :: before) := by
  refine ⟨rfl, fun capital => Or.inr ?_⟩
  rw [dashBefore_of_isUpper capital, Bool.not_eq_false'] at bare
  rcases exists_letter_of_ends (written.capital bare) with ⟨letter, more, rfl, alphabetic⟩
  exact ⟨char.toLower, letter, more, rfl,
    isAlpha_toLower (Bool.or_eq_true_iff.mpr (Or.inl capital)), alphabetic⟩

theorem arises_dash (before : List Char) : Arises before '-' :=
  ⟨by decide, fun small => absurd small (by decide), fun digit => absurd digit (by decide)⟩

theorem WrittenSoFar.arises_behind_dash (written : WrittenSoFar previous before)
    (dash : dashBefore previous char = true) : Arises ('-' :: before) char.toLower := by
  refine ⟨isUpper_toLower char, fun _ => rfl, fun digit => Or.inl ⟨rfl, ?_⟩⟩
  rw [isDigit_toLower] at digit
  rw [dashBefore_of_isDigit digit, Bool.not_eq_true', Bool.or_eq_false_iff] at dash
  exact written.isDigit.trans dash.2

theorem WrittenSoFar.arises_joined (written : WrittenSoFar previous before)
    (bare : dashBefore previous char = false) : Arises before char.toLower := by
  refine ⟨isUpper_toLower char, fun small => ?_, fun digit => Or.inr ?_⟩
  · rw [isLower_toLower] at small
    have apart := (Bool.or_eq_false_iff.mp bare).2
    rw [small, Bool.true_and] at apart
    exact written.isDigit.trans apart
  · rw [isDigit_toLower] at digit
    rw [dashBefore_of_isDigit digit, Bool.not_eq_false', Bool.or_eq_true] at bare
    rcases bare with capital | number
    · exact Or.inr (written.capital capital)
    · exact Or.inl (written.isDigit.trans number)

/-- Every character in the name of a key arises in one of the known ways. -/
theorem WrittenSoFar.eachBehind_arises {key : List Char} (written : WrittenSoFar previous before) :
    EachBehind Arises before (dashedBehind previous key) := by
  induction key generalizing previous before with
  | nil => trivial
  | cons char rest inductionHypothesis =>
      rw [dashedBehind]
      cases dash : dashBefore previous char with
      | true => exact ⟨arises_dash before, written.arises_behind_dash dash,
          inductionHypothesis (writtenSoFar_behind_dash before char)⟩
      | false => exact ⟨written.arises_joined dash, inductionHypothesis (written.joined dash)⟩

end Written

/-- A name in which no word stands behind a single letter between two dashes, and no digit
behind two letters. -/
structure IsSteady (name : List Char) : Prop where
  words : forall letter next, ['-', letter, '-', next] <:+: name ->
    letter.isAlpha = true -> next.isAlphanum = false
  digits : forall first second char, [first, second, char] <:+: name ->
    first.isAlpha = true -> second.isAlpha = true -> char.isDigit = false

theorem isSteady_iff (name : List Char) :
    IsSteady name ↔ EachBehind (fun before char => ¬ Unsteady before char) [] name := by
  simp only [eachBehind_iff, List.append_nil]
  constructor
  · rintro steady front char rest rfl (⟨joined, _, split, letter, more, rfl, alphabetic⟩ |
      ⟨digit, second, first, more, split, secondLetter, firstLetter⟩)
    · have inside : ['-', letter, '-', char] <:+: front ++ char :: rest :=
        ⟨more.reverse, rest, by simp [List.reverse_eq_iff.mp split]⟩
      have apart := steady.words letter char inside alphabetic
      exact Bool.false_ne_true (apart.symm.trans joined)
    · have inside : [first, second, char] <:+: front ++ char :: rest :=
        ⟨more.reverse, rest, by simp [List.reverse_eq_iff.mp split]⟩
      have other := steady.digits first second char inside firstLetter secondLetter
      exact Bool.false_ne_true (other.symm.trans digit)
  · intro each
    constructor
    · rintro letter next ⟨front, rest, rfl⟩ alphabetic
      rw [Bool.eq_false_iff]
      intro joined
      refine each (front ++ ['-', letter, '-']) next rest (by simp) (Or.inl ⟨joined, ?_⟩)
      exact ⟨letter :: '-' :: front.reverse, by simp, letter, front.reverse, rfl, alphabetic⟩
    · rintro first second char ⟨front, rest, rfl⟩ firstLetter secondLetter
      rw [Bool.eq_false_iff]
      intro digit
      refine each (front ++ [first, second]) char rest (by simp) (Or.inr ⟨digit, ?_⟩)
      exact ⟨second, first, front.reverse, by simp, secondLetter, firstLetter⟩

/-- The name of a key comes back from the key that is read off it exactly if it is
steady. -/
theorem dashed_camel_dashed_iff (key : String) :
    dashed (camel (dashed key)) = dashed key ↔ IsSteady (dashed key).toList := by
  have name_eq : (dashed key).toList = dashedBehind none key.toList := by
    rw [dashed, String.toList_ofList, dashedChars_eq]
  have written : WrittenSoFar none [] := ⟨rfl, fun capital => Bool.noConfusion capital⟩
  have arises : EachBehind Arises [] (dashedBehind none key.toList) := written.eachBehind_arises
  have back := dashedBehind_camelChars_iff arises rfl fun dash =>
    absurd dash (Option.some_ne_none _).symm
  rw [isSteady_iff, name_eq, ← back, ← String.toList_inj, name_eq, dashed, camel,
    String.toList_ofList, String.toList_ofList, dashedChars_eq, name_eq]
  rfl

/-- A word behind a single letter between two dashes. -/
example : dashed (camel (dashed "a-b-c")) = "a-bc" := by decide +kernel

/-- A digit behind two capitals has no dash in the name, and one when it comes back. -/
theorem digit_behind_capitals_gets_dash :
    dashed (camel (dashed "colorUI2")) ≠ dashed "colorUI2" := by
  decide +kernel

end Text
end ThemedStyles
