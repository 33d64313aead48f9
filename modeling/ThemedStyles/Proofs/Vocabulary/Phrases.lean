import ThemedStyles.Proofs.Text.Casing
import ThemedStyles.Proofs.Text.Words
import ThemedStyles.Vocabulary

namespace ThemedStyles

/-!
# Phrases put together

The words of two phrases with a space between them are the words of the one and then the
words of the other, so the raised fragments of the whole are those of the one and then
those of the other, and the first word without a fragment is found in this order.

The key of a phrase has its first character lowered, though, and raising it again must
give back what the fragments began with.  It does so for ASCII characters, which is why
every fragment has to begin with one: the small form of `İ` begins with `i`, and the
capital of that is `I`.  Empty fragments leave nothing behind, so that the first phrase may
have words and still be without a key; then nothing is raised in the second.
-/

namespace Text

/-! ## First characters raised and lowered -/

/-- Is the first character an ASCII one, if there is any? -/
def beginsInAscii (text : List Char) : Bool :=
  text.head?.all fun first => first.toNat < 128

/-- An ASCII character stays one in either case, and its capital is no small letter. -/
theorem ascii_toUpper_toLower {char : Char} (ascii : char.toNat < 128) :
    char.toUpper.toNat < 128 ∧ char.toUpper.isLower = false ∧ char.toLower.toNat < 128 := by
  obtain ⟨index, inside, rfl⟩ : ∃ index, index < 128 ∧ char = Char.ofNat (0 + index) :=
    exists_of_code (Nat.zero_le _) (by omega)
  clear ascii
  revert index
  decide

/-- A text that begins with an ASCII character other than a small letter, or is empty. -/
def IsRaised (text : List Char) : Prop :=
  forall first, text.head? = some first -> first.toNat < 128 ∧ first.isLower = false

theorem isRaised_capitalize {text : List Char} (ascii : beginsInAscii text = true) :
    IsRaised (capitalize text) := by
  intro first head
  cases text with
  | nil => cases head
  | cons char rest =>
      have code : char.toNat < 128 := of_decide_eq_true ascii
      rw [capitalize, upper_of_ascii char code] at head
      have capital := ascii_toUpper_toLower code
      exact Option.some.inj head ▸ ⟨capital.1, capital.2.1⟩

theorem IsRaised.append {front back : List Char} (frontRaised : IsRaised front)
    (backRaised : IsRaised back) : IsRaised (front ++ back) := by
  cases front with
  | nil => exact backRaised
  | cons first rest => exact frontRaised

/-- What begins with a raised character is lowered and raised again. -/
theorem IsRaised.capitalize_decapitalize {text : List Char} (raised : IsRaised text) :
    capitalize (decapitalize text) = text := by
  cases text with
  | nil => rfl
  | cons first rest =>
      have head := raised first rfl
      have back : first.toLower.toUpper = first := by
        cases capital : first.isUpper with
        | true => exact (toLower_of_isUpper capital).2.2.1
        | false => rw [toLower_of_not_isUpper capital, toUpper_of_not_isLower head.2]
      rw [decapitalize, lower_of_ascii first head.1, List.singleton_append, capitalize,
        upper_of_ascii _ (ascii_toUpper_toLower head.1).2.2, back, List.singleton_append]

theorem IsRaised.decapitalize_eq_nil_iff {text : List Char} (raised : IsRaised text) :
    decapitalize text = [] ↔ text = [] := by
  cases text with
  | nil => rfl
  | cons first rest => simp [decapitalize, lower_of_ascii first (raised first rfl).1]

/-- Only the first character of all is lowered, so that of the second text has to be raised
again unless the first text is empty. -/
theorem IsRaised.decapitalize_append {front back : List Char} (frontRaised : IsRaised front)
    (backRaised : IsRaised back) :
    decapitalize (front ++ back) =
      if decapitalize front = [] then decapitalize back
      else decapitalize front ++ capitalize (decapitalize back) := by
  rw [backRaised.capitalize_decapitalize]
  split
  · rename_i empty
    rw [frontRaised.decapitalize_eq_nil_iff.mp empty, List.nil_append]
  · rename_i nonempty
    cases front with
    | nil => exact absurd rfl nonempty
    | cons first rest => exact (List.append_assoc (lower first) rest back).symm

end Text

namespace Vocabulary

variable (vocabulary : Vocabulary)

/-! ## Fragments -/

theorem fragments_append (first second : List String) :
    vocabulary.fragments (first ++ second) =
      (vocabulary.fragments first).bind fun front =>
        (vocabulary.fragments second).map (front ++ ·) := by
  induction first with
  | nil =>
      change vocabulary.fragments second = (vocabulary.fragments second).map fun back => back
      cases vocabulary.fragments second <;> rfl
  | cons word first inductionHypothesis =>
      rw [List.cons_append, fragments, fragments, inductionHypothesis]
      cases vocabulary.get? word with
      | none => rfl
      | some fragment =>
          cases vocabulary.fragments first with
          | error missing => rfl
          | ok front =>
              cases vocabulary.fragments second with
              | error missing => rfl
              | ok back => exact congrArg Except.ok (List.append_assoc _ front back).symm

/-- The error is the first word that is not in the vocabulary. -/
theorem fragments_eq_error_iff (words : List String) (missing : String) :
    vocabulary.fragments words = .error missing ↔
      words.find? (fun word => !vocabulary.has word) = some missing := by
  induction words with
  | nil => simp [fragments]
  | cons word rest inductionHypothesis =>
      rw [fragments, List.find?_cons, Entries.has]
      cases vocabulary.get? word with
      | none => simp
      | some fragment =>
          refine Iff.trans ?_ inductionHypothesis
          cases vocabulary.fragments rest <;> simp [Except.map]

theorem isRaised_of_fragments {vocabulary : Vocabulary}
    (ascii : forall label, label ∈ vocabulary.values -> Text.beginsInAscii label.toList = true)
    {words : List String} {raised : List Char}
    (found : vocabulary.fragments words = .ok raised) : Text.IsRaised raised := by
  induction words generalizing raised with
  | nil =>
      cases found
      exact fun first head => nomatch head
  | cons word rest inductionHypothesis =>
      rw [fragments] at found
      cases label : vocabulary.get? word with
      | none => simp [label] at found
      | some fragment =>
          rw [label] at found
          dsimp only at found
          cases later : vocabulary.fragments rest with
          | error missing => simp [later, Except.map] at found
          | ok back =>
              rw [later] at found
              have present : fragment ∈ vocabulary.values :=
                List.mem_map_of_mem (Entries.mem_of_get?_eq_some label)
              cases found
              exact (Text.isRaised_capitalize (ascii fragment present)).append
                (inductionHypothesis later)

/-! ## Phrases -/

theorem compose_eq_ok_iff (phrase key : String) :
    vocabulary.compose phrase = .ok key ↔
      ∃ raised, vocabulary.fragments (Text.words phrase) = .ok raised ∧
        String.ofList (Text.decapitalize raised) = key := by
  rw [compose]
  cases vocabulary.fragments (Text.words phrase) <;> simp

theorem compose_eq_error_iff (phrase : String) (error : Error) :
    vocabulary.compose phrase = .error error ↔
      ∃ missing, (Text.words phrase).find? (fun word => !vocabulary.has word) = some missing ∧
        error = .unknownLabel missing phrase := by
  simp only [← fragments_eq_error_iff]
  rw [compose]
  cases vocabulary.fragments (Text.words phrase) <;> simp [eq_comm]

/-- A phrase fails at its first word that is not in the vocabulary. -/
theorem compose_fails_first_iff (phrase : String) (error : Error) :
    vocabulary.compose phrase = .error error ↔
      ∃ before missing after, Text.words phrase = before ++ missing :: after ∧
        (forall word, word ∈ before -> word ∈ vocabulary.keys) ∧
        missing ∉ vocabulary.keys ∧ error = .unknownLabel missing phrase := by
  simp only [compose_eq_error_iff, List.find?_eq_some_iff_append, Bool.not_not,
    Bool.not_eq_true', Entries.has_eq_false_iff, Entries.has_iff]
  constructor
  · rintro ⟨missing, ⟨unknown, before, after, split, known⟩, same⟩
    exact ⟨before, missing, after, split, known, unknown, same⟩
  · rintro ⟨before, missing, after, split, known, unknown, same⟩
    exact ⟨missing, ⟨unknown, before, after, split, known⟩, same⟩

theorem exists_compose_eq_error_iff (phrase : String) :
    (∃ error, vocabulary.compose phrase = .error error) ↔
      ∃ word, word ∈ Text.words phrase ∧ word ∉ vocabulary.keys := by
  have unknown : forall word, (!vocabulary.has word) = true ↔ word ∉ vocabulary.keys := by
    simp
  have found : ((Text.words phrase).find? fun word => !vocabulary.has word).isSome = true ↔
      ∃ word, word ∈ Text.words phrase ∧ (!vocabulary.has word) = true := List.find?_isSome
  simp only [compose_eq_error_iff, ← unknown, ← found, Option.isSome_iff_exists]
  constructor
  · rintro ⟨_, missing, first, _⟩
    exact ⟨missing, first⟩
  · rintro ⟨missing, first⟩
    exact ⟨_, missing, first, rfl⟩

/-- The key of two phrases, if each of them has one. -/
theorem compose_append_eq_ok_iff {vocabulary : Vocabulary}
    (ascii : forall label, label ∈ vocabulary.values -> Text.beginsInAscii label.toList = true)
    (first second key : String) :
    vocabulary.compose (first ++ " " ++ second) = .ok key ↔
      ∃ front back, vocabulary.compose first = .ok front ∧ vocabulary.compose second = .ok back ∧
        key = if front = "" then back
          else front ++ String.ofList (Text.capitalize back.toList) := by
  have together : forall {front back : List Char}, Text.IsRaised front -> Text.IsRaised back ->
      String.ofList (Text.decapitalize (front ++ back)) =
        if String.ofList (Text.decapitalize front) = "" then String.ofList (Text.decapitalize back)
        else String.ofList (Text.decapitalize front) ++
          String.ofList (Text.capitalize (String.ofList (Text.decapitalize back)).toList) := by
    intro front back frontRaised backRaised
    have empty : String.ofList (Text.decapitalize front) = "" ↔ Text.decapitalize front = [] := by
      rw [← String.toList_inj, String.toList_ofList]
      rfl
    rw [frontRaised.decapitalize_append backRaised, String.toList_ofList,
      ← String.ofList_append, ← apply_ite String.ofList]
    simp only [empty]
  rw [compose_eq_ok_iff, Text.words_append_space, fragments_append]
  simp only [compose_eq_ok_iff]
  constructor
  · rintro ⟨raised, found, rfl⟩
    cases frontFound : vocabulary.fragments (Text.words first) with
    | error missing => simp [frontFound, Except.bind] at found
    | ok front =>
        cases backFound : vocabulary.fragments (Text.words second) with
        | error missing => simp [frontFound, backFound, Except.bind, Except.map] at found
        | ok back =>
            rw [frontFound, backFound] at found
            cases found
            exact ⟨_, _, ⟨front, rfl, rfl⟩, ⟨back, rfl, rfl⟩,
              together (isRaised_of_fragments ascii frontFound)
                (isRaised_of_fragments ascii backFound)⟩
  · rintro ⟨_, _, ⟨front, frontFound, rfl⟩, ⟨back, backFound, rfl⟩, rfl⟩
    refine ⟨front ++ back, by rw [frontFound, backFound]; rfl, ?_⟩
    exact together (isRaised_of_fragments ascii frontFound) (isRaised_of_fragments ascii backFound)

/-- Where every label is empty or begins with an ASCII character, two phrases with a space
between them fail exactly if a word of either is not in the vocabulary, and the error names
the first such word in reading order.  Otherwise both phrases have a key, and the key of the
whole is the second one if the first one is empty, and else the first one followed by the
second one with its first character raised. -/
theorem phrases_compose {vocabulary : Vocabulary}
    (ascii : forall label, label ∈ vocabulary.values -> Text.beginsInAscii label.toList = true)
    (first second : String) :
    let phrase := first ++ " " ++ second
    ((∃ error, vocabulary.compose phrase = .error error) ↔
        ∃ word, (word ∈ Text.words first ∨ word ∈ Text.words second) ∧
          word ∉ vocabulary.keys) ∧
      (forall error, vocabulary.compose phrase = .error error ↔
        ∃ before missing after,
          Text.words first ++ Text.words second = before ++ missing :: after ∧
          (forall word, word ∈ before -> word ∈ vocabulary.keys) ∧
          missing ∉ vocabulary.keys ∧ error = .unknownLabel missing phrase) ∧
      forall key, vocabulary.compose phrase = .ok key ↔
        ∃ front back, vocabulary.compose first = .ok front ∧
          vocabulary.compose second = .ok back ∧
          key = if front = "" then back
            else front ++ String.ofList (Text.capitalize back.toList) := by
  intro phrase
  refine ⟨?_, ?_, compose_append_eq_ok_iff ascii first second⟩
  · rw [exists_compose_eq_error_iff, Text.words_append_space]
    simp only [List.mem_append]
  · rw [← Text.words_append_space]
    exact vocabulary.compose_fails_first_iff phrase

/-- A first phrase that has words but no key, a second one that begins with an empty label,
and a word missing from each of two phrases. -/
theorem phrases_with_empty_labels_compose :
    let vocabulary : Vocabulary := [("NONE", ""), ("SIZE", "size"), ("ALIGN", "textAlign")]
    (forall label, label ∈ vocabulary.values -> Text.beginsInAscii label.toList = true) ∧
      vocabulary.compose ("NONE" ++ " " ++ "NONE ALIGN") = .ok "textAlign" ∧
      vocabulary.compose ("SIZE" ++ " " ++ " NONE ALIGN SIZE") = .ok "sizeTextAlignSize" ∧
      vocabulary.compose ("SIZE HUGE" ++ " " ++ "TINY") =
        .error (.unknownLabel "HUGE" "SIZE HUGE TINY") := by
  intro vocabulary
  have ascii : forall label, label ∈ vocabulary.values ->
      Text.beginsInAscii label.toList = true := by decide +kernel
  have late := (phrases_compose ascii "NONE" "NONE ALIGN").2.2 "textAlign"
  have twice := (phrases_compose ascii "SIZE" " NONE ALIGN SIZE").2.2 "sizeTextAlignSize"
  have missing := (phrases_compose ascii "SIZE HUGE" "TINY").2.1
  refine ⟨ascii, late.mpr ⟨"", "textAlign", rfl, rfl, rfl⟩,
    twice.mpr ⟨"size", "textAlignSize", rfl, rfl, rfl⟩, (missing _).mpr ?_⟩
  exact ⟨["SIZE"], "HUGE", ["TINY"], rfl, by decide +kernel, by decide +kernel, rfl⟩

end Vocabulary
end ThemedStyles
