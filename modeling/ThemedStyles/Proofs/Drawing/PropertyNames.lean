import ThemedStyles.Proofs.Drawing.Leaves
import ThemedStyles.Proofs.Text.SteadyNames
import ThemedStyles.Rules.Writing

namespace ThemedStyles

/-!
# Tables drawn under the name of their property

A table may be drawn under the name of the property that it sets.  The name is read as
a key then, which goes into the bodies, and the key is written out again in the
stylesheet.  So the property that is written need not be the one that was named.

A name made of words of small letters is the name of a key, and such a name comes back
unless it has a single letter between two dashes, which runs into the word behind it.
The first word has no dash before it and the last one none behind it, so only the words
in between count, and these need a second letter.
-/

namespace Text

/-! ## Names made of words -/

/-- A word of small letters. -/
structure IsSmallWord (word : List Char) : Prop where
  ne_nil : word ≠ []
  small : forall char, char ∈ word -> char.isLower = true

instance (word : List Char) : Decidable (IsSmallWord word) :=
  decidable_of_iff (word ≠ [] ∧ word.all Char.isLower = true)
    ⟨fun parts => ⟨parts.1, List.all_eq_true.mp parts.2⟩,
      fun isWord => ⟨isWord.ne_nil, List.all_eq_true.mpr isWord.small⟩⟩

/-- Does what is left of a name come back from its key? -/
def StaysSteady (before name : List Char) : Prop :=
  EachBehind (fun before char => ¬ Unsteady before char) before name

theorem staysSteady_nil (before : List Char) : StaysSteady before [] := trivial

theorem staysSteady_cons_iff {before rest : List Char} {char : Char} :
    StaysSteady before (char :: rest) ↔
      ¬ Unsteady before char ∧ StaysSteady (char :: before) rest :=
  Iff.rfl

theorem staysSteady_append_iff {before first rest : List Char} :
    StaysSteady before (first ++ rest) ↔
      StaysSteady before first ∧ StaysSteady (first.reverse ++ before) rest := by
  induction first generalizing before with
  | nil => exact (and_iff_right (staysSteady_nil before)).symm
  | cons char first inductionHypothesis =>
      rw [List.cons_append, staysSteady_cons_iff, staysSteady_cons_iff, inductionHypothesis,
        and_assoc, List.reverse_cons, List.append_assoc, List.singleton_append]

theorem ne_dash_of_isLower {char : Char} (small : char.isLower = true) : char ≠ '-' := by
  rintro rfl
  exact absurd small (by decide)

/-- Small letters and dashes stand in a name as they stand in the key. -/
theorem eachBehind_arises_of_small {name : List Char}
    (small : forall char, char ∈ name -> char.isLower = true ∨ char = '-') :
    EachBehind Arises [] name := by
  have neither : forall char, char ∈ name -> char.isUpper = false ∧ char.isDigit = false := by
    intro char member
    rcases small char member with lower | rfl
    · exact (toUpper_of_isLower lower).2.2
    · decide
  rw [eachBehind_iff]
  rintro front char rest rfl
  have here := neither char (by simp)
  refine ⟨here.1, fun _ => ?_, fun digit => absurd (here.2.symm.trans digit) Bool.false_ne_true⟩
  rw [List.append_nil, List.head?_reverse]
  cases last : front.getLast? with
  | none => rfl
  | some previous =>
      have member : previous ∈ front := List.mem_of_getLast? last
      exact (neither previous (List.mem_append_left _ member)).2

section Words

variable {word previous before : List Char}

theorem staysSteady_letters (small : forall char, char ∈ word -> char.isLower = true)
    (behind : before.head? ≠ some '-') : StaysSteady before word := by
  induction word generalizing before with
  | nil => exact staysSteady_nil before
  | cons char word inductionHypothesis =>
      have lower := small char List.mem_cons_self
      refine ⟨?_, inductionHypothesis (fun next member => small next (List.mem_cons_of_mem _ member))
        fun dash => ne_dash_of_isLower lower (Option.some.inj dash)⟩
      intro unsteady
      have digit := ((unsteady_iff_of_kept fun dash => absurd dash behind).mp unsteady).1
      exact Bool.false_ne_true ((toUpper_of_isLower lower).2.2.2.symm.trans digit)

/-- Behind a dash, only the first letter of a word is at risk. -/
theorem staysSteady_dash_word_iff (isWord : IsSmallWord word) :
    StaysSteady before ('-' :: word) ↔ ¬ EndsInOpening before := by
  rcases isWord with ⟨filled, small⟩
  cases word with
  | nil => exact absurd rfl filled
  | cons char word =>
      have lower := small char List.mem_cons_self
      have joined : char.isAlphanum = true := by
        rw [Char.isAlphanum, isAlpha_eq, lower, Bool.or_true, Bool.true_or]
      have rest : StaysSteady (char :: '-' :: before) word :=
        staysSteady_letters (fun next member => small next (List.mem_cons_of_mem _ member))
          fun dash => ne_dash_of_isLower lower (Option.some.inj dash)
      rw [staysSteady_cons_iff, staysSteady_cons_iff, and_iff_right (not_unsteady_dash before),
        and_iff_left rest, unsteady_behind_dash_iff joined]

theorem endsInOpening_word_iff (isWord : IsSmallWord word) :
    EndsInOpening (word.reverse ++ before) ↔ word.length = 1 ∧ before.head? = some '-' := by
  rcases List.eq_nil_or_concat word with rfl | ⟨front, last, rfl⟩
  · exact absurd rfl isWord.ne_nil
  · have alphabetic : last.isAlpha = true := by
      rw [isAlpha_eq, isWord.small last (by simp), Bool.or_true]
    have opening : EndsInOpening (last :: (front.reverse ++ before)) ↔
        (front.reverse ++ before).head? = some '-' := by
      rw [List.head?_eq_some_iff]
      constructor
      · rintro ⟨letter, more, split, _⟩
        exact ⟨more, (List.cons.inj split).2⟩
      · rintro ⟨more, split⟩
        exact ⟨last, more, by rw [split], alphabetic⟩
    rw [List.concat_eq_append, List.reverse_append, List.reverse_singleton,
      List.singleton_append, List.cons_append, opening, List.head?_append, List.head?_reverse]
    cases behind : front.getLast? with
    | none => simp [List.getLast?_eq_none_iff.mp behind]
    | some previous =>
        have member : previous ∈ front := List.mem_of_getLast? behind
        have notDash := ne_dash_of_isLower (isWord.small previous (by simp [member]))
        refine iff_of_false (fun dash => notDash (Option.some.inj dash)) fun single => ?_
        have empty : front = [] := by simpa using single.1
        exact absurd (empty ▸ member) List.not_mem_nil

/-- Words with a dash before each of them come back unless one of them, the last one
apart, has a single letter, or the word before them does and has a dash before it. -/
theorem staysSteady_words_iff {words : List (List Char)} (isWord : IsSmallWord previous)
    (areWords : forall word, word ∈ words -> IsSmallWord word) :
    StaysSteady (previous.reverse ++ before) (words.flatMap ('-' :: ·)) ↔
      (before.head? = some '-' -> words ≠ [] -> previous.length ≠ 1) ∧
        forall word, word ∈ words.dropLast -> word.length ≠ 1 := by
  induction words generalizing previous before with
  | nil => simp [staysSteady_nil]
  | cons word words inductionHypothesis =>
      have isNext := areWords word List.mem_cons_self
      have dashed : ('-' :: word).reverse ++ (previous.reverse ++ before) =
          word.reverse ++ '-' :: (previous.reverse ++ before) := by simp
      rw [List.flatMap_cons, staysSteady_append_iff, staysSteady_dash_word_iff isNext,
        endsInOpening_word_iff isWord, not_and', dashed, inductionHypothesis isNext
          fun other member => areWords other (List.mem_cons_of_mem _ member)]
      cases words with
      | nil => simp
      | cons next words => simp

end Words

theorem intercalate_dash (first : List Char) (words : List (List Char)) :
    ['-'].intercalate (first :: words) = first ++ words.flatMap ('-' :: ·) := by
  induction words generalizing first with
  | nil => simp
  | cons word words inductionHypothesis =>
      rw [List.intercalate_cons_cons, inductionHypothesis, List.append_assoc]
      rfl

/-- A name of small words comes back exactly if each of its words between others has a
second letter. -/
theorem dashedChars_camelChars_words_iff {first : List Char} {words : List (List Char)}
    (isFirst : IsSmallWord first) (areWords : forall word, word ∈ words -> IsSmallWord word) :
    dashedChars (camelChars (['-'].intercalate (first :: words))) =
        ['-'].intercalate (first :: words) ↔
      forall word, word ∈ words.dropLast -> 2 ≤ word.length := by
  rw [intercalate_dash]
  have small : forall char, char ∈ first ++ words.flatMap ('-' :: ·) ->
      char.isLower = true ∨ char = '-' := by
    intro char member
    rcases List.mem_append.mp member with inFirst | later
    · exact Or.inl (isFirst.small char inFirst)
    · rcases List.mem_flatMap.mp later with ⟨word, present, inWord⟩
      rcases List.mem_cons.mp inWord with dash | inWord
      · exact Or.inr dash
      · exact Or.inl ((areWords word present).small char inWord)
  have back : dashedBehind none (camelChars (first ++ words.flatMap ('-' :: ·))) =
      first ++ words.flatMap ('-' :: ·) ↔ StaysSteady [] (first ++ words.flatMap ('-' :: ·)) :=
    dashedBehind_camelChars_iff (eachBehind_arises_of_small small) rfl fun dash =>
      absurd dash (Option.some_ne_none _).symm
  have opening : StaysSteady [] first := staysSteady_letters isFirst.small (by simp)
  have atLeastTwo : forall word, word ∈ words.dropLast -> (word.length ≠ 1 ↔ 2 ≤ word.length) := by
    intro word member
    have filled := List.length_pos_iff.mpr (areWords word (List.mem_of_mem_dropLast member)).ne_nil
    omega
  rw [dashedChars_eq, back, staysSteady_append_iff, and_iff_right opening,
    staysSteady_words_iff isFirst areWords]
  refine (and_iff_right ?_).trans (forall₂_congr atLeastTwo)
  exact fun dash => absurd dash (Option.some_ne_none _).symm

end Text

namespace Drawing

/-! ## Properties that are named by the key -/

/-- A key that begins with a small letter names no custom property. -/
theorem isCustom_camel {key : String} {char : Char} {rest : List Char}
    (begins : key.toList = char :: rest) (small : char.isLower = true) :
    Property.isCustom (Text.camel key) = false := by
  have notDash : char ≠ '-' := Text.ne_dash_of_isLower small
  rw [Property.isCustom, Text.camel, String.toList_ofList, begins,
    Text.camelChars_cons fun dash => absurd dash notDash, List.isPrefixOf_cons_cons,
    beq_eq_false_iff_ne.mpr (Ne.symm notDash), Bool.false_and]

/-- The property that a name made of words is read as is written under that name exactly
if each of its words between others has a second letter. -/
theorem cssName_camel_words_iff {words : List String} (filled : words ≠ [])
    (areWords : forall word, word ∈ words -> Text.IsSmallWord word.toList) :
    Property.cssName (Text.camel ("-".intercalate words)) = "-".intercalate words ↔
      forall word, word ∈ words.tail.dropLast -> 2 ≤ word.length := by
  cases words with
  | nil => exact absurd rfl filled
  | cons first words =>
      have isFirst := areWords first List.mem_cons_self
      have areLater : forall word, word ∈ words.map String.toList -> Text.IsSmallWord word := by
        intro word member
        rcases List.mem_map.mp member with ⟨later, present, rfl⟩
        exact areWords later (List.mem_cons_of_mem _ present)
      have chars : ("-".intercalate (first :: words)).toList =
          ['-'].intercalate (first.toList :: words.map String.toList) := String.toList_intercalate
      rcases List.exists_cons_of_ne_nil isFirst.ne_nil with ⟨char, rest, begins⟩
      have small : char.isLower = true := isFirst.small char (begins ▸ List.mem_cons_self)
      have opening := chars
      rw [Text.intercalate_dash, begins, List.cons_append] at opening
      rw [Property.cssName, isCustom_camel opening small, if_neg Bool.false_ne_true,
        Text.dashed, Text.camel, String.toList_ofList, ← String.toList_inj, String.toList_ofList,
        chars, Text.dashedChars_camelChars_words_iff isFirst areLater, ← List.map_dropLast,
        List.forall_mem_map]
      rfl

/-- A single letter between two dashes runs into the word behind it. -/
example : Property.cssName (Text.camel "scroll-x-snap") = "scroll-xsnap" := by decide +kernel

/-- A table that is drawn under a name made of small words sets the one property that the
name is read as.  That property is written under the name exactly if each word of the
name between others has a second letter. -/
theorem drawn_under_own_name_iff {words : List String} (filled : words ≠ [])
    (areWords : forall word, word ∈ words -> Text.IsSmallWord word.toList) (table : Book) :
    let key := "-".intercalate words
    ∃ property, Target.ofKey.names key = [property] ∧
      (Property.cssName property = key ↔
        forall word, word ∈ words.tail.dropLast -> 2 ≤ word.length) ∧
      forall drawn, drawn ∈ draw key table .ofKey ->
        ∃ suffix value, (suffix, value) ∈ table ∧ isDrawn (suffix, value) = true ∧
          drawn = (key ++ suffix, .book ((shared table).put property value)) ∧
          forall text, value.css? = some text ->
            (Rules.line? (property, value) = some ("  " ++ key ++ ": " ++ text ++ ";\n") ↔
              forall word, word ∈ words.tail.dropLast -> 2 ≤ word.length) := by
  intro key
  have named := cssName_camel_words_iff filled areWords
  refine ⟨Text.camel key, rfl, named, fun drawn member => ?_⟩
  rw [draw_eq] at member
  rcases List.mem_flatMap.mp (Entries.mem_of_mem_ofPairs member) with ⟨entry, listed, drawnOfEntry⟩
  rcases List.mem_filter.mp listed with ⟨present, isDrawn⟩
  refine ⟨entry.1, entry.2, present, isDrawn, List.mem_singleton.mp drawnOfEntry, ?_⟩
  intro text shown
  rw [← named, Rules.line?, shown, Option.map_some, Option.some_inj, String.append_left_inj,
    String.append_left_inj, String.append_left_inj, String.append_right_inj]

theorem grid_flow_keeps_its_name :
    let words := ["grid", "auto", "flow"]
    let table : Book := [("*", .book [("display", "grid")]), ("Dense", "dense")]
    words ≠ [] ∧ (forall word, word ∈ words -> Text.IsSmallWord word.toList) ∧
      draw "grid-auto-flow" table .ofKey =
        [("grid-auto-flowDense", .book [("display", "grid"), ("gridAutoFlow", "dense")])] ∧
      Property.cssName "gridAutoFlow" = "grid-auto-flow" := by
  intro words table
  have filled : words ≠ [] := List.cons_ne_nil _ _
  have areWords : forall word, word ∈ words -> Text.IsSmallWord word.toList := by decide
  obtain ⟨property, named, same, _⟩ := drawn_under_own_name_iff filled areWords table
  have key_eq : "-".intercalate words = "grid-auto-flow" := by decide +kernel
  have property_eq : property = "gridAutoFlow" := by
    rw [← List.singleton_inj, ← named, key_eq]
    decide +kernel
  rw [key_eq, property_eq] at same
  exact ⟨filled, areWords, rfl, same.mpr (by decide)⟩

end Drawing
end ThemedStyles
