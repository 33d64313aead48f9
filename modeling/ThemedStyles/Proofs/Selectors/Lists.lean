import Mathlib.Data.List.TakeWhile
import ThemedStyles.Selector

namespace ThemedStyles

/-!
# Selector lists taken apart and put together

Cutting a selector at its commas depends on the depth of brackets, and so does
everything that is put into a selector.  A text is balanced when it closes every
bracket that it opens and no other.  An entry is a balanced text without a comma
outside its brackets.

Cutting a balanced text yields entries only.  An entry may be put next to an
entry, or in the place of a marker within any text, and disturbs neither the
depth nor the cuts there.  Balanced texts may be joined to a list, which has the
entries of all of them.
-/

/-! ## Trimmed texts -/

namespace Text

theorem trim_of_blank_append {blanks : List Char} (blank : forall char, char ∈ blanks ->
    isBlank char = true) (text : List Char) : trim (blanks ++ text) = trim text := by
  unfold trim
  rw [List.dropWhile_append_of_pos blank]

/-- Only blanks are cut off at the two ends. -/
theorem exists_eq_append_trim (text : List Char) :
    ∃ before after, text = before ++ (trim text ++ after) ∧
      (forall char, char ∈ before -> isBlank char = true) ∧
      (forall char, char ∈ after -> isBlank char = true) := by
  let rest := text.dropWhile isBlank
  have front : text = text.takeWhile isBlank ++ rest := List.takeWhile_append_dropWhile.symm
  have back : rest = trim text ++ (rest.reverse.takeWhile isBlank).reverse := by
    have reversed : rest.reverse.takeWhile isBlank ++ rest.reverse.dropWhile isBlank =
        rest.reverse := List.takeWhile_append_dropWhile
    have turned := congrArg List.reverse reversed
    rw [List.reverse_append, List.reverse_reverse] at turned
    exact turned.symm
  refine ⟨text.takeWhile isBlank, (rest.reverse.takeWhile isBlank).reverse, ?_, ?_, ?_⟩
  · rw [← back, ← front]
  · exact fun char member => List.mem_takeWhile_imp member
  · exact fun char member => List.mem_takeWhile_imp (List.mem_reverse.mp member)

theorem mem_of_mem_trim {text : List Char} {char : Char} (member : char ∈ trim text) :
    char ∈ text := by
  rcases exists_eq_append_trim text with ⟨before, after, split, _⟩
  rw [split]
  exact List.mem_append_right _ (List.mem_append_left _ member)

/-- Neither end of a trimmed text is dropped as a blank. -/
theorem dropWhile_of_trimmed {text : List Char} (trimmed : trim text = text) :
    text.dropWhile isBlank = text ∧ text.reverse.dropWhile isBlank = text.reverse := by
  have front : text.dropWhile isBlank = text := by
    have inner := (List.dropWhile_sublist isBlank (l := (text.dropWhile isBlank).reverse)).length_le
    have whole := congrArg List.length trimmed
    rw [trim, List.length_reverse] at whole
    rw [List.length_reverse] at inner
    exact (List.dropWhile_sublist isBlank).eq_of_length_le (whole ▸ inner)
  refine ⟨front, ?_⟩
  have turned := congrArg List.reverse trimmed
  rw [trim, front, List.reverse_reverse] at turned
  exact turned

/-- A text that begins, after blanks, with a trimmed text still begins with it
when it is trimmed as a whole. -/
theorem prefix_trim (blanks : List Char) {start : List Char} (blank : forall char, char ∈ blanks ->
    isBlank char = true) (trimmed : trim start = start) (nonempty : start ≠ [])
    (rest : List Char) : start <+: trim (blanks ++ (start ++ rest)) := by
  rcases dropWhile_of_trimmed trimmed with ⟨front, back⟩
  have kept : (start ++ rest).dropWhile isBlank = start ++ rest := by
    rw [List.dropWhile_append, front, if_neg (by simp [nonempty])]
  rw [trim_of_blank_append blank, trim, kept, List.reverse_append, List.dropWhile_append, back]
  split
  · exact ⟨[], by rw [List.append_nil, List.reverse_reverse]⟩
  · rw [List.reverse_append, List.reverse_reverse]
    exact List.prefix_append start _

end Text

namespace Selector

/-! ## The depth behind a text -/

/-- The characters that govern the cuts. -/
def delimiters : List Char := ['(', ')', '[', ']', ',']

/-- The depth of open brackets behind a text, `none` if one of the barred
characters stands outside all brackets. -/
def depthBehind? (barred : List Char) : Nat -> List Char -> Option Nat
  | depth, [] => some depth
  | depth, char :: rest =>
      if depth = 0 ∧ char ∈ barred then none
      else depthBehind? barred (depthAfter depth char) rest

/-- A text that closes the brackets it opens and no others. -/
def Balanced (text : List Char) : Prop := depthBehind? [')', ']'] 0 text = some 0

/-- A balanced text without a comma outside its brackets. -/
def IsEntry (text : List Char) : Prop := depthBehind? [')', ']', ','] 0 text = some 0

instance (text : List Char) : Decidable (Balanced text) :=
  inferInstanceAs (Decidable (depthBehind? [')', ']'] 0 text = some 0))

instance (text : List Char) : Decidable (IsEntry text) :=
  inferInstanceAs (Decidable (depthBehind? [')', ']', ','] 0 text = some 0))

theorem mem_delimiters {char : Char} : char ∈ delimiters ↔
    char = '(' ∨ char = ')' ∨ char = '[' ∨ char = ']' ∨ char = ',' := by
  simp [delimiters]

theorem depthAfter_of_not_mem {char : Char} (neutral : char ∉ delimiters) (depth : Nat) :
    depthAfter depth char = depth := by
  simp only [mem_delimiters, not_or] at neutral
  simp [depthAfter, neutral]

theorem depthAfter_comma (depth : Nat) : depthAfter depth ',' = depth := by
  simp [depthAfter]

theorem depthAfter_add {depth : Nat} {char : Char}
    (opened : ¬ (depth = 0 ∧ (char = ')' ∨ char = ']'))) (more : Nat) :
    depthAfter (depth + more) char = depthAfter depth char + more := by
  unfold depthAfter
  split
  · omega
  · split
    · rename_i closes
      have : depth ≠ 0 := fun zero => opened ⟨zero, closes⟩
      omega
    · rfl

section Depth

variable {barred : List Char}

theorem depthBehind?_append (first second : List Char) (depth : Nat) :
    depthBehind? barred depth (first ++ second) =
      (depthBehind? barred depth first).bind fun behind => depthBehind? barred behind second := by
  induction first generalizing depth with
  | nil => rfl
  | cons char rest inductionHypothesis =>
      simp only [List.cons_append, depthBehind?]
      split
      · rfl
      · exact inductionHypothesis _

/-- Characters that do not govern the cuts leave the depth alone. -/
theorem depthBehind?_of_neutral {text : List Char} (delimits : barred ⊆ delimiters)
    (neutral : forall char, char ∈ text -> char ∉ delimiters) (depth : Nat) :
    depthBehind? barred depth text = some depth := by
  induction text with
  | nil => rfl
  | cons char rest inductionHypothesis =>
      have here : char ∉ delimiters := neutral char List.mem_cons_self
      rw [depthBehind?, if_neg fun barredHere => here (delimits barredHere.2),
        depthAfter_of_not_mem here]
      exact inductionHypothesis fun other member => neutral other (List.mem_cons_of_mem _ member)

theorem depthBehind?_append_neutral (delimits : barred ⊆ delimiters) (first : List Char)
    {second : List Char} (neutral : forall char, char ∈ second -> char ∉ delimiters)
    (depth : Nat) :
    depthBehind? barred depth (first ++ second) = depthBehind? barred depth first := by
  have behind : forall behind, depthBehind? barred behind second = some behind :=
    depthBehind?_of_neutral delimits neutral
  rw [depthBehind?_append]
  exact (Option.bind_congr fun depth _ => behind depth).trans (Option.bind_fun_some _)

/-- Within further brackets, a text that never closes a foreign bracket does to
the depth what it does outside. -/
theorem depthBehind?_add (closers : [')', ']'] ⊆ barred) {text : List Char} {depth behind : Nat}
    (scanned : depthBehind? barred depth text = some behind) (more : Nat) :
    depthBehind? barred (depth + more) text = some (behind + more) := by
  induction text generalizing depth with
  | nil =>
      rw [depthBehind?, Option.some.injEq] at scanned
      rw [depthBehind?, scanned]
  | cons char rest inductionHypothesis =>
      rw [depthBehind?] at scanned
      split at scanned
      · exact absurd scanned (by simp)
      · rename_i allowed
        have shifted : depthAfter (depth + more) char = depthAfter depth char + more := by
          refine depthAfter_add (fun closing => allowed ⟨closing.1, closers ?_⟩) more
          simpa using closing.2
        rw [depthBehind?, if_neg fun outside => allowed ⟨by omega, outside.2⟩, shifted]
        exact inductionHypothesis scanned

/-- Barring fewer characters does not change a depth. -/
theorem depthBehind?_of_subset {fewer : List Char} (subset : fewer ⊆ barred) {text : List Char}
    {depth behind : Nat} (scanned : depthBehind? barred depth text = some behind) :
    depthBehind? fewer depth text = some behind := by
  induction text generalizing depth with
  | nil => exact scanned
  | cons char rest inductionHypothesis =>
      rw [depthBehind?] at scanned ⊢
      split at scanned
      · exact absurd scanned (by simp)
      · rename_i allowed
        rw [if_neg fun outside => allowed ⟨outside.1, subset outside.2⟩]
        exact inductionHypothesis scanned

end Depth

/-! ## Cuts -/

section Cuts

theorem cutAtCommas_cons_of_cut (rest : List Char) :
    cutAtCommas 0 (',' :: rest) = [] :: cutAtCommas 0 rest := by
  simp [cutAtCommas]

/-- A character that is no cut is put in front of the first piece. -/
theorem cutAtCommas_cons {depth : Nat} {char : Char} (whole : ¬ (char = ',' ∧ depth = 0))
    (rest : List Char) :
    cutAtCommas depth (char :: rest) =
      (cutAtCommas (depthAfter depth char) rest).modifyHead (char :: ·) := by
  rw [cutAtCommas, if_neg whole]
  split
  · rename_i empty
    exact absurd empty (cutAtCommas_ne_nil _ _)
  · rename_i first pieces cut
    rw [cut, List.modifyHead_cons]

/-- A map over pieces passes a change of the first one that it agrees with. -/
theorem map_modifyHead {α β : Type} {outer : α -> β} {change : α -> α} {changed : β -> β}
    (agree : forall piece, outer (change piece) = changed (outer piece)) (pieces : List α) :
    (pieces.modifyHead change).map outer = (pieces.map outer).modifyHead changed := by
  cases pieces with
  | nil => rfl
  | cons first rest => simp [agree]

theorem modifyHead_append_of_ne_nil {α : Type} {pieces : List α} (nonempty : pieces ≠ [])
    (change : α -> α) (more : List α) :
    (pieces ++ more).modifyHead change = pieces.modifyHead change ++ more := by
  cases pieces with
  | nil => exact absurd rfl nonempty
  | cons first rest => rfl

/-- A text without a cut is put in front of the first piece. -/
theorem cutAtCommas_append {barred : List Char} (commas : ',' ∈ barred) {text : List Char}
    {depth behind : Nat} (whole : depthBehind? barred depth text = some behind)
    (rest : List Char) :
    cutAtCommas depth (text ++ rest) = (cutAtCommas behind rest).modifyHead (text ++ ·) := by
  induction text generalizing depth with
  | nil =>
      rw [depthBehind?, Option.some.injEq] at whole
      rw [List.nil_append, whole]
      exact (congrFun List.modifyHead_id _).symm
  | cons char text inductionHypothesis =>
      rw [depthBehind?] at whole
      split at whole
      · exact absurd whole (by simp)
      · rename_i allowed
        have uncut : ¬ (char = ',' ∧ depth = 0) := fun cut => allowed ⟨cut.2, cut.1 ▸ commas⟩
        rw [List.cons_append, cutAtCommas_cons uncut, inductionHypothesis whole,
          List.modifyHead_modifyHead]
        rfl

/-- A text without a cut is its only piece. -/
theorem cutAtCommas_of_whole {barred : List Char} (commas : ',' ∈ barred) {text : List Char}
    {depth behind : Nat} (whole : depthBehind? barred depth text = some behind) :
    cutAtCommas depth text = [text] := by
  have cut := cutAtCommas_append commas whole []
  rw [List.append_nil] at cut
  rw [cut, cutAtCommas, List.modifyHead_cons, List.append_nil]

/-- A comma behind a text that ends outside all brackets is a cut. -/
theorem cutAtCommas_append_comma {barred text : List Char} {depth : Nat}
    (balanced : depthBehind? barred depth text = some 0) (rest : List Char) :
    cutAtCommas depth (text ++ ',' :: rest) = cutAtCommas depth text ++ cutAtCommas 0 rest := by
  induction text generalizing depth with
  | nil =>
      rw [depthBehind?, Option.some.injEq] at balanced
      rw [List.nil_append, balanced, cutAtCommas_cons_of_cut]
      rfl
  | cons char text inductionHypothesis =>
      rw [depthBehind?] at balanced
      split at balanced
      · exact absurd balanced (by simp)
      · have later := inductionHypothesis balanced
        rw [List.cons_append]
        by_cases cut : char = ',' ∧ depth = 0
        · rw [cut.1, cut.2, depthAfter_comma] at later
          rw [cut.1, cut.2, cutAtCommas_cons_of_cut, cutAtCommas_cons_of_cut, later,
            List.cons_append]
        · rw [cutAtCommas_cons cut, cutAtCommas_cons cut, later,
            modifyHead_append_of_ne_nil (cutAtCommas_ne_nil _ _)]

/-- The pieces of a balanced text are entries.  The scan may begin inside of
brackets that the text closes; then the first piece closes them. -/
theorem pieces_of_depthBehind? {text : List Char} {depth : Nat}
    (balanced : depthBehind? [')', ']'] depth text = some 0) :
    ∃ first pieces, cutAtCommas depth text = first :: pieces ∧
      depthBehind? [')', ']', ','] depth first = some 0 ∧
      (forall piece, piece ∈ pieces -> IsEntry piece) := by
  induction text generalizing depth with
  | nil => exact ⟨[], [], rfl, balanced, by simp⟩
  | cons char text inductionHypothesis =>
      rw [depthBehind?] at balanced
      split at balanced
      · exact absurd balanced (by simp)
      · rename_i allowed
        rcases inductionHypothesis balanced with ⟨first, pieces, pieces_eq, scanned, later⟩
        by_cases cut : char = ',' ∧ depth = 0
        · rcases cut with ⟨rfl, rfl⟩
          rw [depthAfter_comma] at pieces_eq scanned
          refine ⟨[], first :: pieces, by rw [cutAtCommas_cons_of_cut, pieces_eq], rfl, ?_⟩
          intro piece member
          rcases List.mem_cons.mp member with rfl | member
          · exact scanned
          · exact later piece member
        · refine ⟨char :: first, pieces, ?_, ?_, later⟩
          · rw [cutAtCommas_cons cut, pieces_eq, List.modifyHead_cons]
          · rw [depthBehind?, if_neg, scanned]
            rintro ⟨outside, member⟩
            simp only [List.mem_cons, List.not_mem_nil, or_false] at member
            rcases member with closing | closing | comma
            · exact allowed ⟨outside, by simp [closing]⟩
            · exact allowed ⟨outside, by simp [closing]⟩
            · exact cut ⟨comma, outside⟩

/-- Between commas again, the pieces are the text. -/
theorem intercalate_cutAtCommas (depth : Nat) (text : List Char) :
    [','].intercalate (cutAtCommas depth text) = text := by
  induction text generalizing depth with
  | nil => rfl
  | cons char text inductionHypothesis =>
      by_cases cut : char = ',' ∧ depth = 0
      · rw [cut.1, cut.2, cutAtCommas_cons_of_cut,
          List.intercalate_cons_of_ne_nil (cutAtCommas_ne_nil _ _), inductionHypothesis]
        rfl
      · have later := inductionHypothesis (depthAfter depth char)
        rcases List.exists_cons_of_ne_nil (cutAtCommas_ne_nil (depthAfter depth char) text) with
          ⟨first, pieces, pieces_eq⟩
        rw [pieces_eq] at later
        rw [cutAtCommas_cons cut, pieces_eq, List.modifyHead_cons,
          List.intercalate_cons_cons_left, later]

end Cuts

/-! ## Texts joined by a separator -/

theorem mem_intercalate_of_mem {separator part : List Char} {parts : List (List Char)}
    (present : part ∈ parts) {char : Char} (member : char ∈ part) :
    char ∈ separator.intercalate parts := by
  induction parts with
  | nil => exact absurd present List.not_mem_nil
  | cons first rest inductionHypothesis =>
      by_cases last : rest = []
      · rw [last, List.mem_singleton] at present
        rw [last, List.intercalate_singleton, ← present]
        exact member
      · rw [List.intercalate_cons_of_ne_nil last]
        rcases List.mem_cons.mp present with rfl | present
        · exact List.mem_append_left _ (List.mem_append_left _ member)
        · exact List.mem_append_right _ (inductionHypothesis present)

theorem mem_of_mem_intercalate {separator : List Char} {parts : List (List Char)} {char : Char}
    (member : char ∈ separator.intercalate parts) :
    char ∈ separator ∨ ∃ part, part ∈ parts ∧ char ∈ part := by
  induction parts with
  | nil => exact absurd member List.not_mem_nil
  | cons first rest inductionHypothesis =>
      by_cases last : rest = []
      · rw [last, List.intercalate_singleton] at member
        exact Or.inr ⟨first, List.mem_cons_self, member⟩
      · rw [List.intercalate_cons_of_ne_nil last, List.mem_append, List.mem_append] at member
        rcases member with (member | member) | member
        · exact Or.inr ⟨first, List.mem_cons_self, member⟩
        · exact Or.inl member
        · rcases inductionHypothesis member with between | ⟨part, present, inside⟩
          · exact Or.inl between
          · exact Or.inr ⟨part, List.mem_cons_of_mem _ present, inside⟩

/-! ## Entries -/

theorem IsEntry.balanced {text : List Char} (entry : IsEntry text) : Balanced text :=
  depthBehind?_of_subset (by simp) entry

/-- Brackets around an entry do not matter to it. -/
theorem IsEntry.depthBehind? {text : List Char} (entry : IsEntry text) (depth : Nat) :
    depthBehind? [')', ']', ','] depth text = some depth := by
  have shifted := depthBehind?_add (by simp) entry depth
  rwa [Nat.zero_add] at shifted

theorem IsEntry.cutAtCommas {text : List Char} (entry : IsEntry text) :
    cutAtCommas 0 text = [text] :=
  cutAtCommas_of_whole (by simp) entry

theorem IsEntry.entries {text : List Char} (entry : IsEntry text) :
    entries text = [Text.trim text] := by
  rw [Selector.entries, entry.cutAtCommas, List.map_singleton]

theorem isEntry_of_neutral {text : List Char}
    (neutral : forall char, char ∈ text -> char ∉ delimiters) : IsEntry text :=
  depthBehind?_of_neutral (by simp [delimiters]) neutral 0

theorem IsEntry.append {first second : List Char} (firstEntry : IsEntry first)
    (secondEntry : IsEntry second) : IsEntry (first ++ second) := by
  rw [IsEntry, depthBehind?_append, firstEntry.depthBehind?]
  exact secondEntry

/-- A selector with one entry is not cut. -/
theorem cutAtCommas_of_single {selector : List Char} (single : (entries selector).length ≤ 1) :
    cutAtCommas 0 selector = [selector] := by
  have nonempty := List.length_pos_iff.mpr (cutAtCommas_ne_nil 0 selector)
  rw [entries, List.length_map] at single
  obtain ⟨piece, piece_eq⟩ : ∃ piece, cutAtCommas 0 selector = [piece] :=
    List.length_eq_one_iff.mp (by omega)
  have back := intercalate_cutAtCommas 0 selector
  rw [piece_eq, List.intercalate_singleton] at back
  rw [piece_eq, back]

theorem Balanced.isEntry {text : List Char} (balanced : Balanced text)
    (single : (entries text).length ≤ 1) : IsEntry text := by
  rcases pieces_of_depthBehind? balanced with ⟨first, pieces, pieces_eq, entry, _⟩
  rw [cutAtCommas_of_single single, List.cons.injEq] at pieces_eq
  rw [pieces_eq.1]
  exact entry

theorem not_mem_delimiters_of_isBlank {char : Char} (blank : Text.isBlank char = true) :
    char ∉ delimiters := by
  intro member
  rcases mem_delimiters.mp member with rfl | rfl | rfl | rfl | rfl <;>
    exact absurd blank (by decide)

/-- Blanks at its ends do not belong to the brackets of a text. -/
theorem depthBehind?_trim {barred : List Char} (delimits : barred ⊆ delimiters)
    (text : List Char) (depth : Nat) :
    depthBehind? barred depth (Text.trim text) = depthBehind? barred depth text := by
  rcases Text.exists_eq_append_trim text with ⟨before, after, split, beforeBlank, afterBlank⟩
  have neutral : forall {blanks : List Char}, (forall char, char ∈ blanks ->
      Text.isBlank char = true) -> forall char, char ∈ blanks -> char ∉ delimiters :=
    fun blank char member => not_mem_delimiters_of_isBlank (blank char member)
  have whole : depthBehind? barred depth (before ++ (Text.trim text ++ after)) =
      depthBehind? barred depth (Text.trim text) := by
    rw [depthBehind?_append, depthBehind?_of_neutral delimits (neutral beforeBlank),
      Option.bind_some, depthBehind?_append_neutral delimits _ (neutral afterBlank)]
  rw [← split] at whole
  exact whole.symm

theorem IsEntry.trim {text : List Char} (entry : IsEntry text) : IsEntry (Text.trim text) :=
  (depthBehind?_trim (by simp [delimiters]) text 0).trans entry

/-- The entries of a balanced selector are entries in their own right. -/
theorem Balanced.isEntry_of_mem {selector entry : List Char} (balanced : Balanced selector)
    (member : entry ∈ entries selector) : IsEntry entry := by
  rcases pieces_of_depthBehind? balanced with ⟨first, pieces, pieces_eq, firstEntry, later⟩
  rw [entries, pieces_eq] at member
  rcases List.mem_map.mp member with ⟨piece, present, rfl⟩
  rcases List.mem_cons.mp present with rfl | present
  · exact IsEntry.trim firstEntry
  · exact (later piece present).trim

theorem mem_of_mem_entries {selector entry : List Char} (present : entry ∈ entries selector)
    {char : Char} (member : char ∈ entry) : char ∈ selector := by
  rcases List.mem_map.mp present with ⟨piece, cut, rfl⟩
  have inside : char ∈ [','].intercalate (cutAtCommas 0 selector) :=
    mem_intercalate_of_mem cut (Text.mem_of_mem_trim member)
  rwa [intercalate_cutAtCommas] at inside

/-! ## Joined lists -/

theorem entries_cons_blank {char : Char} (blank : Text.isBlank char = true)
    (selector : List Char) : entries (char :: selector) = entries selector := by
  have neutral := not_mem_delimiters_of_isBlank blank
  have uncut : ¬ (char = ',' ∧ 0 = 0) := fun cut => neutral (by simp [cut.1, delimiters])
  have blanks : forall other, other ∈ [char] -> Text.isBlank other = true := by simpa using blank
  have trimmed : forall piece, Text.trim (char :: piece) = id (Text.trim piece) := fun piece =>
    Text.trim_of_blank_append blanks piece
  rw [entries, entries, cutAtCommas_cons uncut, depthAfter_of_not_mem neutral,
    map_modifyHead trimmed, List.modifyHead_id, id_eq]

/-- A comma and a blank behind a text that ends outside all brackets separate its
entries from those of the rest. -/
theorem entries_append_comma {barred text : List Char}
    (balanced : depthBehind? barred 0 text = some 0) (rest : List Char) :
    entries (text ++ ',' :: ' ' :: rest) = entries text ++ entries rest := by
  have cut := cutAtCommas_append_comma balanced (' ' :: rest)
  rw [entries, cut, List.map_append,
    ← entries_cons_blank (show Text.isBlank ' ' = true by decide) rest]
  rfl

theorem joined_cons (first : List Char) {rest : List (List Char)} (nonempty : rest ≠ []) :
    joined (first :: rest) = first ++ ',' :: ' ' :: joined rest := by
  rw [joined, List.intercalate_cons_of_ne_nil nonempty, List.append_assoc]
  rfl

/-- Parts with a text between them begin with the first part. -/
theorem prefix_intercalate (between first : List Char) (rest : List (List Char)) :
    first <+: between.intercalate (first :: rest) := by
  by_cases last : rest = []
  · exact ⟨[], by rw [List.append_nil, last, List.intercalate_singleton]⟩
  · rw [List.intercalate_cons_of_ne_nil last, List.append_assoc]
    exact List.prefix_append first _

/-- A joined list begins with its first part. -/
theorem prefix_joined (first : List Char) (rest : List (List Char)) :
    first <+: joined (first :: rest) :=
  prefix_intercalate [',', ' '] first rest

/-- The entries of a joined list are those of its parts. -/
theorem entries_joined {parts : List (List Char)} (nonempty : parts ≠ [])
    (balanced : forall part, part ∈ parts -> Balanced part) :
    entries (joined parts) = parts.flatMap entries := by
  induction parts with
  | nil => exact absurd rfl nonempty
  | cons first rest inductionHypothesis =>
      by_cases last : rest = []
      · rw [last, joined, List.intercalate_singleton, List.flatMap_singleton]
      · have later := inductionHypothesis last fun part member =>
          balanced part (List.mem_cons_of_mem _ member)
        rw [joined_cons first last, entries_append_comma (balanced first List.mem_cons_self),
          later, List.flatMap_cons]

theorem balanced_joined {parts : List (List Char)}
    (balanced : forall part, part ∈ parts -> Balanced part) : Balanced (joined parts) := by
  induction parts with
  | nil => exact rfl
  | cons first rest inductionHypothesis =>
      have here : Balanced first := balanced first List.mem_cons_self
      by_cases last : rest = []
      · rw [last, joined, List.intercalate_singleton]
        exact here
      · have later := inductionHypothesis fun part member =>
          balanced part (List.mem_cons_of_mem _ member)
        rw [joined, List.intercalate_cons_of_ne_nil last, List.append_assoc, Balanced,
          depthBehind?_append, here]
        exact later

end Selector
end ThemedStyles
