import ThemedStyles.Property
import ThemedStyles.Proofs.Text.Casing

namespace ThemedStyles

/-!
# Names that are known in either form

A set of properties keeps every name in dash case, and a key is put into dash case before
it is looked up.  So a name is known as it was given, and with it every key that has the
same dash-case form.

The dash-case form is a key as well, and is put into dash case once more when it is looked
up.  Its letters are small, so no letter changes and none opens a word; but a digit opens
a word wherever it stands, and `h-3` is looked up as `h--3`.  So both forms of a name are
known if it has no digit.  The dash-case form of any other name is known only where it
looks like a custom property, or where another name is kept under that second form.
-/

namespace Text

/-! ## Dash case applied twice -/

/-- A dash-case name consists of dashes and of the characters of its key, made small. -/
theorem mem_dashedBehind {previous : Option Char} {key : List Char} {char : Char}
    (member : char ∈ dashedBehind previous key) :
    char = '-' ∨ ∃ origin, origin ∈ key ∧ origin.toLower = char := by
  induction key generalizing previous with
  | nil => exact absurd member List.not_mem_nil
  | cons first rest inductionHypothesis =>
      have later : char ∈ first.toLower :: dashedBehind (some first) rest ->
          char = '-' ∨ ∃ origin, origin ∈ first :: rest ∧ origin.toLower = char := by
        intro member
        rcases List.mem_cons.mp member with rfl | member
        · exact Or.inr ⟨first, List.mem_cons_self, rfl⟩
        · rcases inductionHypothesis member with dash | ⟨origin, present, same⟩
          · exact Or.inl dash
          · exact Or.inr ⟨origin, List.mem_cons_of_mem _ present, same⟩
      rw [dashedBehind] at member
      split at member
      · rcases List.mem_cons.mp member with dash | member
        · exact Or.inl dash
        · exact later member
      · exact later member

theorem toLower_mem_dashedBehind {previous : Option Char} {key : List Char} {char : Char}
    (member : char ∈ key) : char.toLower ∈ dashedBehind previous key := by
  induction key generalizing previous with
  | nil => exact absurd member List.not_mem_nil
  | cons first rest inductionHypothesis =>
      have here : char.toLower ∈ first.toLower :: dashedBehind (some first) rest := by
        rcases List.mem_cons.mp member with rfl | member
        · exact List.mem_cons_self
        · exact List.mem_cons_of_mem _ (inductionHypothesis member)
      rw [dashedBehind]
      split
      · exact List.mem_cons_of_mem _ here
      · exact here

/-- A name without capitals stays as it is exactly if it has no digit. -/
theorem dashedBehind_eq_self_iff {previous : Option Char} {name : List Char}
    (closed : previous.any opensWord = false)
    (small : forall char, char ∈ name -> char.isUpper = false) :
    dashedBehind previous name = name ↔ forall char, char ∈ name -> char.isDigit = false := by
  induction name generalizing previous with
  | nil => simp [dashedBehind]
  | cons char rest inductionHypothesis =>
      have here : char.isUpper = false := small char List.mem_cons_self
      rw [dashedBehind, toLower_of_not_isUpper here]
      cases digit : char.isDigit with
      | true =>
          have opens : opensWord char = true := by rw [opensWord, digit, Bool.or_true]
          have dash : dashBefore previous char = true := by
            rw [dashBefore, opens, closed, Bool.not_false, Bool.true_and, Bool.true_or]
          rw [if_pos dash]
          refine iff_of_false (fun same => ?_) fun without => ?_
          · rw [← (List.cons.inj same).1] at digit
            exact absurd digit (by decide)
          · exact Bool.false_ne_true ((without char List.mem_cons_self).symm.trans digit)
      | false =>
          have stays : opensWord char = false := by rw [opensWord, here, digit, Bool.or_false]
          have behind : previous.any Char.isDigit = false := by
            cases previous with
            | none => rfl
            | some first => exact (Bool.or_eq_false_iff.mp closed).2
          have bare : dashBefore previous char = false := by
            rw [dashBefore, stays, behind, Bool.false_and, Bool.and_false, Bool.or_false]
          have later : dashedBehind (some char) rest = rest ↔
              forall other, other ∈ rest -> other.isDigit = false :=
            inductionHypothesis stays fun other member =>
              small other (List.mem_cons_of_mem _ member)
          rw [if_neg (Bool.eq_false_iff.mp bare), List.cons.injEq, later, List.forall_mem_cons]
          simp [digit]

/-- The dash-case form of a key is its own dash-case form exactly if the key has no
digit. -/
theorem dashed_dashed_iff (key : String) :
    dashed (dashed key) = dashed key ↔
      forall char, char ∈ key.toList -> char.isDigit = false := by
  have name_eq : (dashed key).toList = dashedBehind none key.toList := by
    rw [dashed, String.toList_ofList, dashedChars_eq]
  have small : forall char, char ∈ dashedBehind none key.toList -> char.isUpper = false := by
    intro char member
    rcases mem_dashedBehind member with rfl | ⟨origin, _, rfl⟩
    · decide
    · exact isUpper_toLower origin
  have digits : (forall char, char ∈ dashedBehind none key.toList -> char.isDigit = false) ↔
      forall char, char ∈ key.toList -> char.isDigit = false := by
    constructor
    · intro without char member
      rw [← isDigit_toLower]
      exact without _ (toLower_mem_dashedBehind member)
    · intro without char member
      rcases mem_dashedBehind member with rfl | ⟨origin, present, rfl⟩
      · decide
      · rw [isDigit_toLower]
        exact without origin present
  rw [← String.toList_inj, dashed, String.toList_ofList, dashedChars_eq, name_eq,
    dashedBehind_eq_self_iff rfl small, digits]

end Text

namespace PropertySet

/-! ## What is known -/

theorem mem_names_add_iff (known : PropertySet) (name kept : String) :
    kept ∈ (known.add name).names ↔ kept ∈ known.names ∨ Text.dashed name = kept := by
  rw [add]
  split
  · rename_i present
    refine (or_iff_left_of_imp ?_).symm
    rintro rfl
    exact List.contains_iff_mem.mp present
  · rw [List.mem_append, List.mem_singleton, eq_comm (a := kept)]

theorem mem_names_addAll_iff (known : PropertySet) (names : List String) (kept : String) :
    kept ∈ (known.addAll names).names ↔
      kept ∈ known.names ∨ ∃ name, name ∈ names ∧ Text.dashed name = kept := by
  induction names generalizing known with
  | nil => simp [addAll]
  | cons name rest inductionHypothesis =>
      have later := inductionHypothesis (known.add name)
      rw [mem_names_add_iff] at later
      rw [addAll, List.foldl_cons, ← addAll, later, or_assoc, List.exists_mem_cons_iff]

/-- A key is known exactly if it is custom or has the dash-case form of a given name. -/
theorem knows_addAll_ofNames_iff (names extra : List String) (key : String) :
    ((ofNames names).addAll extra).knows key = true ↔
      Property.isCustom key = true ∨
        ∃ name, name ∈ names ++ extra ∧ Text.dashed name = Text.dashed key := by
  have together : (ofNames names).addAll extra = empty.addAll (names ++ extra) := by
    rw [ofNames, addAll, addAll, addAll, List.foldl_append]
  have absent : Text.dashed key ∉ empty.names := List.not_mem_nil
  rw [knows, together, Bool.or_eq_true, List.contains_iff_mem, mem_names_addAll_iff,
    or_iff_right absent]

/-- Every name that was given is known as it was given.  Its dash-case form is known
exactly if the name has no digit, or that form begins with two dashes, or another of the
given names has the dash-case form of that form. -/
theorem knows_both_forms_iff {names extra : List String} {name : String}
    (given : name ∈ names ++ extra) :
    let known := (ofNames names).addAll extra
    known.knows name = true ∧
      (known.knows (Text.dashed name) = true ↔
        (forall char, char ∈ name.toList -> char.isDigit = false) ∨
          Property.isCustom (Text.dashed name) = true ∨
          ∃ other, other ∈ names ++ extra ∧ other ≠ name ∧
            Text.dashed other = Text.dashed (Text.dashed name)) := by
  intro known
  refine ⟨(knows_addAll_ofNames_iff _ _ _).mpr (Or.inr ⟨name, given, rfl⟩), ?_⟩
  rw [knows_addAll_ofNames_iff, ← Text.dashed_dashed_iff]
  constructor
  · rintro (custom | ⟨other, present, same⟩)
    · exact Or.inr (Or.inl custom)
    · rcases eq_or_ne other name with rfl | distinct
      · exact Or.inl same.symm
      · exact Or.inr (Or.inr ⟨other, present, distinct, same⟩)
  · rintro (stays | custom | ⟨other, present, _, same⟩)
    · exact Or.inr ⟨name, given, stays.symm⟩
    · exact Or.inl custom
    · exact Or.inr ⟨other, present, same⟩

/-- A name without digits, a name with a digit whose dash-case form is given as well, and
one whose dash-case form is not. -/
theorem heading_is_known_in_one_form :
    let names := ["lineHeight", "grid2", "h3"]
    let extra := ["grid-2"]
    let known := (ofNames names).addAll extra
    ("lineHeight" ∈ names ++ extra ∧ known.knows "line-height" = true) ∧
      ("grid2" ∈ names ++ extra ∧ known.knows "grid-2" = true) ∧
      ("h3" ∈ names ++ extra ∧ known.knows "h3" = true ∧ ¬ known.knows "h-3" = true) := by
  intro names extra known
  have lineHeight : "lineHeight" ∈ names ++ extra := by decide +kernel
  have grid : "grid2" ∈ names ++ extra := by decide +kernel
  have heading : "h3" ∈ names ++ extra := by decide +kernel
  have lineHeightForms := knows_both_forms_iff lineHeight
  have gridForms := knows_both_forms_iff grid
  have headingForms := knows_both_forms_iff heading
  rw [show Text.dashed "lineHeight" = "line-height" by decide +kernel] at lineHeightForms
  rw [show Text.dashed "grid2" = "grid-2" by decide +kernel] at gridForms
  rw [show Text.dashed "h3" = "h-3" by decide +kernel] at headingForms
  have letters : ("lineHeight".toList.all fun char => !char.isDigit) = true := by decide +kernel
  have noDigit : forall char, char ∈ "lineHeight".toList -> char.isDigit = false :=
    fun char member => (Bool.not_eq_true' _).mp (List.all_eq_true.mp letters char member)
  refine ⟨⟨lineHeight, lineHeightForms.2.mpr (Or.inl noDigit)⟩,
    ⟨grid, gridForms.2.mpr (Or.inr (Or.inr ⟨"grid-2", by decide +kernel⟩))⟩,
    heading, headingForms.1, fun recognised => ?_⟩
  rcases headingForms.2.mp recognised with letters | custom | another
  · exact absurd (letters '3' (by decide +kernel)) (by decide)
  · exact absurd custom (by decide +kernel)
  · exact absurd another (by decide +kernel)

/-- A name with a digit is given, and its dash-case form is not known. -/
theorem numbered_name_is_unknown_in_dash_case :
    "grid2" ∈ ["grid2"] ∧
      ((ofNames ["grid2"]).addAll []).knows (Text.dashed "grid2") = false := by
  decide +kernel

end PropertySet
end ThemedStyles
