import ThemedStyles.Generator.Standard
import ThemedStyles.Proofs.Drawing.Leaves

namespace ThemedStyles
namespace Generator

/-!
# Families of the standard themed book

The standard book is made of fixed entries and of families of classes, one class for
each step of a scale.  The labels of steps may come from anywhere, so a label may come
again, and keys of one family may be keys of another family or fixed ones: a step with
the label `HorizontalX` is a class of padding under the same key as a step with the
label `X` is one of horizontal padding.

Whatever the labels are, a key belongs to the last family that has it, and there to the
last step with its label, for a stem leaves only one label to complete a key.  Fixed
entries stay where no family has their key.
-/

/-- Classes that set the same properties, one for each step. -/
structure Family where
  /-- What all the keys begin with. -/
  stem : String
  properties : List String
  steps : List (String × String)
  distinct : properties.Nodup := by decide

/-- The families of the standard book, in the order in which they are drawn. -/
def families (spacing sizes colours : List (String × String)) : List Family :=
  [{ stem := "pad", properties := ["padding"], steps := spacing },
   { stem := "padHorizontal", properties := ["paddingLeft", "paddingRight"], steps := spacing },
   { stem := "padVertical", properties := ["paddingTop", "paddingBottom"], steps := spacing },
   { stem := "margin", properties := ["margin"], steps := spacing },
   { stem := "gap", properties := ["gap"], steps := spacing },
   { stem := "fontSize", properties := ["fontSize"], steps := sizes },
   { stem := "color", properties := ["color"], steps := colours },
   { stem := "background", properties := ["backgroundColor"], steps := colours }]

namespace Family

/-- A family gives a key the value of the last step whose label completes it.  No key is
completed by the label `*`. -/
def Gives (family : Family) (key value : String) : Prop :=
  ∃ before label after, family.steps = before ++ (label, value) :: after ∧
    label ∉ Entries.keys after ∧ label ≠ "*" ∧ key = family.stem ++ label

/-- The body that sets all properties of a family to a value. -/
def body (family : Family) (value : String) : Book :=
  family.properties.map fun property => (property, .text value)

/-- The classes of a family. -/
def book (family : Family) : Book :=
  Drawing.draw family.stem (stepTable family.steps) (.many family.properties)

variable {family : Family}

/-- Families have only keys that begin with their stems. -/
theorem not_gives_of_stems {drawn : List Family} {key : String}
    (away : forall stem, stem ∈ drawn.map Family.stem ->
      stem.toList.isPrefixOf key.toList = false) :
    forall family, family ∈ drawn -> forall value, ¬ family.Gives key value := by
  rintro family member value ⟨_, label, _, _, _, _, rfl⟩
  have begins : family.stem.toList.isPrefixOf (family.stem ++ label).toList = true := by
    rw [List.isPrefixOf_iff_prefix, String.toList_append]
    exact List.prefix_append _ _
  exact Bool.false_ne_true ((away _ (List.mem_map_of_mem member)).symm.trans begins)

theorem exists_text_of_mem_stepTable {steps : List (String × String)} {entry : String × Value}
    (member : entry ∈ stepTable steps) : ∃ value, entry.2 = .text value := by
  rcases List.mem_map.mp (Entries.mem_of_mem_ofPairs member) with ⟨step, _, rfl⟩
  exact ⟨step.2, rfl⟩

theorem shared_stepTable (steps : List (String × String)) :
    Drawing.shared (stepTable steps) = [] := by
  rw [Drawing.shared]
  cases found : (stepTable steps).get? Drawing.sharedSuffix with
  | none => rfl
  | some value =>
      obtain ⟨text, rfl⟩ : ∃ text, value = .text text :=
        exists_text_of_mem_stepTable (Entries.mem_of_get?_eq_some found)
      rfl

theorem assigned_eq_body (value : String) :
    Drawing.assigned family.stem (.many family.properties) (stepTable family.steps)
      (.text value) = family.body value := by
  have once : Entries.keys (family.body value) = family.properties := by
    rw [body, Entries.keys, List.map_map]
    exact List.map_id _
  calc Drawing.assigned family.stem (.many family.properties) (stepTable family.steps) (.text value)
      = family.properties.foldl (fun body name => Entries.put body name (.text value)) [] := by
        rw [Drawing.assigned, Drawing.withShared, shared_stepTable]
        rfl
    _ = Entries.ofPairs (family.body value) := by
        rw [body, Entries.ofPairs, Entries.putAll, List.foldl_map]
    _ = family.body value := Entries.ofPairs_of_nodup (once ▸ family.distinct)

theorem nodup_keys_book (family : Family) : family.book.keys.Nodup := by
  rw [book, Drawing.draw_eq]
  simp

/-- The drawn classes, one for each label. -/
theorem book_eq (family : Family) :
    family.book = ((stepTable family.steps).filter Drawing.isDrawn).map fun entry =>
      (family.stem ++ entry.1, .book (Drawing.assigned family.stem (.many family.properties)
        (stepTable family.steps) entry.2)) := by
  have labels : (((stepTable family.steps).filter Drawing.isDrawn).map Prod.fst).Nodup :=
    (Entries.nodup_keys_ofPairs _).sublist (List.filter_sublist.map Prod.fst)
  rw [book, Drawing.draw_eq]
  refine (congrArg Entries.ofPairs List.map_eq_flatMap.symm).trans ?_
  apply Entries.ofPairs_of_nodup
  rw [Entries.keys, List.map_map]
  apply List.pairwise_map.mpr
  apply (List.pairwise_map.mp labels).imp
  exact fun different same => different ((String.append_right_inj family.stem).mp same)

theorem exists_drawn_of_gives {key value : String} (gives : family.Gives key value) :
    ∃ label, (label, .text value) ∈ (stepTable family.steps).filter Drawing.isDrawn ∧
      key = family.stem ++ label := by
  rcases gives with ⟨before, label, after, split, last, other, completed⟩
  have away : label ∉ Entries.keys (after.map fun step => (step.1, Value.text step.2)) := by
    rw [Entries.keys, List.map_map]
    exact last
  have found : (stepTable family.steps).get? label = some (.text value) := by
    rw [stepTable, split, List.map_append, List.map_cons]
    exact Entries.get?_ofPairs_of_last away
  refine ⟨label, List.mem_filter.mpr ⟨Entries.mem_of_get?_eq_some found, ?_⟩, completed⟩
  rw [Drawing.isDrawn, Bool.and_eq_true, bne_iff_ne]
  exact ⟨other, rfl⟩

theorem get?_book {key value : String} (gives : family.Gives key value) :
    family.book.get? key = some (.book (family.body value)) := by
  rcases exists_drawn_of_gives gives with ⟨label, drawn, rfl⟩
  apply Entries.get?_of_mem family.nodup_keys_book
  rw [book_eq]
  refine List.mem_map.mpr ⟨(label, .text value), drawn, ?_⟩
  rw [assigned_eq_body]

theorem mem_keys_book_iff {family : Family} {key : String} :
    key ∈ family.book.keys ↔ ∃ value, family.Gives key value := by
  rw [book_eq, Entries.keys, List.map_map, List.mem_map]
  constructor
  · rintro ⟨entry, member, rfl⟩
    rcases List.mem_filter.mp member with ⟨listed, drawn⟩
    have label : entry.1 ∈ Entries.keys family.steps := by
      rcases List.mem_map.mp (Entries.mem_of_mem_ofPairs listed) with ⟨step, present, rfl⟩
      exact List.mem_map_of_mem present
    rcases Entries.exists_last_of_mem_keys label with ⟨before, value, after, split, last⟩
    rw [Drawing.isDrawn, Bool.and_eq_true, bne_iff_ne] at drawn
    exact ⟨value, before, entry.1, after, split, last, drawn.1, rfl⟩
  · rintro ⟨value, gives⟩
    rcases exists_drawn_of_gives gives with ⟨label, drawn, rfl⟩
    exact ⟨(label, .text value), drawn, rfl⟩

end Family

/-! ## The standard book -/

section Standard

variable {theme : Theme} {name : String} {spacing sizes colours : List (String × String)}

/-- The keys of the fixed entries, whatever the theme. -/
theorem keys_fixedEntries (theme : Theme) (name : String) :
    (fixedEntries theme name).keys =
      ["paper", "caption", "h3", "h4", "h5", "h6", "subtitle2", "colorPrimary", "colorSecondary",
        "backgroundSuccess", "backgroundWarning", "backgroundError", "backgroundSuccessLight",
        "backgroundWarningLight", "backgroundErrorLight", "borderLeftDivider",
        "borderTopDivider", "colorError", "colorErrorLight"] :=
  rfl

/-- The fixed entries, and then the families one after the other. -/
theorem standardBook_eq (spaced : Octave.allSteps .spacing theme.spacing = .ok spacing)
    (sized : Octave.allSteps .fontSize theme.typography.octaves = .ok sizes)
    (coloured : Octave.allSteps .colour theme.palette.octaves = .ok colours) :
    standardBook theme name = .ok ((fixedEntries theme name).putAll
      ((families spacing sizes colours).flatMap Family.book)) := by
  rw [← Entries.foldl_putAll, standardBook, spaced, sized, coloured]
  rfl

theorem mem_keys_families {drawn : List Family} {key : String} :
    key ∈ Entries.keys (drawn.flatMap Family.book) ↔
      ∃ family, family ∈ drawn ∧ key ∈ family.book.keys := by
  rw [Entries.keys, List.map_flatMap, List.mem_flatMap]
  rfl

end Standard

/-- Where the three lists of octaves of a theme can be evaluated, there is a standard book.
It has a class for each step of each family but for the steps with the label `*`.  A key
of some family has the body of the last family with that key, which sets the properties to
the value of the last step with that label, and all other keys are those of fixed entries
with their bodies. -/
theorem standardBook_of_families {theme : Theme} (name : String)
    {spacing sizes colours : List (String × String)}
    (spaced : Octave.allSteps .spacing theme.spacing = .ok spacing)
    (sized : Octave.allSteps .fontSize theme.typography.octaves = .ok sizes)
    (coloured : Octave.allSteps .colour theme.palette.octaves = .ok colours) :
    ∃ book, standard.generate theme name = .ok book ∧ book.keys.Nodup ∧
      (forall family, family ∈ families spacing sizes colours ->
        forall step, step ∈ family.steps -> step.1 ≠ "*" -> family.stem ++ step.1 ∈ book.keys) ∧
      (forall before family after key value,
        families spacing sizes colours = before ++ family :: after -> family.Gives key value ->
        (forall later, later ∈ after -> forall other, ¬ later.Gives key other) ->
        book.get? key = some (.book (family.body value))) ∧
      forall key, key ∈ book.keys ->
        (forall family, family ∈ families spacing sizes colours ->
          forall value, ¬ family.Gives key value) ->
        key ∈ (fixedEntries theme name).keys ∧
          book.get? key = (fixedEntries theme name).get? key := by
  refine ⟨_, standardBook_eq spaced sized coloured, ?distinct, ?classes, ?bodies, ?fixed⟩
  case distinct =>
    apply Entries.nodup_keys_putAll
    rw [keys_fixedEntries]
    decide
  case classes =>
    intro family member step listed other
    have label : step.1 ∈ Entries.keys family.steps := List.mem_map_of_mem listed
    rcases Entries.exists_last_of_mem_keys label with ⟨before, value, after, split, last⟩
    have given : family.stem ++ step.1 ∈ family.book.keys :=
      Family.mem_keys_book_iff.mpr ⟨value, before, step.1, after, split, last, other, rfl⟩
    rw [Entries.mem_keys_putAll]
    exact Or.inr (mem_keys_families.mpr ⟨family, member, given⟩)
  case bodies =>
    intro before family after key value split gives last
    have away : key ∉ Entries.keys (after.flatMap Family.book) := by
      rw [mem_keys_families]
      rintro ⟨later, member, given⟩
      rcases Family.mem_keys_book_iff.mp given with ⟨other, gives⟩
      exact last later member other gives
    rw [split, List.flatMap_append, List.flatMap_cons, Entries.putAll_append,
      Entries.putAll_append, Entries.get?_putAll_of_not_mem _ away]
    exact Entries.get?_putAll_of_get? _ family.nodup_keys_book (Family.get?_book gives)
  case fixed =>
    intro key present ungiven
    have away : key ∉ Entries.keys ((families spacing sizes colours).flatMap Family.book) := by
      rw [mem_keys_families]
      rintro ⟨family, member, given⟩
      rcases Family.mem_keys_book_iff.mp given with ⟨value, gives⟩
      exact ungiven family member value gives
    exact ⟨((Entries.mem_keys_putAll _ _ _).mp present).resolve_right away,
      Entries.get?_putAll_of_not_mem _ away⟩

/-- Steps of spacing whose padding and horizontal padding have one key, and a colour under
the key of a fixed entry. -/
theorem horizontal_padding_before_padding :
    let octave (steps : List (String × String)) : Octave :=
      ⟨some ⟨0, fun index => steps[index]?.getD ("", "")⟩, none, some steps.length⟩
    let spacing := [("X", "1px"), ("HorizontalX", "2px"), ("X", "3px")]
    let theme : Theme :=
      { Theme.light with
        spacing := [octave spacing]
        palette := { Theme.light.palette with octaves := [octave [("Primary", "red")]] } }
    Octave.allSteps .spacing theme.spacing = .ok spacing ∧
      Octave.allSteps .fontSize theme.typography.octaves = .ok Scale.fontSize.table ∧
      Octave.allSteps .colour theme.palette.octaves = .ok [("Primary", "red")] ∧
      ∃ book, standard.generate theme "light" = .ok book ∧
        book.get? "padHorizontalX" =
          some (.book [("paddingLeft", "3px"), ("paddingRight", "3px")]) ∧
        book.get? "colorPrimary" = some (.book [("color", "red")]) := by
  intro octave spacing theme
  have spaced : Octave.allSteps .spacing theme.spacing = .ok spacing := rfl
  have sized : Octave.allSteps .fontSize theme.typography.octaves = .ok Scale.fontSize.table := rfl
  have coloured : Octave.allSteps .colour theme.palette.octaves = .ok [("Primary", "red")] := rfl
  obtain ⟨book, generated, _, _, bodies, _⟩ :=
    standardBook_of_families "light" spaced sized coloured
  refine ⟨spaced, sized, coloured, book, generated, ?_, ?_⟩
  · apply bodies [_] _ [_, _, _, _, _, _] "padHorizontalX" "3px" rfl
    · exact ⟨[_, _], "X", [], rfl, by decide, by decide, by decide⟩
    · exact Family.not_gives_of_stems (by decide)
  · apply bodies [_, _, _, _, _, _] _ [_] "colorPrimary" "red" rfl
    · exact ⟨[], "Primary", [], rfl, by decide, by decide, by decide⟩
    · exact Family.not_gives_of_stems (by decide)

end Generator
end ThemedStyles
