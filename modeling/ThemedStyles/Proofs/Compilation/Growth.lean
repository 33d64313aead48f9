import ThemedStyles.Proofs.Compilation.Registration
import ThemedStyles.Proofs.Text.Words

namespace ThemedStyles

/-!
# Classes that only grow

Forgetting and invalidating take compiled selectors away, and keys are compiled
again under many scopes.  None of this reaches the classes: a key is registered
once, with the class of its own name, and its place in the table stays.

So a phrase that can be cast once can be cast ever after, to the same text.  The
class of an identifier is an identifier itself and therefore one word; the words
of the text are the classes of the words of the phrase, in order.
-/

namespace Key

theorem className?_eq_some_iff {key name : String} :
    className? key = some name ↔ isIdentifier key.toList = true ∧ name = Text.dashed key := by
  unfold className?
  split
  · rename_i identifier
    rw [Option.some.injEq]
    exact ⟨fun same => ⟨identifier, same.symm⟩, fun both => both.2.symm⟩
  · rename_i other
    exact iff_of_false nofun fun both => other both.1

theorem dashedChars_ne_nil {key : List Char} (nonempty : key ≠ []) :
    Text.dashedChars key ≠ [] := by
  have parted : forall text : List Char, text ≠ [] -> Text.partDigits text ≠ [] := by
    intro text present
    cases text with
    | nil => exact absurd rfl present
    | cons char rest =>
        rw [Text.partDigits]
        split <;> exact List.cons_ne_nil _ _
  apply parted
  cases key with
  | nil => exact absurd rfl nonempty
  | cons char rest =>
      rw [Text.openRuns]
      split
      · exact List.cons_ne_nil _ _
      · exact List.cons_ne_nil _ _

/-- The class of an identifier is one word. -/
theorem words_dashed {key : String} (identifier : isIdentifier key.toList = true) :
    Text.words (Text.dashed key) = [Text.dashed key] := by
  have chars : (Text.dashed key).toList = Text.dashedChars key.toList := String.toList_ofList
  apply Text.words_eq_singleton
  · rw [chars]
    exact dashedChars_ne_nil (ne_nil_of_isIdentifier identifier)
  · intro char member
    rw [chars] at member
    exact isBlank_of_inIdentifier (inIdentifier_dashedChars identifier member)

end Key

namespace ClassTable

/-! ## Casting a phrase -/

theorem class?_ne_none_iff (table : ClassTable) (key : String) :
    table.class? key ≠ none ↔ key ∈ table.names.keys := by
  rw [← Entries.get?_isSome_iff, Option.isSome_iff_ne_none]
  rfl

theorem cast_eq_ok_iff (table : ClassTable) (phrase text : String) :
    table.cast phrase = .ok text ↔
      ∃ names : List String, (Text.words phrase).map table.class? = names.map some ∧
        " ".intercalate names = text := by
  simp only [← castWords_eq_ok_iff]
  exact Error.map_eq_ok_iff

theorem cast_eq_error_iff (table : ClassTable) (phrase : String) (error : Error) :
    table.cast phrase = .error error ↔
      ∃ before word after, Text.words phrase = before ++ word :: after ∧
        (forall other, other ∈ before -> other ∈ table.names.keys) ∧
        word ∉ table.names.keys ∧ error = .unknownToken word := by
  rw [cast, Error.map_eq_error_iff, castWords_eq_error_iff]
  simp only [← class?_ne_none_iff, not_not]

theorem exists_class_of_mem {table : ClassTable} {words names : List String}
    (classes : words.map table.class? = names.map some) {word : String} (member : word ∈ words) :
    ∃ name, table.class? word = some name := by
  have found : table.class? word ∈ names.map some := classes ▸ List.mem_map_of_mem member
  rcases List.mem_map.mp found with ⟨name, _, same⟩
  exact ⟨name, same.symm⟩

/-- A phrase can be cast exactly if all its words are registered. -/
theorem exists_cast_eq_ok_iff (table : ClassTable) (phrase : String) :
    (∃ text, table.cast phrase = .ok text) ↔
      forall word, word ∈ Text.words phrase -> word ∈ table.names.keys := by
  constructor
  · rintro ⟨text, casts⟩ word member
    rcases (table.cast_eq_ok_iff phrase text).mp casts with ⟨names, classes, _⟩
    rcases exists_class_of_mem classes member with ⟨name, found⟩
    rw [← class?_ne_none_iff, found]
    exact Option.some_ne_none name
  · intro registered
    cases outcome : table.cast phrase with
    | ok text => exact ⟨text, rfl⟩
    | error error =>
        rcases (table.cast_eq_error_iff phrase error).mp outcome with
          ⟨before, word, after, split, _, missing, _⟩
        exact absurd (registered word (by simp [split])) missing

/-! ## What a later table keeps -/

/-- Every key is registered with its own class. -/
def WellNamed (table : ClassTable) : Prop :=
  forall key name, (key, name) ∈ table.names -> Key.className? key = some name

/-- A table lists the pairs of an earlier one first, and its keys have their own
classes if those of the earlier one do. -/
structure Extends (earlier later : ClassTable) : Prop where
  order : earlier.names <+: later.names
  named : earlier.WellNamed -> later.WellNamed

namespace Extends

variable {earlier middle later : ClassTable}

theorem of_names_eq (same : later.names = earlier.names) : earlier.Extends later where
  order := same ▸ List.prefix_rfl
  named wellNamed key name member := wellNamed key name (same ▸ member)

theorem refl (table : ClassTable) : table.Extends table := of_names_eq rfl

theorem trans (first : earlier.Extends middle) (second : middle.Extends later) :
    earlier.Extends later where
  order := first.order.trans second.order
  named wellNamed := second.named (first.named wellNamed)

theorem registerKey (table : ClassTable) (key : String) :
    table.Extends (table.registerKey key) := by
  rcases table.names_registerKey key with same | ⟨name, own, added⟩
  · exact of_names_eq same
  · refine ⟨added ▸ List.prefix_append _ _, fun wellNamed other another member => ?_⟩
    rw [added, List.mem_append, List.mem_singleton] at member
    rcases member with old | new
    · exact wellNamed other another old
    · cases new
      exact own

theorem registerKeys (table : ClassTable) (keys : List String) :
    table.Extends (keys.foldl ClassTable.registerKey table) :=
  List.foldlRecOn keys ClassTable.registerKey (.refl table) fun _ extended key _ =>
    extended.trans (registerKey _ key)

end Extends

/-- What can be relied on of the classes of a table, then and later. -/
structure Settles (earlier later : ClassTable) : Prop where
  /-- Every key is an identifier and has the class of its name. -/
  named : forall key name, (key, name) ∈ earlier.names ->
    Key.isIdentifier key.toList = true ∧ name = Text.dashed key
  /-- The pairs stay, in their order. -/
  order : earlier.names <+: later.names
  /-- A phrase can be cast exactly if all its words are registered. -/
  castable : forall phrase, (∃ text, earlier.cast phrase = .ok text) ↔
    forall word, word ∈ Text.words phrase -> word ∈ earlier.names.keys
  /-- Otherwise the answer is the first word that is not registered. -/
  unknown : forall phrase error, earlier.cast phrase = .error error ↔
    ∃ before word after, Text.words phrase = before ++ word :: after ∧
      (forall other, other ∈ before -> other ∈ earlier.names.keys) ∧
      word ∉ earlier.names.keys ∧ error = .unknownToken word
  /-- A text that was cast stays, and its words are the classes of the words. -/
  kept : forall phrase text, earlier.cast phrase = .ok text ->
    later.cast phrase = .ok text ∧
      (Text.words phrase).map earlier.class? = (Text.words text).map some

theorem class?_of_extends {earlier later : ClassTable} (extended : earlier.Extends later)
    {key name : String} (found : earlier.class? key = some name) :
    later.class? key = some name := by
  rcases extended.order with ⟨added, split⟩
  rw [class?] at found
  simp [class?, ← split, found]

/-- The classes of words, joined with a space between them, are words again. -/
theorem WellNamed.words_of_classes {table : ClassTable} (wellNamed : table.WellNamed)
    {words names : List String} (classes : words.map table.class? = names.map some) :
    Text.words (" ".intercalate names) = names := by
  apply Text.words_intercalate
  intro name member
  have found : some name ∈ words.map table.class? := classes ▸ List.mem_map_of_mem member
  rcases List.mem_map.mp found with ⟨key, _, present⟩
  have own := wellNamed key name (Entries.mem_of_get?_eq_some present)
  rcases Key.className?_eq_some_iff.mp own with ⟨identifier, rfl⟩
  exact Key.words_dashed identifier

theorem Extends.settles {earlier later : ClassTable} (extended : earlier.Extends later)
    (wellNamed : earlier.WellNamed) : earlier.Settles later where
  named key name member := Key.className?_eq_some_iff.mp (wellNamed key name member)
  order := extended.order
  castable := earlier.exists_cast_eq_ok_iff
  unknown := earlier.cast_eq_error_iff
  kept phrase text casts := by
    rcases (earlier.cast_eq_ok_iff phrase text).mp casts with ⟨names, classes, rfl⟩
    refine ⟨(later.cast_eq_ok_iff phrase _).mpr ⟨names, ?_, rfl⟩, ?_⟩
    · rw [← classes]
      apply List.map_congr_left
      intro word member
      rcases exists_class_of_mem classes member with ⟨name, found⟩
      rw [found, class?_of_extends extended found]
    · rw [wellNamed.words_of_classes classes, classes]

end ClassTable

namespace Compiler

/-! ## Every call extends the classes -/

theorem extends_compile (compiler : Compiler) (book : Book) (scope : String) :
    compiler.classes.Extends (compiler.compile book scope).1.classes :=
  (ClassTable.Extends.registerKeys _ _).trans
    (.of_names_eq (compiler.compile_names book scope))

theorem extends_compileBag (compiler : Compiler) (bag : Entries Book) :
    compiler.classes.Extends (compiler.compileBag bag).classes := by
  induction bag generalizing compiler with
  | nil => exact .refl _
  | cons entry rest inductionHypothesis =>
      exact (compiler.extends_compile entry.2 entry.1).trans (inductionHypothesis _)

theorem extends_perform (compiler : Compiler) (call : Call) :
    compiler.classes.Extends (compiler.perform call).classes := by
  cases call with
  | compile book scope => exact compiler.extends_compile book scope
  | compileBag bag => exact compiler.extends_compileBag bag
  | forget selectors => exact .of_names_eq (compiler.classes.names_forget selectors)

theorem extends_run (compiler : Compiler) (calls : List Call) :
    compiler.classes.Extends (compiler.run calls).classes := by
  induction calls generalizing compiler with
  | nil => exact .refl _
  | cons call rest inductionHypothesis =>
      exact (compiler.extends_perform call).trans (inductionHypothesis _)

/-- The classes of a new compiler are settled from any moment of a run on. -/
theorem settles_run (known : PropertySet) (calls more : List Call) :
    ((Compiler.new known).run calls).classes.Settles
      (((Compiler.new known).run calls).run more).classes := by
  have empty : (Compiler.new known).classes.WellNamed :=
    fun _ _ member => absurd member List.not_mem_nil
  have wellNamed := ((Compiler.new known).extends_run calls).named empty
  exact (((Compiler.new known).run calls).extends_run more).settles wellNamed

end Compiler
end ThemedStyles
