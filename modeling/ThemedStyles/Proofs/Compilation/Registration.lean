import ThemedStyles.Proofs.Compilation.History
import ThemedStyles.Proofs.Selectors.Identifiers

namespace ThemedStyles

/-!
# Which keys have a class

A compiler registers the class of a key at the moment at which it compiles an
entry with that key.  An entry that is passed over, because its selector is
compiled already, registers nothing.  That loses no class as long as a selector
stands for one key; but different keys can denote one selector.  The keys
`padSmall`, `pad-small` and `!pad-small` all do under one scope, and of these
only the one that comes first is compiled.

So the classes of a compiler are those of the identifiers under which something
was fresh, no matter what was forgotten since.  An identifier with a body in a
compiled book that has no class has lost it to another key with its selector.
-/

/-- A past in which a candidate with the key was fresh when it came up. -/
def Registered (past : List Event) (key : String) : Prop :=
  ∃ before candidate after, past = before ++ .offered candidate :: after ∧
    Fresh before candidate.selector ∧ candidate.key = key

theorem not_registered_nil (key : String) : ¬ Registered [] key := by
  rintro ⟨before, candidate, after, split, _⟩
  simp at split

theorem registered_append_singleton (past : List Event) (event : Event) (key : String) :
    Registered (past ++ [event]) key ↔
      Registered past key ∨
        ∃ candidate, event = .offered candidate ∧ Fresh past candidate.selector ∧
          candidate.key = key := by
  constructor
  · rintro ⟨before, candidate, after, split, fresh, same⟩
    rcases Runs.split_append_singleton split with ⟨past_eq, last, _⟩ | ⟨rest, past_eq, _⟩
    · exact Or.inr ⟨candidate, last, past_eq ▸ fresh, same⟩
    · exact Or.inl ⟨before, candidate, rest, past_eq, fresh, same⟩
  · rintro (⟨before, candidate, after, split, fresh, same⟩ | ⟨candidate, last, fresh, same⟩)
    · exact ⟨before, candidate, after ++ [event], by simp [split], fresh, same⟩
    · exact ⟨past, candidate, [], by rw [last], fresh, same⟩

/-- Candidates that come up register the keys of those that are fresh then. -/
theorem registered_append_offered (past : List Event) (candidates : List Candidate)
    (key : String) :
    Registered (past ++ candidates.map .offered) key ↔
      Registered past key ∨ key ∈ (freshAfter past candidates).map Candidate.key := by
  induction candidates generalizing past with
  | nil => simp [freshAfter]
  | cons candidate rest inductionHypothesis =>
      have first : Registered (past ++ [.offered candidate]) key ↔
          Registered past key ∨ Fresh past candidate.selector ∧ candidate.key = key := by
        rw [registered_append_singleton]
        simp
      have later := inductionHypothesis (past ++ [.offered candidate])
      rw [List.append_assoc, List.singleton_append, first] at later
      rw [List.map_cons, later, freshAfter, or_assoc]
      apply or_congr_right
      split
      · rename_i fresh
        rw [List.map_cons, List.mem_cons]
        exact or_congr_left ⟨fun both => both.2.symm, fun same => ⟨fresh, same.symm⟩⟩
      · rename_i stale
        exact or_iff_right fun both => stale both.1

theorem registered_append_forgotten (past : List Event) (selectors : List String) (key : String) :
    Registered (past ++ [.forgotten selectors]) key ↔ Registered past key := by
  rw [registered_append_singleton]
  simp

/-- A candidate whose key is not registered was stale when it came up, and a
candidate with another key has made it so. -/
theorem exists_rival_of_not_registered {past before after : List Event} {candidate : Candidate}
    (split : past = before ++ .offered candidate :: after)
    (missing : ¬ Registered past candidate.key) :
    ∃ earlier rival later, past = earlier ++ .offered rival :: later ∧
      Fresh earlier rival.selector ∧ rival.selector = candidate.selector ∧
      rival.key ≠ candidate.key := by
  have stale : ¬ Fresh before candidate.selector := fun fresh =>
    missing ⟨before, candidate, after, split, fresh, rfl⟩
  rw [Fresh] at stale
  push Not at stale
  rcases stale with ⟨earlier, rival, later, before_eq, same, fresh, _⟩
  have whole : past = earlier ++ .offered rival :: (later ++ .offered candidate :: after) := by
    rw [split, before_eq, List.append_assoc, List.cons_append]
  refine ⟨earlier, rival, _, whole, same ▸ fresh, same, fun equal => missing ?_⟩
  exact ⟨earlier, rival, _, whole, same ▸ fresh, equal⟩

/-- The same of the key of a body in a book whose candidates have come up. -/
theorem exists_rival_of_body {past : List Event} {book : Book} {scope key : String} {body : Book}
    (listed : (key, Value.book body) ∈ book)
    (missing : ¬ Registered (past ++ (book.candidates scope).map .offered) key) :
    ∃ earlier rival later,
      past ++ (book.candidates scope).map .offered = earlier ++ .offered rival :: later ∧
      Fresh earlier rival.selector ∧ rival.selector = Key.selector key scope ∧
      rival.key ≠ key := by
  obtain ⟨candidate, present, rfl, selector_eq⟩ : ∃ candidate, candidate ∈ book.candidates scope ∧
      candidate.key = key ∧ candidate.selector = Key.selector key scope :=
    ⟨⟨key, scope, body⟩, List.mem_filterMap.mpr ⟨(key, .book body), listed, rfl⟩, rfl, rfl⟩
  rcases List.append_of_mem present with ⟨before, after, split⟩
  have place : past ++ (book.candidates scope).map .offered =
      (past ++ before.map .offered) ++ .offered candidate :: after.map .offered := by
    rw [split, List.map_append, List.map_cons, List.append_assoc]
  rw [← selector_eq]
  exact exists_rival_of_not_registered place missing

/-! ## The classes that a compilation registers -/

namespace Batch

theorem foldl_take_names (known : PropertySet) (compiled : List Candidate) (batch : Batch) :
    (compiled.foldl (take known) batch).classes.names =
      ((compiled.map Candidate.key).foldl ClassTable.registerKey batch.classes).names := by
  have congruent : forall (keys : List String) (table other : ClassTable),
      table.names = other.names ->
      (keys.foldl ClassTable.registerKey table).names =
        (keys.foldl ClassTable.registerKey other).names := by
    intro keys
    induction keys with
    | nil => exact fun _ _ same => same
    | cons key rest inductionHypothesis =>
        intro table other same
        exact inductionHypothesis _ _ (ClassTable.names_registerKey_congr same key)
  induction compiled generalizing batch with
  | nil => rfl
  | cons candidate rest inductionHypothesis =>
      rw [List.foldl_cons, inductionHypothesis, List.map_cons, List.foldl_cons]
      apply congruent
      exact ClassTable.names_registerKey_congr (ClassTable.names_mark _ _) candidate.key

end Batch

namespace Compiler

/-- The keys of the newcomers are registered, in their order. -/
theorem compile_names (compiler : Compiler) (book : Book) (scope : String) :
    (compiler.compile book scope).1.classes.names =
      (((compiler.newcomers book scope).map Candidate.key).foldl
        ClassTable.registerKey compiler.classes).names := by
  rw [compile_classes, batch_eq]
  exact Batch.foldl_take_names compiler.properties _ ⟨"", [], compiler.classes⟩

/-- A key keeps the class that it has, and the key of a newcomer gets its own. -/
theorem compile_class? (compiler : Compiler) (book : Book) (scope key : String) :
    (compiler.compile book scope).1.classes.class? key =
      (compiler.classes.class? key).or
        (if key ∈ (compiler.newcomers book scope).map Candidate.key
          then Key.className? key else none) := by
  have names := compiler.compile_names book scope
  rw [← ClassTable.class?_foldl_registerKey]
  exact congrArg (Entries.get? · key) names

/-- A compiler whose classes are those that a past has registered. -/
def Names (compiler : Compiler) (past : List Event) : Prop :=
  forall key name, compiler.classes.class? key = some name ↔
    Registered past key ∧ Key.className? key = some name

namespace Names

variable {compiler : Compiler} {past : List Event}

theorem new (known : PropertySet) : (Compiler.new known).Names [] := by
  intro key name
  constructor
  · intro impossible
    cases impossible
  · exact fun both => absurd both.1 (not_registered_nil key)

theorem compile (names : compiler.Names past) (records : compiler.Records past) (book : Book)
    (scope : String) :
    (compiler.compile book scope).1.Names (past ++ (book.candidates scope).map .offered) := by
  intro key name
  rw [compile_class?, registered_append_offered, records.newcomers_eq, Option.or_eq_some_iff,
    names key name]
  cases old : compiler.classes.class? key with
  | some kept =>
      have registered := (names key kept).mp old
      simp [registered.1]
  | none =>
      have unnamed : Registered past key -> Key.className? key = none := by
        intro registered
        cases own : Key.className? key with
        | none => rfl
        | some other =>
            rw [(names key other).mpr ⟨registered, own⟩] at old
            cases old
      by_cases fresh : key ∈ (freshAfter past (book.candidates scope)).map Candidate.key
      · simp only [fresh, if_true, or_true, true_and]
        exact or_iff_right_of_imp And.right
      · simp [fresh]

theorem compileBag (names : compiler.Names past) (records : compiler.Records past)
    (bag : Entries Book) :
    (compiler.compileBag bag).Names (past ++ (Call.compileBag bag).events) := by
  induction bag generalizing compiler past with
  | nil => simpa [Compiler.compileBag, Call.events] using names
  | cons entry rest inductionHypothesis =>
      have later := inductionHypothesis (names.compile records entry.2 entry.1)
        (records.compile entry.2 entry.1)
      rw [List.append_assoc] at later
      exact later

theorem forget (names : compiler.Names past) (records : compiler.Records past)
    (selectors : List String) :
    (compiler.forget selectors).1.Names (past ++ [.forgotten selectors]) := by
  have distinct : compiler.classes.compiled.Nodup := records ▸ Event.nodup_marksAfter past
  have kept : (compiler.forget selectors).1.classes.names = compiler.classes.names := by
    change (compiler.classes.forget selectors).1.names = _
    rw [ClassTable.forget_fst _ _ distinct]
  intro key name
  rw [registered_append_forgotten, ← names key name, ClassTable.class?, kept]
  rfl

theorem perform (names : compiler.Names past) (records : compiler.Records past) (call : Call) :
    (compiler.perform call).Names (past ++ call.events) := by
  cases call with
  | compile book scope => exact names.compile records book scope
  | compileBag bag => exact names.compileBag records bag
  | forget selectors => exact names.forget records selectors

theorem run (names : compiler.Names past) (records : compiler.Records past)
    (calls : List Call) : (compiler.run calls).Names (past ++ calls.flatMap Call.events) := by
  induction calls generalizing compiler past with
  | nil => simpa [Compiler.run] using names
  | cons call rest inductionHypothesis =>
      have later := inductionHypothesis (names.perform records call) (records.perform call)
      rw [List.append_assoc] at later
      exact later

/-- The class of an identifier can be asked for exactly if the past has
registered it. -/
theorem cast_of_registered (names : compiler.Names past) {key : String}
    (identifier : Key.isIdentifier key.toList = true) (registered : Registered past key) :
    compiler.classes.class? key = some (Text.dashed key) ∧
      compiler.classes.cast key = .ok (Text.dashed key) := by
  have present : compiler.classes.class? key = some (Text.dashed key) :=
    (names key _).mpr ⟨registered, if_pos identifier⟩
  rw [ClassTable.cast_of_words (Key.words_of_isIdentifier identifier), present]
  exact ⟨rfl, rfl⟩

theorem cast_of_not_registered (names : compiler.Names past) {key : String}
    (identifier : Key.isIdentifier key.toList = true) (missing : ¬ Registered past key) :
    compiler.classes.class? key = none ∧
      compiler.classes.cast key = .error (.unknownToken key) := by
  have absent : compiler.classes.class? key = none :=
    Option.eq_none_iff_forall_ne_some.mpr fun name present =>
      missing ((names key name).mp present).1
  rw [ClassTable.cast_of_words (Key.words_of_isIdentifier identifier), absent]
  exact ⟨rfl, rfl⟩

end Names

/-- After a book has been compiled, an identifier has its class, and can be
cast, exactly if some entry with that key was fresh when it came up, in this
book or at any time before.  Where that fails for the key of a body of the book,
an entry with another key had been compiled to its selector. -/
theorem cast_iff_compiled_under_key (known : PropertySet) (calls : List Call) (book : Book)
    (scope key : String) (identifier : Key.isIdentifier key.toList = true) :
    let classes := (((Compiler.new known).run calls).compile book scope).1.classes
    let past := calls.flatMap Call.events ++ (book.candidates scope).map .offered
    (Registered past key ->
      classes.class? key = some (Text.dashed key) ∧ classes.cast key = .ok (Text.dashed key)) ∧
    (¬ Registered past key ->
      (classes.class? key = none ∧ classes.cast key = .error (.unknownToken key)) ∧
      forall body, (key, Value.book body) ∈ book ->
        ∃ earlier rival later, past = earlier ++ .offered rival :: later ∧
          Fresh earlier rival.selector ∧ rival.selector = Key.selector key scope ∧
          rival.key ≠ key) := by
  intro classes past
  have records := (Records.new known).run calls
  have names := ((Names.new known).run (Records.new known) calls).compile records book scope
  constructor
  · intro registered
    exact names.cast_of_registered identifier registered
  · intro missing
    exact ⟨names.cast_of_not_registered identifier missing,
      fun body listed => exists_rival_of_body listed missing⟩

/-- A raw class that was compiled and forgotten leaves its selector to the next
key that denotes it. -/
theorem forgotten_raw_class_leaves_room :
    let raw : Book := [("!pad-small", .book [("margin", "4px")])]
    let book : Book := [("padSmall", .book [("padding", "8px")])]
    let classes := (((Compiler.new .standard).run
      [.compile raw ".light", .forget [".light .pad-small"]]).compile book ".light").1.classes
    Key.isIdentifier "padSmall".toList = true ∧ classes.cast "padSmall" = .ok "pad-small" := by
  intro raw book classes
  have identifier : Key.isIdentifier "padSmall".toList = true := by decide
  have registered : Registered
      ([.offered ⟨"!pad-small", ".light", [("margin", "4px")]⟩, .forgotten [".light .pad-small"]] ++
        [.offered ⟨"padSmall", ".light", [("padding", "8px")]⟩]) "padSmall" :=
    ⟨_, _, [], rfl, by decide +kernel, rfl⟩
  have named : Text.dashed "padSmall" = "pad-small" := by decide +kernel
  have cast := ((cast_iff_compiled_under_key .standard
    [.compile raw ".light", .forget [".light .pad-small"]] book ".light" "padSmall"
    identifier).1 registered).2
  exact ⟨identifier, named ▸ cast⟩

/-- A raw class that is not forgotten keeps its selector, and the key of a body
that denotes it as well cannot be cast. -/
theorem raw_class_hides_key :
    let raw : Book := [("!pad-small", .book [("margin", "4px")])]
    let book : Book := [("padSmall", .book [("padding", "8px")])]
    let classes := (((Compiler.new .standard).run [.compile raw ".light"]).compile
      book ".light").1.classes
    Key.isIdentifier "padSmall".toList = true ∧ classes.class? "padSmall" = none ∧
      classes.cast "padSmall" = .error (.unknownToken "padSmall") := by
  intro raw book classes
  have identifier : Key.isIdentifier "padSmall".toList = true := by decide
  have names := ((Names.new .standard).run (Records.new .standard)
    [.compile raw ".light"]).compile ((Records.new .standard).run _) book ".light"
  have missing : ¬ Registered ([] ++ (raw.candidates ".light").map .offered ++
      (book.candidates ".light").map .offered) "padSmall" := by
    rw [registered_append_offered, registered_append_offered]
    rintro ((none | first) | second)
    · exact not_registered_nil _ none
    · exact absurd first (by decide +kernel)
    · exact absurd second (by decide +kernel)
  exact ⟨identifier, names.cast_of_not_registered identifier missing⟩

end Compiler
end ThemedStyles
