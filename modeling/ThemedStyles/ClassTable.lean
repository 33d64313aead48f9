import ThemedStyles.Entries
import ThemedStyles.Error
import ThemedStyles.Selector.Key
import ThemedStyles.Text.Blank

namespace ThemedStyles

/-!
# The class table

The table maps keys to class names and only ever grows: a key keeps the class
it was first registered with.  Beside that it remembers the selectors whose
rules are in a stylesheet already.  These can be forgotten, and then the next
compilation writes their rules once more.

Main statements: forgetting takes the named selectors out of the compiled ones,
in whatever order they are named, counts those that are gone, keeps the order of
the others and leaves the classes alone; registering keeps the classes that are
there.
-/

/-- Registered classes by key, and the compiled selectors in the order of
their compilation. -/
structure ClassTable where
  names : Entries String
  compiled : List String

namespace ClassTable

/-- The table of a compiler that has compiled nothing. -/
def empty : ClassTable := ⟨[], []⟩

/-- The class registered for a key. -/
def class? (table : ClassTable) (key : String) : Option String := table.names.get? key

/-- Was this selector compiled and not forgotten since? -/
def isCompiled (table : ClassTable) (selector : String) : Bool :=
  table.compiled.contains selector

/-- Register a class unless the key has one. -/
def register (table : ClassTable) (key name : String) : ClassTable :=
  if table.names.has key then table else { table with names := table.names.put key name }

/-- Register the class of a key that has one. -/
def registerKey (table : ClassTable) (key : String) : ClassTable :=
  match Key.className? key with
  | some name => table.register key name
  | none => table

/-- Remember a selector as compiled. -/
def mark (table : ClassTable) (selector : String) : ClassTable :=
  if table.isCompiled selector then table
  else { table with compiled := table.compiled ++ [selector] }

/-- Forget selectors, and count those that had been compiled.  The classes
stay, and so does the order of the other selectors. -/
def forget (table : ClassTable) (selectors : List String) : ClassTable × Nat :=
  selectors.foldl
    (fun state selector =>
      if state.1.isCompiled selector then
        ({ state.1 with compiled := state.1.compiled.erase selector }, state.2 + 1)
      else state)
    (table, 0)

/-- The classes of a list of words, up to the first word that has none. -/
def castWords (table : ClassTable) : List String -> Except Error (List String)
  | [] => .ok []
  | word :: rest =>
      match table.class? word with
      | some name => (table.castWords rest).map (name :: ·)
      | none => .error (.unknownToken word)

/-- The classes of a phrase of class keys, with a space between them.  The
first unknown word is an error, for it is a typing mistake in the phrase. -/
def cast (table : ClassTable) (phrase : String) : Except Error String :=
  (table.castWords (Text.words phrase)).map (String.intercalate " ")

/-! ## What marking and registering do to the compiled selectors -/

theorem isCompiled_iff (table : ClassTable) (selector : String) :
    table.isCompiled selector = true ↔ selector ∈ table.compiled :=
  List.contains_iff_mem

theorem compiled_mark_of_not_mem (table : ClassTable) (selector : String)
    (unmarked : selector ∉ table.compiled) :
    (table.mark selector).compiled = table.compiled ++ [selector] := by
  unfold mark
  rw [if_neg (mt (isCompiled_iff table selector).mp unmarked)]

@[simp] theorem compiled_register (table : ClassTable) (key name : String) :
    (table.register key name).compiled = table.compiled := by
  unfold register
  split <;> rfl

@[simp] theorem compiled_registerKey (table : ClassTable) (key : String) :
    (table.registerKey key).compiled = table.compiled := by
  unfold registerKey
  split
  · exact compiled_register table key _
  · rfl

/-! ## What registering does to the classes -/

@[simp] theorem names_mark (table : ClassTable) (selector : String) :
    (table.mark selector).names = table.names := by
  unfold mark
  split <;> rfl

/-- The class that a key is registered with first is the one that stays. -/
theorem class?_register (table : ClassTable) (key name other : String) :
    (table.register key name).class? other =
      (table.class? other).or (if other = key then some name else none) := by
  unfold register class? Entries.has
  cases present : table.names.get? key with
  | some old => by_cases same : other = key <;> simp [same, present]
  | none => by_cases same : other = key <;> simp [same, present]

theorem class?_registerKey (table : ClassTable) (key other : String) :
    (table.registerKey key).class? other =
      (table.class? other).or (if other = key then Key.className? key else none) := by
  unfold registerKey
  cases Key.className? key with
  | some name => exact class?_register table key name other
  | none => simp

theorem class?_foldl_registerKey (keys : List String) (table : ClassTable) (other : String) :
    (keys.foldl registerKey table).class? other =
      (table.class? other).or (if other ∈ keys then Key.className? other else none) := by
  induction keys generalizing table with
  | nil => simp
  | cons key rest inductionHypothesis =>
      rw [List.foldl_cons, inductionHypothesis, class?_registerKey]
      by_cases same : other = key
      · subst same
        cases table.class? other <;> cases Key.className? other <;> simp
      · simp [same]

/-- Registering looks at the classes only, and not at the compiled selectors. -/
theorem names_registerKey_congr {table other : ClassTable} (same : table.names = other.names)
    (key : String) : (table.registerKey key).names = (other.registerKey key).names := by
  unfold registerKey register
  rw [same]
  cases Key.className? key with
  | none => exact same
  | some name => cases other.names.has key <;> simp [same]

/-- A key without a class is appended with its class; nothing else is registered. -/
theorem names_registerKey (table : ClassTable) (key : String) :
    (table.registerKey key).names = table.names ∨
      ∃ name, Key.className? key = some name ∧
        (table.registerKey key).names = table.names ++ [(key, name)] := by
  unfold registerKey
  cases own : Key.className? key with
  | none => exact Or.inl rfl
  | some name =>
      by_cases present : table.names.has key = true
      · exact Or.inl (congrArg names (if_pos present))
      · have absent : key ∉ table.names.keys := by simpa using present
        have added : (table.register key name).names = table.names.put key name :=
          congrArg names (if_neg present)
        exact Or.inr ⟨name, rfl, added.trans (Entries.put_of_not_mem _ _ _ absent)⟩

/-! ## Casting words -/

theorem castWords_eq_ok_iff (table : ClassTable) (words names : List String) :
    table.castWords words = .ok names ↔ words.map table.class? = names.map some := by
  induction words generalizing names with
  | nil => cases names <;> simp [castWords]
  | cons word rest inductionHypothesis =>
      rw [castWords]
      cases found : table.class? word with
      | none => cases names <;> simp [found]
      | some name =>
        cases names with
        | nil => simp [Error.map_eq_ok_iff]
        | cons first others =>
          rw [List.map_cons, List.map_cons, found, List.cons.injEq, ← inductionHypothesis]
          refine Error.map_eq_ok_iff.trans ?_
          constructor
          · rintro ⟨_, succeeds, same⟩
            cases same
            exact ⟨rfl, succeeds⟩
          · rintro ⟨same, succeeds⟩
            exact ⟨others, succeeds, congrArg (· :: others) (Option.some.inj same)⟩

theorem castWords_eq_error_iff (table : ClassTable) (words : List String) (error : Error) :
    table.castWords words = .error error ↔
      ∃ before word after, words = before ++ word :: after ∧
        (forall other, other ∈ before -> table.class? other ≠ none) ∧
        table.class? word = none ∧ error = .unknownToken word := by
  induction words with
  | nil => simp [castWords]
  | cons first rest inductionHypothesis =>
      rw [castWords]
      cases found : table.class? first with
      | none =>
          constructor
          · intro fails
            exact ⟨[], first, rest, rfl, by simp, found, (Except.error.inj fails).symm⟩
          · rintro ⟨before, word, after, split, registered, _, rfl⟩
            cases before with
            | nil =>
                cases split
                rfl
            | cons other before =>
                cases split
                exact absurd found (registered first List.mem_cons_self)
      | some name =>
          refine Error.map_eq_error_iff.trans ?_
          rw [inductionHypothesis]
          constructor
          · rintro ⟨before, word, after, rfl, registered, missing, same⟩
            refine ⟨first :: before, word, after, rfl, ?_, missing, same⟩
            intro other member
            rcases List.mem_cons.mp member with rfl | member
            · simp [found]
            · exact registered other member
          · rintro ⟨before, word, after, split, registered, missing, same⟩
            cases before with
            | nil =>
                cases split
                rw [missing] at found
                cases found
            | cons other before =>
                cases split
                exact ⟨before, word, after, rfl,
                  fun other member => registered other (List.mem_cons_of_mem _ member),
                  missing, same⟩

theorem cast_of_words {key : String} (word : Text.words key = [key]) (table : ClassTable) :
    table.cast key =
      match table.class? key with
      | some name => .ok name
      | none => .error (.unknownToken key) := by
  rw [cast, word, castWords]
  cases table.class? key <;> rfl

/-! ## What forgetting does -/

/-- One step of forgetting, which counts as long as the selector is there. -/
private def forgetOne (state : ClassTable × Nat) (selector : String) : ClassTable × Nat :=
  if state.1.isCompiled selector then
    ({ state.1 with compiled := state.1.compiled.erase selector }, state.2 + 1)
  else state

private theorem forgetOne_fst (state : ClassTable × Nat) (selector : String)
    (distinct : state.1.compiled.Nodup) :
    (forgetOne state selector).1 =
      { state.1 with compiled := state.1.compiled.filter fun other => other != selector } := by
  unfold forgetOne
  split
  · rw [distinct.erase_eq_filter]
  · rename_i unmarked
    have away := mt (isCompiled_iff state.1 selector).mpr unmarked
    have all : (state.1.compiled.filter fun other => other != selector) = state.1.compiled := by
      rw [List.filter_eq_self]
      intro other member
      exact bne_iff_ne.mpr fun equal => away (equal ▸ member)
    rw [all]

private theorem foldl_forgetOne_fst (selectors : List String) (state : ClassTable × Nat)
    (distinct : state.1.compiled.Nodup) :
    (selectors.foldl forgetOne state).1 =
      { state.1 with
        compiled := state.1.compiled.filter fun other => !selectors.contains other } := by
  induction selectors generalizing state with
  | nil =>
      have all : (state.1.compiled.filter fun _ => true) = state.1.compiled :=
        List.filter_eq_self.mpr fun _ _ => rfl
      simp [all]
  | cons selector rest inductionHypothesis =>
      have first := forgetOne_fst state selector distinct
      have distinctNext : (forgetOne state selector).1.compiled.Nodup := by
        rw [first]
        exact distinct.filter _
      rw [List.foldl_cons, inductionHypothesis _ distinctNext, first]
      simp only [List.filter_filter, List.contains_cons, Bool.not_or]
      congr 1
      apply List.filter_congr
      intro other _
      exact Bool.and_comm _ _

/-- Forgetting removes the named selectors from the compiled ones and touches
nothing else. -/
theorem forget_fst (table : ClassTable) (selectors : List String)
    (distinct : table.compiled.Nodup) :
    (table.forget selectors).1 =
      { table with compiled := table.compiled.filter fun other => !selectors.contains other } :=
  foldl_forgetOne_fst selectors (table, 0) distinct

theorem mem_compiled_forget_iff (table : ClassTable) (selectors : List String)
    (distinct : table.compiled.Nodup) (selector : String) :
    selector ∈ (table.forget selectors).1.compiled ↔
      selector ∈ table.compiled ∧ selector ∉ selectors := by
  rw [forget_fst table selectors distinct]
  simp

theorem nodup_compiled_forget (table : ClassTable) (selectors : List String)
    (distinct : table.compiled.Nodup) : (table.forget selectors).1.compiled.Nodup := by
  rw [forget_fst table selectors distinct]
  exact distinct.filter _

/-- The count is that of the selectors which are gone. -/
theorem forget_snd (table : ClassTable) (selectors : List String) :
    (table.forget selectors).2 + (table.forget selectors).1.compiled.length =
      table.compiled.length := by
  unfold forget
  apply List.foldlRecOn (motive := fun (state : ClassTable × Nat) =>
    state.2 + state.1.compiled.length = table.compiled.length)
  · exact Nat.zero_add _
  · intro state counted selector _
    split
    · rename_i marked
      have member := (isCompiled_iff state.1 selector).mp marked
      have nonempty := List.length_pos_of_mem member
      rw [← counted, List.length_erase_of_mem member]
      omega
    · exact counted

/-- Two selectors are forgotten in either order. -/
private theorem forgetOne_comm (state : ClassTable × Nat) (first second : String) :
    forgetOne (forgetOne state first) second = forgetOne (forgetOne state second) first := by
  by_cases same : first = second
  · rw [same]
  · have kept : second ∈ state.1.compiled.erase first ↔ second ∈ state.1.compiled :=
      List.mem_erase_of_ne (Ne.symm same)
    have keptFirst : first ∈ state.1.compiled.erase second ↔ first ∈ state.1.compiled :=
      List.mem_erase_of_ne same
    by_cases marked : first ∈ state.1.compiled <;>
      by_cases markedSecond : second ∈ state.1.compiled <;>
        simp [forgetOne, isCompiled, marked, markedSecond, kept, keptFirst,
          List.erase_comm first second]

/-- It does not matter in which order selectors are forgotten, whether or not they come
again. -/
theorem forget_perm (table : ClassTable) {selectors others : List String}
    (reordered : selectors.Perm others) : table.forget selectors = table.forget others :=
  List.Perm.foldl_eq' reordered
    (fun first _ second _ state => forgetOne_comm state first second) (table, 0)

@[simp] theorem names_forget (table : ClassTable) (selectors : List String) :
    (table.forget selectors).1.names = table.names := by
  unfold forget
  apply List.foldlRecOn (motive := fun (state : ClassTable × Nat) => state.1.names = table.names)
  · rfl
  · intro state kept selector _
    split <;> exact kept

end ClassTable
end ThemedStyles
