import ThemedStyles.Proofs.Json.Paths
import ThemedStyles.Proofs.Numbers.Integers
import ThemedStyles.Style.Document

namespace ThemedStyles

/-!
# Style values as documents

Writing a style value as JSON and reading it back loses nothing but numbers that
are not finite, which become absent.  So a value with finite numbers only is its
own document, and a value that has been read is found in the document part by
part: what it has at the end of a path is what the document has there, read by
itself.

A document can be patched again with the same patch and is read as the same value
again.  The document that is patched the second time is not the one that came of
the first time, for the value has been read and written in between; but whatever
the patch does not replace has been read and written before.
-/

namespace Value

mutual

/-- The value as its document keeps it: a number that is not finite is absent. -/
def stored : Value -> Value
  | number value => if value.isFinite then number value else absent
  | book entries => book (storedEntries entries)
  | other => other

def storedEntries : List (String × Value) -> List (String × Value)
  | [] => []
  | (key, value) :: rest => (key, value.stored) :: storedEntries rest

end

mutual

/-- Are all numbers in a value finite? -/
def isFinite : Value -> Bool
  | number value => value.isFinite
  | book entries => areFinite entries
  | _ => true

def areFinite : List (String × Value) -> Bool
  | [] => true
  | (_, value) :: rest => value.isFinite && areFinite rest

end

/-! ## Writing and reading -/

mutual

theorem ofJson?_toJson : forall value : Value, ofJson? value.toJson = some value.stored
  | .text _ => rfl
  | .number value => by
      cases finite : value.isFinite <;> simp [toJson, stored, finite, ofJson?]
  | .book entries => by
      rw [toJson, ofJson?, ofFields?_toFields entries, stored]
      rfl
  | .absent => rfl

theorem ofFields?_toFields : forall entries : List (String × Value),
    ofFields? (toFields entries) = some (storedEntries entries)
  | [] => rfl
  | (key, value) :: rest => by
      rw [toFields, ofFields?, ofJson?_toJson value, ofFields?_toFields rest]
      rfl

end

mutual

theorem stored_of_isFinite : forall value : Value, value.isFinite = true -> value.stored = value
  | .text _, _ => rfl
  | .number value, finite => if_pos finite
  | .book entries, finite => by
      rw [stored, storedEntries_of_areFinite entries finite]
  | .absent, _ => rfl

theorem storedEntries_of_areFinite : forall entries : List (String × Value),
    areFinite entries = true -> storedEntries entries = entries
  | [], _ => rfl
  | (key, value) :: rest, finite => by
      rw [areFinite, Bool.and_eq_true] at finite
      rw [storedEntries, stored_of_isFinite value finite.1,
        storedEntries_of_areFinite rest finite.2]

end

mutual

/-- What a document keeps has the same document. -/
theorem toJson_stored : forall value : Value, value.stored.toJson = value.toJson
  | .text _ => rfl
  | .number value => by
      cases finite : value.isFinite <;> simp [toJson, stored, finite]
  | .book entries => by
      rw [stored, toJson, toJson, toFields_storedEntries entries]
  | .absent => rfl

theorem toFields_storedEntries : forall entries : List (String × Value),
    toFields (storedEntries entries) = toFields entries
  | [] => rfl
  | (key, value) :: rest => by
      rw [storedEntries, toFields, toFields, toJson_stored value, toFields_storedEntries rest]

end

mutual

/-- Documents of values hold finite numbers only. -/
theorem finite_toJson : forall value : Value, value.toJson.finite = true
  | .text _ => rfl
  | .number value => by
      cases finite : value.isFinite <;>
        simp [toJson, finite, Json.finite, Json.every, Json.numberInRange]
  | .book entries => everyField_toFields entries
  | .absent => rfl

theorem everyField_toFields : forall entries : List (String × Value),
    Json.everyField Json.numberInRange (toFields entries) = true
  | [] => rfl
  | (key, value) :: rest => by
      rw [toFields, Json.everyField, Bool.and_eq_true]
      exact ⟨finite_toJson value, everyField_toFields rest⟩

end

/-- Reading the document of a value once more finds the same. -/
theorem ofJson?_toJson_of_ofJson?_toJson {value other : Value}
    (read : ofJson? value.toJson = some other) : ofJson? other.toJson = some other := by
  rw [ofJson?_toJson, Option.some.injEq] at read
  rw [← read, toJson_stored, ofJson?_toJson]

theorem toJson_isObject (value : Value) : value.toJson.isObject = value.book?.isSome := by
  cases value with
  | number value => cases finite : value.isFinite <;> simp [toJson, finite, Json.isObject, book?]
  | _ => rfl

theorem ofFields?_cons_eq_some_iff {key : String} {field : Json} {fields : List (String × Json)}
    {entries : List (String × Value)} :
    ofFields? ((key, field) :: fields) = some entries ↔
      ∃ value rest, ofJson? field = some value ∧ ofFields? fields = some rest ∧
        entries = (key, value) :: rest := by
  rw [ofFields?]
  cases ofJson? field <;> cases ofFields? fields <;> simp [eq_comm]

theorem ofJson?_object_eq_some_iff {fields : List (String × Json)} {value : Value} :
    ofJson? (.object fields) = some value ↔
      ∃ entries, ofFields? fields = some entries ∧ value = book entries := by
  rw [ofJson?, Option.map_eq_some_iff]
  simp only [eq_comm]

mutual

/-- A document with numbers in range is read as a value with finite numbers. -/
theorem isFinite_of_ofJson? : forall (json : Json) {value : Value}, json.finite = true ->
    ofJson? json = some value -> value.isFinite = true
  | .null, _, _, read => by
      cases read
      rfl
  | .boolean _, _, _, read => by cases read
  | .integer _, _, small, read => by
      cases read
      exact Binary64.isFinite_ofInt (of_decide_eq_true small)
  | .float _, _, finite, read => by
      cases read
      exact finite
  | .string _, _, _, read => by
      cases read
      rfl
  | .list _, _, _, read => by cases read
  | .object fields, _, finite, read => by
      rw [ofJson?, Option.map_eq_some_iff] at read
      rcases read with ⟨entries, fieldsRead, rfl⟩
      exact areFinite_of_ofFields? fields finite fieldsRead

theorem areFinite_of_ofFields? : forall (fields : List (String × Json))
    {entries : List (String × Value)}, Json.everyField Json.numberInRange fields = true ->
    ofFields? fields = some entries -> areFinite entries = true
  | [], _, _, read => by
      cases read
      rfl
  | (key, field) :: rest, _, finite, read => by
      rcases ofFields?_cons_eq_some_iff.mp read with ⟨value, others, first, later, rfl⟩
      rw [Json.everyField, Bool.and_eq_true] at finite
      rw [areFinite, Bool.and_eq_true]
      exact ⟨isFinite_of_ofJson? field finite.1 first,
        areFinite_of_ofFields? rest finite.2 later⟩

end

/-! ## Parts of documents -/

/-- Every field is read as the entry of its key. -/
theorem get?_ofFields? {fields : List (String × Json)} {entries : List (String × Value)}
    (read : ofFields? fields = some entries) (key : String) :
    (Entries.get? fields key).map ofJson? = (Entries.get? entries key).map some := by
  induction fields generalizing entries with
  | nil =>
      cases read
      rfl
  | cons field rest inductionHypothesis =>
      rcases field with ⟨name, field⟩
      rcases ofFields?_cons_eq_some_iff.mp read with ⟨value, others, first, later, rfl⟩
      by_cases same : name = key
      · simp [Entries.get?, same, first]
      · simp [Entries.get?, same, inductionHypothesis later]

theorem get?_toFields (entries : List (String × Value)) (key : String) :
    Entries.get? (toFields entries) key = (Entries.get? entries key).map toJson := by
  induction entries with
  | nil => rfl
  | cons entry rest inductionHypothesis =>
      by_cases same : entry.1 = key <;> simp [toFields, Entries.get?, same, inductionHypothesis]

/-- Every part of a document is read as what the value has in its place. -/
theorem at?_toJson_of_ofJson? {json : Json} {value : Value} (read : ofJson? json = some value)
    (path : List String) :
    (json.at? path).map (fun part => (ofJson? part).map toJson) =
      (value.toJson.at? path).map some := by
  induction path generalizing json value with
  | nil => simp [read]
  | cons key rest inductionHypothesis =>
      cases json with
      | object fields =>
          rcases ofJson?_object_eq_some_iff.mp read with ⟨entries, fieldsRead, rfl⟩
          have looked := get?_ofFields? fieldsRead key
          rw [toJson, Json.at?_object_cons, Json.at?_object_cons, get?_toFields]
          cases found : Entries.get? fields key with
          | none =>
              rw [found] at looked
              rw [Option.map_eq_none_iff.mp looked.symm]
              rfl
          | some field =>
              rw [found] at looked
              obtain ⟨inner, present, fieldRead⟩ := Option.map_eq_some_iff.mp looked.symm
              rw [present]
              exact inductionHypothesis fieldRead.symm
      | _ =>
          have flat : value.toJson.isObject = false := by
            rw [toJson_isObject]
            cases read <;> rfl
          rw [Json.at?_cons_of_isObject_eq_false flat]
          rfl

/-- The parts of the document of a value are documents of values. -/
theorem exists_of_at?_toJson {value : Value} {path : List String} {part : Json}
    (found : value.toJson.at? path = some part) : ∃ inner : Value, part = inner.toJson := by
  induction path generalizing value with
  | nil =>
      rw [Json.at?_nil] at found
      exact ⟨value, (Option.some.inj found).symm⟩
  | cons key rest inductionHypothesis =>
      rcases Json.exists_of_at?_cons found with ⟨fields, inner, form, present, below⟩
      cases value with
      | book entries =>
          cases form
          rw [get?_toFields] at present
          obtain ⟨entry, _, rfl⟩ := Option.map_eq_some_iff.mp present
          exact inductionHypothesis below
      | number value => cases finite : value.isFinite <;> simp [toJson, finite] at form
      | _ => cases form

/-! ## The same patch once more -/

/-- The document of what a patch has made of a value is read as that again after
the same patch. -/
def Settled (patch : Json) : Prop :=
  forall value changed : Value, ofJson? (value.toJson.patched patch) = some changed ->
    ofJson? (changed.toJson.patched patch) = some changed

theorem settled_null : Settled .null := by
  intro value changed read
  rw [Json.patched_null] at read ⊢
  exact ofJson?_toJson_of_ofJson?_toJson read

/-- What was added as the patch has it stays so under the patch. -/
theorem Settled.of_added {patch : Json} (settled : Settled patch) {added : Value}
    (read : ofJson? patch = some added) : ofJson? (added.toJson.patched patch) = some added :=
  settled .absent added ((congrArg ofJson? (Json.null_patched patch)).trans read)

theorem settled_field {changes : List (String × Json)}
    (settled : forall change, change ∈ changes -> Settled change.2) (key : String) :
    Settled ((Entries.get? changes key).getD .null) := by
  cases found : Entries.get? changes key with
  | none => exact settled_null
  | some change => exact settled _ (Entries.mem_of_get?_eq_some found)

/-- Entries that were all added by the patch stay, whether its nulls were added
with them or not. -/
theorem ofFields?_patchedFields_added {changes : List (String × Json)}
    (once : (Entries.keys changes).Nodup)
    (settled : forall change, change ∈ changes -> Settled change.2)
    (added : String × Json -> Bool)
    (left : forall change, change ∈ changes -> added change = false -> change.2.isNull = true)
    {entries : List (String × Value)}
    (read : ofFields? (changes.filter added) = some entries) :
    ofFields? (Json.patchedFields (toFields entries) changes) = some entries := by
  induction changes generalizing entries with
  | nil =>
      cases read
      rfl
  | cons change rest inductionHypothesis =>
      rcases change with ⟨key, change⟩
      have parts : key ∉ Entries.keys rest ∧ (Entries.keys rest).Nodup := List.nodup_cons.mp once
      have later := @inductionHypothesis parts.2
        (fun other member => settled other (List.mem_cons_of_mem _ member))
        (fun other member => left other (List.mem_cons_of_mem _ member))
      cases kept : added (key, change) with
      | true =>
          rw [List.filter_cons_of_pos kept] at read
          rcases ofFields?_cons_eq_some_iff.mp read with ⟨value, others, first, others_read, rfl⟩
          rw [toFields, Json.patchedFields_cons _ _ _ _ once, ofFields?_cons_eq_some_iff]
          refine ⟨value, others, ?_, ?_, rfl⟩
          · simpa [Entries.get?] using (settled _ List.mem_cons_self).of_added first
          · simpa [Entries.erase] using later others_read
      | false =>
          rw [List.filter_cons_of_neg (by simp [kept])] at read
          have looked := get?_ofFields? read key
          rw [Entries.get?_filter_eq_none parts.1] at looked
          have missing : Entries.get? (toFields entries) key = none := by
            rw [get?_toFields, Option.map_eq_none_iff.mp looked.symm]
            rfl
          rw [Json.patchedFields, missing]
          simp only [left _ List.mem_cons_self kept, if_true]
          exact later read

/-- Entries that a patch has changed or added stay as they are. -/
theorem ofFields?_patchedFields_again {changes : List (String × Json)}
    (once : (Entries.keys changes).Nodup)
    (settled : forall change, change ∈ changes -> Settled change.2)
    {entries changed : List (String × Value)}
    (read : ofFields? (Json.patchedFields (toFields entries) changes) = some changed) :
    ofFields? (Json.patchedFields (toFields changed) changes) = some changed := by
  induction entries generalizing changes changed with
  | nil =>
      rw [toFields, Json.patchedFields_nil _ once] at read
      exact ofFields?_patchedFields_added once settled _ (fun _ _ null => by simpa using null) read
  | cons entry rest inductionHypothesis =>
      rcases entry with ⟨key, value⟩
      rw [toFields, Json.patchedFields_cons _ _ _ _ once] at read
      rcases ofFields?_cons_eq_some_iff.mp read with ⟨first, others, firstRead, othersRead, rfl⟩
      rw [toFields, Json.patchedFields_cons _ _ _ _ once, ofFields?_cons_eq_some_iff]
      refine ⟨first, others, settled_field settled key _ _ firstRead, ?_, rfl⟩
      exact inductionHypothesis (Entries.nodup_keys_erase _ _ once)
        (fun change member => settled change ((Entries.erase_sublist _ _).subset member)) othersRead

theorem settled_object {changes : List (String × Json)} (once : (Entries.keys changes).Nodup)
    (settled : forall change, change ∈ changes -> Settled change.2) :
    Settled (.object changes) := by
  intro value changed read
  cases isBook : value.book?.isSome with
  | false =>
      rw [Json.patched_of_isObject_eq_false ((toJson_isObject value).trans isBook) rfl] at read
      rcases ofJson?_object_eq_some_iff.mp read with ⟨entries, fieldsRead, rfl⟩
      rw [toJson, Json.patched, ofJson?_object_eq_some_iff]
      refine ⟨entries, ?_, rfl⟩
      exact ofFields?_patchedFields_added once settled (fun _ => true) (fun _ _ => Bool.noConfusion)
        ((congrArg ofFields? (List.filter_eq_self.mpr fun _ _ => rfl)).trans fieldsRead)
  | true =>
      cases value with
      | book old =>
          rw [toJson, Json.patched, ofJson?_object_eq_some_iff] at read
          rcases read with ⟨entries, fieldsRead, rfl⟩
          rw [toJson, Json.patched, ofJson?_object_eq_some_iff]
          exact ⟨entries, ofFields?_patchedFields_again once settled fieldsRead, rfl⟩
      | _ => cases isBook

theorem settled_of_distinct (patch : Json) (distinct : patch.distinct = true) :
    Settled patch := by
  induction patch using Json.induction_on_fields with
  | flat patch flat =>
      rcases Json.eq_null_or_replaces flat with rfl | replaced
      · exact settled_null
      · intro value changed read
        rw [Json.patched_of_replaces _ replaced] at read ⊢
        exact read
  | deep changes inductionHypothesis =>
      have parts := (Json.distinct_object_iff changes).mp distinct
      exact settled_object parts.1 fun change member =>
        inductionHypothesis change member (parts.2 change member)

end Value
end ThemedStyles
