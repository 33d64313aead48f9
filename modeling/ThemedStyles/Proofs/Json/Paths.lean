import ThemedStyles.Json.Patch

namespace ThemedStyles
namespace Json

/-!
# Paths through a patched value

A path of object keys leads from a JSON value to one of its parts.  In a patched
value, the part at the end of a path is the old part under whatever the patch has
at the end of the same path, and a patch without anything there is null there.
The only exception is a path on which the patch replaces an earlier part as a
whole: nothing can be said about what is below that part.

All statements need that the patch repeats no key, as no JSON value does that has
been read from a text.  Of a repeated key, patching sees every occurrence, and
following a path only the first.
-/

/-- Is this an object? -/
def isObject : Json -> Bool
  | object _ => true
  | _ => false

/-- Does the value, as a patch, take the place of its target? -/
def replaces (patch : Json) : Bool := !patch.isNull && !patch.isObject

/-- The part at the end of a path of object keys. -/
def at? : Json -> (path : List String) -> Option Json
  | json, [] => some json
  | object fields, key :: rest => (Entries.get? fields key).bind fun inner => inner.at? rest
  | _, _ :: _ => none

/-- Does following the path through the patch stop at a missing key or at null? -/
def spares : (patch : Json) -> (path : List String) -> Bool
  | null, _ => true
  | object changes, key :: rest =>
      match Entries.get? changes key with
      | some inner => inner.spares rest
      | none => true
  | _, _ => false

/-- Does the patch leave everything in place that is passed on the way to the end
of the path? -/
def keepsAncestors : (patch : Json) -> (path : List String) -> Bool
  | _, [] => true
  | null, _ :: _ => true
  | object changes, key :: rest =>
      match Entries.get? changes key with
      | some inner => inner.keepsAncestors rest
      | none => true
  | _, _ :: _ => false

mutual

/-- Does a test hold of a value and of every part of it? -/
def every (test : Json -> Bool) : Json -> Bool
  | list items => test (list items) && everyItem test items
  | object fields => test (object fields) && everyField test fields
  | other => test other

def everyItem (test : Json -> Bool) : List Json -> Bool
  | [] => true
  | item :: rest => item.every test && everyItem test rest

def everyField (test : Json -> Bool) : List (String × Json) -> Bool
  | [] => true
  | (_, value) :: rest => value.every test && everyField test rest

end

/-- Does a value, looked at without its parts, repeat no key? -/
def keysDiffer : Json -> Bool
  | object fields => (Entries.keys fields).Nodup
  | _ => true

/-- Does no object in a value repeat a key? -/
def distinct : Json -> Bool := every keysDiffer

/-- Is the value no number, or one that documents can hold?  These are the integers of
64 bits, signed or not, and the finite binary numbers. -/
def numberInRange : Json -> Bool
  | integer value => value.natAbs < Nat.pow 2 64
  | float value => value.isFinite
  | _ => true

/-- Are all numbers in a value within range? -/
def finite : Json -> Bool := every numberInRange

variable {patch : Json}

theorem everyField_iff (test : Json -> Bool) (fields : List (String × Json)) :
    everyField test fields = true ↔ forall field, field ∈ fields -> field.2.every test = true := by
  induction fields with
  | nil => simp [everyField]
  | cons field rest inductionHypothesis =>
      simp only [everyField, Bool.and_eq_true, inductionHypothesis, List.forall_mem_cons]

theorem everyItem_iff (test : Json -> Bool) (items : List Json) :
    everyItem test items = true ↔ forall item, item ∈ items -> item.every test = true := by
  induction items with
  | nil => simp [everyItem]
  | cons item rest inductionHypothesis =>
      simp only [everyItem, Bool.and_eq_true, inductionHypothesis, List.forall_mem_cons]

/-- The fields of a record are parts of the value that it is read from. -/
theorem every_of_record? {test : Json -> Bool} {names : List String} {json : Json}
    {entries : Entries Json} (record : json.record? names = some entries)
    (all : json.every test = true) :
    forall entry, entry ∈ entries -> entry.2.every test = true := by
  cases json with
  | object fields =>
      cases record
      rw [every, Bool.and_eq_true] at all
      exact (everyField_iff test _).mp all.2
  | list items =>
      rw [record?] at record
      split at record
      · cases record
        rw [every, Bool.and_eq_true] at all
        exact fun entry member => (everyItem_iff test items).mp all.2 _ (List.of_mem_zip member).2
      · cases record
  | _ => cases record

theorem distinct_object_iff (fields : List (String × Json)) :
    (object fields).distinct = true ↔
      (Entries.keys fields).Nodup ∧ forall field, field ∈ fields -> field.2.distinct = true := by
  simp only [distinct, every, keysDiffer, Bool.and_eq_true, decide_eq_true_eq, everyField_iff]

/-- The value of a field repeats no key, and a missing field counts as null. -/
theorem distinct_field {changes : List (String × Json)}
    (distinctValues : forall field, field ∈ changes -> field.2.distinct = true) (key : String) :
    ((Entries.get? changes key).getD null).distinct = true := by
  cases found : Entries.get? changes key with
  | none => rfl
  | some change => exact distinctValues _ (Entries.mem_of_get?_eq_some found)

theorem everyField_put {test : Json -> Bool} {fields : List (String × Json)} {key : String}
    {value : Json} (old : everyField test fields = true) (new : value.every test = true) :
    everyField test (Entries.put fields key value) = true := by
  induction fields with
  | nil => simp [Entries.put, everyField, new]
  | cons field rest inductionHypothesis =>
      simp only [everyField, Bool.and_eq_true] at old
      rw [Entries.put]
      split <;> simp [everyField, old, new, inductionHypothesis]

mutual

/-- Values that were read from a text are collapsed, and so repeat no key. -/
theorem distinct_collapsed : forall json : Json, json.collapsed.distinct = true
  | null => rfl
  | boolean _ => rfl
  | integer _ => rfl
  | float _ => rfl
  | string _ => rfl
  | list items => everyItem_collapsedItems items
  | object fields => by
      have values := (everyField_iff keysDiffer _).mp (everyField_collapsedFields fields)
      rw [collapsed, distinct_object_iff]
      exact ⟨Entries.nodup_keys_ofPairs _,
        fun field member => values field (Entries.mem_of_mem_ofPairs member)⟩

theorem everyItem_collapsedItems : forall items : List Json,
    everyItem keysDiffer (collapsedItems items) = true
  | [] => rfl
  | item :: rest => by
      rw [collapsedItems, everyItem, Bool.and_eq_true]
      exact ⟨distinct_collapsed item, everyItem_collapsedItems rest⟩

theorem everyField_collapsedFields : forall fields : List (String × Json),
    everyField keysDiffer (collapsedFields fields) = true
  | [] => rfl
  | (key, value) :: rest => by
      rw [collapsedFields, everyField, Bool.and_eq_true]
      exact ⟨distinct_collapsed value, everyField_collapsedFields rest⟩

end

theorem eq_null_or_replaces {json : Json} (flat : json.isObject = false) :
    json = null ∨ json.replaces = true := by
  cases json with
  | null => exact Or.inl rfl
  | object _ => cases flat
  | _ => exact Or.inr rfl

mutual

/-- What holds of a value that is no object, and of an object whenever it holds of the
values of all fields, holds of every value. -/
theorem induction_on_fields {motive : Json -> Prop}
    (flat : forall json, json.isObject = false -> motive json)
    (deep : forall fields, (forall field, field ∈ fields -> motive field.2) ->
      motive (object fields)) : forall json, motive json
  | object fields => deep fields (forall_fields flat deep fields)
  | null => flat _ rfl
  | boolean _ => flat _ rfl
  | integer _ => flat _ rfl
  | float _ => flat _ rfl
  | string _ => flat _ rfl
  | list _ => flat _ rfl

theorem forall_fields {motive : Json -> Prop}
    (flat : forall json, json.isObject = false -> motive json)
    (deep : forall fields, (forall field, field ∈ fields -> motive field.2) ->
      motive (object fields)) :
    forall fields : List (String × Json), forall field, field ∈ fields -> motive field.2
  | [], _, member => absurd member List.not_mem_nil
  | (_, value) :: rest, field, member => by
      rcases List.mem_cons.mp member with rfl | later
      · exact induction_on_fields flat deep value
      · exact forall_fields flat deep rest field later

end

/-! ## Patching -/

theorem patched_of_replaces (target : Json) (replaced : patch.replaces = true) :
    target.patched patch = patch := by
  cases patch <;> first | rfl | cases replaced

/-- What is no object is replaced by everything but null. -/
theorem patched_of_isObject_eq_false {target : Json} (flat : target.isObject = false)
    (present : patch.isNull = false) : target.patched patch = patch := by
  cases patch with
  | null => cases present
  | object _ =>
      cases target with
      | object _ => cases flat
      | _ => rfl
  | _ => rfl

@[simp] theorem null_patched (patch : Json) : null.patched patch = patch := by
  cases patch <;> simp [patched]

/-- A patched value is null only if the target and the patch both are. -/
theorem isNull_patched (target patch : Json) :
    (target.patched patch).isNull = (target.isNull && patch.isNull) := by
  cases patch with
  | null => simp [isNull]
  | object changes => cases target <;> simp [patched, isNull]
  | _ => simp [patched, isNull]

/-- Fields that are all missing are those of the patch, without its nulls. -/
theorem patchedFields_nil (changes : List (String × Json)) (once : (Entries.keys changes).Nodup) :
    patchedFields [] changes = changes.filter fun change => !change.2.isNull := by
  suffices added_stay_in_front : forall added : Entries Json,
      (forall key, key ∈ Entries.keys changes -> key ∉ Entries.keys added) ->
      patchedFields added changes = added ++ changes.filter fun change => !change.2.isNull from
    added_stay_in_front [] fun _ _ => List.not_mem_nil
  induction changes with
  | nil => intro added _; simp [patchedFields]
  | cons change rest inductionHypothesis =>
      intro added fresh
      rcases change with ⟨key, change⟩
      have parts : key ∉ Entries.keys rest ∧ (Entries.keys rest).Nodup := List.nodup_cons.mp once
      have away : key ∉ Entries.keys added := fresh key List.mem_cons_self
      have later : forall other, other ∈ Entries.keys rest -> other ∉ Entries.keys added :=
        fun other member => fresh other (List.mem_cons_of_mem _ member)
      rw [patchedFields, (Entries.get?_eq_none_iff _ _).mpr away]
      by_cases empty : change.isNull = true
      · simp only [empty, if_true, inductionHypothesis parts.2 added later]
        simp [empty]
      · rw [Bool.not_eq_true] at empty
        simp only [empty, Bool.false_eq_true, if_false, Entries.put_of_not_mem _ _ _ away]
        rw [inductionHypothesis parts.2 _ fun other member => ?_]
        · simp [empty]
        · simp only [Entries.keys_append, Entries.keys_cons, Entries.keys_nil, List.mem_append,
            List.mem_singleton, not_or]
          exact ⟨later other member, fun same => parts.1 (same ▸ member)⟩

/-- The first field is patched by the change of its key, and all other changes go
to the fields behind it. -/
theorem patchedFields_cons (key : String) (old : Json) (rest changes : List (String × Json))
    (once : (Entries.keys changes).Nodup) :
    patchedFields ((key, old) :: rest) changes =
      (key, old.patched ((Entries.get? changes key).getD null)) ::
        patchedFields rest (Entries.erase changes key) := by
  induction changes generalizing old rest with
  | nil => simp [patchedFields, Entries.erase]
  | cons change later inductionHypothesis =>
      rcases change with ⟨name, change⟩
      have parts : name ∉ Entries.keys later ∧ (Entries.keys later).Nodup := List.nodup_cons.mp once
      by_cases same : name = key
      · subst same
        have spent : Entries.get? later name = none := by simpa using parts.1
        have untouched : Entries.erase later name = later := Entries.erase_of_not_mem _ _ parts.1
        simp [patchedFields, Entries.get?, Entries.put, Entries.erase, inductionHypothesis,
          parts.2, spent, untouched]
      · have different : key ≠ name := Ne.symm same
        simp only [patchedFields, Entries.get?, if_neg same, if_neg different, Entries.put,
          Entries.erase]
        cases Entries.get? rest name with
        | some _ => exact inductionHypothesis old _ parts.2
        | none =>
            by_cases empty : change.isNull = true
            · simp only [if_pos empty]
              exact inductionHypothesis old rest parts.2
            · simp only [if_neg empty]
              exact inductionHypothesis old _ parts.2

/-- A field that was there is patched by the change of its key, or by null where
there is none. -/
theorem get?_patchedFields {fields changes : List (String × Json)} {key : String} {old : Json}
    (once : (Entries.keys changes).Nodup) (present : Entries.get? fields key = some old) :
    Entries.get? (patchedFields fields changes) key =
      some (old.patched ((Entries.get? changes key).getD null)) := by
  induction fields generalizing changes with
  | nil => cases present
  | cons field rest inductionHypothesis =>
      rcases field with ⟨name, value⟩
      rw [patchedFields_cons _ _ _ _ once, Entries.get?]
      rw [Entries.get?] at present
      by_cases same : name = key
      · rw [if_pos same] at present
        rw [if_pos same, same, Option.some.inj present]
      · rw [if_neg same] at present
        rw [if_neg same, inductionHypothesis (Entries.nodup_keys_erase _ _ once) present,
          Entries.get?_erase_of_ne _ _ _ (Ne.symm same)]

/-- A field that was not there is the change of its key as it stands.  A null adds
none. -/
theorem get?_patchedFields_of_none {fields changes : List (String × Json)} {key : String}
    (once : (Entries.keys changes).Nodup) (missing : Entries.get? fields key = none) :
    Entries.get? (patchedFields fields changes) key =
      (Entries.get? changes key).filter fun change => !change.isNull := by
  induction fields generalizing changes with
  | nil => rw [patchedFields_nil changes once, Entries.get?_filter once fun change => !change.isNull]
  | cons field rest inductionHypothesis =>
      rcases field with ⟨name, value⟩
      rw [Entries.get?] at missing
      by_cases same : name = key
      · rw [if_pos same] at missing
        cases missing
      · rw [if_neg same] at missing
        rw [patchedFields_cons _ _ _ _ once, Entries.get?, if_neg same,
          inductionHypothesis (Entries.nodup_keys_erase _ _ once) missing,
          Entries.get?_erase_of_ne _ _ _ (Ne.symm same)]

/-- Whether or not they are there, a field and its change are patched like values, when
null stands for what is missing. -/
theorem field_patchedFields (fields : List (String × Json)) {changes : List (String × Json)}
    (once : (Entries.keys changes).Nodup) (key : String) :
    (Entries.get? (patchedFields fields changes) key).getD null =
      ((Entries.get? fields key).getD null).patched ((Entries.get? changes key).getD null) := by
  cases present : Entries.get? fields key with
  | some old => rw [get?_patchedFields once present, Option.getD_some, Option.getD_some]
  | none =>
      rw [get?_patchedFields_of_none once present, Option.getD_none, null_patched]
      cases Entries.get? changes key with
      | none => rfl
      | some change => cases change <;> rfl

/-- A patch adds the keys of its values, and not those of its nulls. -/
theorem mem_keys_patchedFields_iff (fields : List (String × Json))
    {changes : List (String × Json)} (once : (Entries.keys changes).Nodup) (key : String) :
    key ∈ Entries.keys (patchedFields fields changes) ↔
      key ∈ Entries.keys fields ∨ ((Entries.get? changes key).getD null).isNull = false := by
  rw [← Entries.get?_isSome_iff, ← Entries.get?_isSome_iff]
  cases present : Entries.get? fields key with
  | some old => simp [get?_patchedFields once present]
  | none =>
      rw [get?_patchedFields_of_none once present]
      cases Entries.get? changes key with
      | none => simp [isNull]
      | some change => cases change <;> simp [isNull, Option.filter]

theorem nodup_keys_patchedFields {fields : List (String × Json)}
    (distinct : (Entries.keys fields).Nodup) (changes : List (String × Json)) :
    (Entries.keys (patchedFields fields changes)).Nodup := by
  induction changes generalizing fields with
  | nil => rwa [patchedFields]
  | cons change rest inductionHypothesis =>
      rw [patchedFields]
      split
      · exact inductionHypothesis (Entries.nodup_keys_put _ _ _ distinct)
      · split
        · exact inductionHypothesis distinct
        · exact inductionHypothesis (Entries.nodup_keys_put _ _ _ distinct)

mutual

/-- A test that every object passes, whatever its fields, is kept by a patch. -/
theorem every_patched {test : Json -> Bool} (objects : forall fields, test (object fields) = true) :
    forall patch target : Json, target.every test = true -> patch.every test = true ->
      (target.patched patch).every test = true
  | .object changes, target, old, new => by
      rw [every, objects, Bool.true_and] at new
      cases target with
      | object fields =>
          rw [every, objects, Bool.true_and] at old
          rw [patched, every, objects, Bool.true_and]
          exact everyField_patchedFields objects changes fields old new
      | _ => simpa [patched, every, objects] using new
  | .null, target, old, _ => by rwa [patched_null]
  | .boolean _, _, _, new => new
  | .integer _, _, _, new => new
  | .float _, _, _, new => new
  | .string _, _, _, new => new
  | .list _, _, _, new => new

theorem everyField_patchedFields {test : Json -> Bool}
    (objects : forall fields, test (object fields) = true) :
    forall changes fields : List (String × Json), everyField test fields = true ->
      everyField test changes = true -> everyField test (patchedFields fields changes) = true
  | [], _, old, _ => old
  | (key, change) :: rest, fields, old, new => by
      rw [everyField, Bool.and_eq_true] at new
      rw [patchedFields]
      cases found : Entries.get? fields key with
      | some value =>
          have kept := (everyField_iff test fields).mp old _ (Entries.mem_of_get?_eq_some found)
          exact everyField_patchedFields objects rest _
            (everyField_put old (every_patched objects change value kept new.1)) new.2
      | none =>
          simp only
          split
          · exact everyField_patchedFields objects rest fields old new.2
          · exact everyField_patchedFields objects rest _ (everyField_put old new.1) new.2

end

/-! ## Following paths -/

@[simp] theorem at?_nil (json : Json) : json.at? [] = some json := by
  cases json <;> rfl

theorem at?_object_cons (fields : List (String × Json)) (key : String) (rest : List String) :
    (object fields).at? (key :: rest) =
      (Entries.get? fields key).bind fun inner => inner.at? rest := rfl

/-- Only objects have anything below them. -/
theorem exists_of_at?_cons {json part : Json} {key : String} {rest : List String}
    (found : json.at? (key :: rest) = some part) :
    ∃ fields inner, json = object fields ∧ Entries.get? fields key = some inner ∧
      inner.at? rest = some part := by
  cases json with
  | object fields =>
      rcases Option.bind_eq_some_iff.mp found with ⟨inner, present, below⟩
      exact ⟨fields, inner, rfl, present, below⟩
  | _ => cases found

theorem at?_cons_of_isObject_eq_false {json : Json} (flat : json.isObject = false)
    (key : String) (rest : List String) : json.at? (key :: rest) = none := by
  cases json with
  | object _ => cases flat
  | _ => rfl

/-- A value that is no object is its only part. -/
theorem path_eq_nil {json part : Json} {path : List String} (flat : json.isObject = false)
    (found : json.at? path = some part) : path = [] := by
  cases path with
  | nil => rfl
  | cons key rest =>
      rw [at?_cons_of_isObject_eq_false flat] at found
      cases found

/-- The part at the end of a path is the old part under what the patch has there. -/
theorem at?_patched {target part : Json} {path : List String} (once : patch.distinct = true)
    (present : target.at? path = some part) (kept : patch.keepsAncestors path = true) :
    (target.patched patch).at? path = some (part.patched ((patch.at? path).getD null)) := by
  induction path generalizing target patch with
  | nil =>
      rw [at?_nil] at present
      simp [Option.some.inj present]
  | cons key rest inductionHypothesis =>
      rcases exists_of_at?_cons present with ⟨fields, old, rfl, found, below⟩
      cases patch with
      | null => simpa [at?] using present
      | object changes =>
          have parts := (distinct_object_iff changes).mp once
          rw [patched, at?_object_cons, get?_patchedFields parts.1 found, Option.bind_some,
            inductionHypothesis (distinct_field parts.2 key) below ?_]
          · cases change : Entries.get? changes key with
            | some inner => simp [at?_object_cons, change]
            | none => cases rest <;> simp [change, at?]
          · rw [keepsAncestors] at kept
            cases change : Entries.get? changes key with
            | some inner => simpa [change] using kept
            | none => cases rest <;> rfl
      | _ => cases kept

/-- A patch that spares a path replaces nothing on the way and has nothing at its
end. -/
theorem spares_iff (patch : Json) (path : List String) :
    patch.spares path = true ↔
      patch.keepsAncestors path = true ∧ (patch.at? path).getD null = null := by
  induction path generalizing patch with
  | nil => cases patch <;> simp [spares, keepsAncestors]
  | cons key rest inductionHypothesis =>
      cases patch with
      | object changes =>
          rw [spares, keepsAncestors, at?_object_cons]
          cases Entries.get? changes key with
          | some inner => exact inductionHypothesis inner
          | none => simp
      | _ => simp [spares, keepsAncestors, at?]

/-- What is found in a patch has only objects above it. -/
theorem keepsAncestors_of_at? {path : List String} {part : Json}
    (present : patch.at? path = some part) : patch.keepsAncestors path = true := by
  induction path generalizing patch with
  | nil => cases patch <;> rfl
  | cons key rest inductionHypothesis =>
      rcases exists_of_at?_cons present with ⟨changes, inner, rfl, found, below⟩
      simp [keepsAncestors, found, inductionHypothesis below]

/-- A path is kept when the patch replaces no proper ancestor of its end. -/
theorem keepsAncestors_iff (patch : Json) (path : List String) :
    patch.keepsAncestors path = true ↔
      forall before key after value, path = before ++ key :: after ->
        patch.at? before = some value -> value.replaces = false := by
  induction path generalizing patch with
  | nil => simp [keepsAncestors]
  | cons name rest inductionHypothesis =>
      constructor
      · intro kept before key after value split found
        cases before with
        | nil =>
            rw [at?_nil] at found
            cases Option.some.inj found
            cases patch <;> first | rfl | cases kept
        | cons first before =>
            cases split
            rcases exists_of_at?_cons found with ⟨changes, inner, rfl, present, below⟩
            simp only [keepsAncestors, present] at kept
            exact (inductionHypothesis inner).mp kept before key after value rfl below
      · intro spared
        have root := spared [] name rest patch rfl (at?_nil patch)
        cases patch with
        | null => rfl
        | object changes =>
            rw [keepsAncestors]
            cases present : Entries.get? changes name with
            | none => rfl
            | some inner =>
                refine (inductionHypothesis inner).mpr fun before key after value split found => ?_
                exact spared (name :: before) key after value (split ▸ rfl)
                  (by rw [at?_object_cons, present]; exact found)
        | _ => cases root

end Json
end ThemedStyles
