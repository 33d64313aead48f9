import ThemedStyles.Proofs.Json.Paths

namespace ThemedStyles
namespace Json

/-!
# Nulls in a patched value

A null in a patch leaves the target alone, and no field is added for it.  This rule
ends where the patch brings an object for which the target has none: such an object
is taken as it stands, with the nulls that are in it.

So a null in a patched value is either an old one, which the patch has spared, or one
of the patch, and then the target had no object to hold it.
-/

theorem exists_of_isObject {json : Json} (deep : json.isObject = true) :
    ∃ fields, json = object fields := by
  cases json with
  | object fields => exact ⟨fields, rfl⟩
  | _ => cases deep

/-- Is there an object at the end of the path? -/
def holdsObject (json : Json) (path : List String) : Bool := (json.at? path).any isObject

theorem holdsObject_object_cons (fields : List (String × Json)) (key : String)
    (rest : List String) :
    (object fields).holdsObject (key :: rest) =
      (Entries.get? fields key).any fun inner => inner.holdsObject rest := by
  rw [holdsObject, at?_object_cons]
  cases Entries.get? fields key <;> rfl

/-- Has the value no object that could hold the end of the path? -/
def lacksHolder (json : Json) (path : List String) : Bool :=
  !path.isEmpty && !json.holdsObject path.dropLast

theorem lacksHolder_of_isObject_eq_false {json : Json} (flat : json.isObject = false)
    (key : String) (rest : List String) : json.lacksHolder (key :: rest) = true := by
  cases rest with
  | nil => simp [lacksHolder, holdsObject, flat]
  | cons next rest => simp [lacksHolder, holdsObject, at?_cons_of_isObject_eq_false flat]

/-- Below an object, the end of a path is held where the fields hold it, or by the object
itself. -/
theorem lacksHolder_object_cons_iff (fields : List (String × Json)) (key : String)
    (rest : List String) :
    (object fields).lacksHolder (key :: rest) = true ↔
      rest ≠ [] ∧ forall inner, Entries.get? fields key = some inner ->
        inner.lacksHolder rest = true := by
  cases rest with
  | nil => simp [lacksHolder, holdsObject, isObject]
  | cons next rest =>
      rw [lacksHolder, List.dropLast_cons_cons, holdsObject_object_cons]
      cases Entries.get? fields key <;> simp [lacksHolder]

theorem patched_eq_null_iff (target patch : Json) :
    target.patched patch = null ↔ target = null ∧ patch = null := by
  have null_iff : forall json : Json, json = null ↔ json.isNull = true := by
    intro json
    cases json <;> simp [isNull]
  rw [null_iff, null_iff target, null_iff patch, isNull_patched, Bool.and_eq_true]

/-- Below a field that was there, one finds what is below the patched field; below any
other, what is below the change as it stands. -/
theorem at?_patched_object_cons (fields : List (String × Json)) {changes : List (String × Json)}
    (once : (Entries.keys changes).Nodup) (key : String) (rest : List String) :
    ((object fields).patched (object changes)).at? (key :: rest) =
      match Entries.get? fields key with
      | some old => (old.patched ((Entries.get? changes key).getD null)).at? rest
      | none => ((Entries.get? changes key).filter fun change => !change.isNull).bind
          fun change => change.at? rest := by
  rw [patched, at?_object_cons]
  cases present : Entries.get? fields key with
  | some old => rw [get?_patchedFields once present, Option.bind_some]
  | none => rw [get?_patchedFields_of_none once present]

/-- Null has no parts but itself. -/
theorem at?_null_eq_null_iff (path : List String) : null.at? path = some null ↔ path = [] := by
  cases path <;> simp [at?]

/-- A change that is added as a new field brings the nulls inside of it, but is not added if
it is null itself. -/
theorem at?_added_eq_null_iff (change : Option Json) (rest : List String) :
    ((change.filter fun change => !change.isNull).bind fun change => change.at? rest) =
        some null ↔
      (change.bind fun change => change.at? rest) = some null ∧ rest ≠ [] := by
  cases change with
  | none => simp
  | some change => cases rest <;> cases change <;> simp [at?, isNull, Option.filter]

/-- A null in a patched value is an old one that the patch has spared, or one of the patch
that came with an object which the target did not have. -/
theorem at?_patched_eq_null_iff (target : Json) {patch : Json} (distinct : patch.distinct = true)
    (path : List String) :
    (target.patched patch).at? path = some null ↔
      (target.at? path = some null ∧ patch.spares path = true) ∨
        (patch.at? path = some null ∧ target.lacksHolder path = true) := by
  induction path generalizing target patch with
  | nil =>
      have spared : patch.spares [] = true ↔ patch = null := by cases patch <;> simp [spares]
      simp [patched_eq_null_iff, spared, lacksHolder]
  | cons key rest inductionHypothesis =>
      cases patch with
      | null => simp [spares, at?]
      | object changes =>
          have parts := (distinct_object_iff changes).mp distinct
          cases deep : target.isObject with
          | false =>
              rw [patched_of_isObject_eq_false deep rfl, at?_cons_of_isObject_eq_false deep,
                and_iff_left (lacksHolder_of_isObject_eq_false deep key rest)]
              simp only [reduceCtorEq, false_and, false_or]
          | true =>
              obtain ⟨fields, rfl⟩ := exists_of_isObject deep
              rw [at?_patched_object_cons fields parts.1, lacksHolder_object_cons_iff,
                at?_object_cons, at?_object_cons, spares]
              cases present : Entries.get? fields key with
              | some old =>
                  have nonempty : old.lacksHolder rest = true -> rest ≠ [] := by
                    rintro lacking rfl
                    cases lacking
                  have below := inductionHypothesis old (distinct_field parts.2 key)
                  simp only [below, Option.bind_some, Option.some.injEq, forall_eq',
                    and_iff_right_of_imp nonempty]
                  cases Entries.get? changes key with
                  | some change => rfl
                  | none =>
                      have spared : null.spares rest = true := by cases rest <;> rfl
                      have held : null.at? rest = some null -> old.lacksHolder rest = false :=
                        fun itself => Bool.eq_false_iff.mpr fun lacking =>
                          nonempty lacking ((at?_null_eq_null_iff rest).mp itself)
                      simp +contextual [spared, held]
              | none =>
                  rw [at?_added_eq_null_iff]
                  simp
      | _ => simp [patched, spares, at?]

/-- The patch puts a null below the gap, which was no object; of the nulls for the size, the
one that is left was there before. -/
theorem gap_comes_with_null :
    let target := object [("gap", integer 1), ("size", object [("min", null), ("max", integer 4)])]
    let patch := object [("size", object [("min", null), ("max", null), ("step", null)]),
      ("gap", object [("min", null)])]
    patch.distinct = true ∧
    (target.patched patch).at? ["gap", "min"] = some null ∧
    (target.patched patch).at? ["size", "min"] = some null ∧
    (target.patched patch).at? ["size", "max"] ≠ some null := by
  intro target patch
  have distinct : patch.distinct = true := by decide
  refine ⟨distinct, ?_, ?_, ?_⟩
  · exact (at?_patched_eq_null_iff target distinct ["gap", "min"]).mpr (Or.inr ⟨rfl, rfl⟩)
  · exact (at?_patched_eq_null_iff target distinct ["size", "min"]).mpr (Or.inl ⟨rfl, rfl⟩)
  · intro found
    rcases (at?_patched_eq_null_iff target distinct ["size", "max"]).mp found with
      ⟨old, _⟩ | ⟨_, lacking⟩
    · cases old
    · cases lacking

/-- The rule that nulls of a patch are ignored does not reach into an object that is new. -/
theorem new_object_brings_null :
    ¬ forall (target patch : Json) (path : List String), target.distinct = true ->
      patch.distinct = true -> (target.patched patch).at? path = some null ->
        target.at? path = some null := by
  intro ignored
  have old := ignored (object []) (object [("grid", object [("rows", null)])]) ["grid", "rows"]
    (by decide) (by decide) rfl
  cases old

end Json
end ThemedStyles
