import Mathlib.Data.List.Forall2
import ThemedStyles.Proofs.Json.Paths

namespace ThemedStyles
namespace Json

/-!
# Patches one after the other

Two patches for one target may be patched into each other first, and then into the
target.  At almost every field the two ways take different branches: a null is
dropped where the field is new, ignored where it is there, kept inside of an object
that is new, and replaced by a later patch.  The values come out the same, because
on both ways a missing field behaves like a null.  Only the order of the fields may
differ, for a null that is kept in the joined patch keeps a place as well.

The one condition is that the later patch meets no flat value of the earlier one
with an object.  There the joined patch would no longer tell that the target had to
be replaced, and would patch the object into the old fields.

The same patch a second time changes nothing at all, not even an order.
-/

/-- Values that are the same but for the order of object fields. -/
inductive SameButOrder : Json -> Json -> Prop where
  | same (json : Json) : SameButOrder json json
  | list {items others : List Json} (each : List.Forall₂ SameButOrder items others) :
      SameButOrder (list items) (list others)
  | object {fields others : List (String × Json)}
      (keys : (Entries.keys fields).Perm (Entries.keys others))
      (values : forall key value other, Entries.get? fields key = some value ->
        Entries.get? others key = some other -> SameButOrder value other) :
      SameButOrder (object fields) (object others)

/-- Nowhere does the first patch put a flat value where the second one has an object. -/
def Composable (first second : Json) : Prop :=
  forall path early late, first.at? path = some early -> second.at? path = some late ->
    early.replaces = true -> late.isObject = false

mutual

/-- Does the second patch have an object where the first one puts a flat value? -/
def clashes (first : Json) : (second : Json) -> Bool
  | object changes =>
      match first with
      | object earlier => clashesField earlier changes
      | null => false
      | _ => true
  | _ => false

/-- Is there such a place below the fields of two patches? -/
def clashesField (earlier : List (String × Json)) : (changes : List (String × Json)) -> Bool
  | [] => false
  | (key, change) :: rest =>
      ((Entries.get? earlier key).getD null).clashes change || clashesField earlier rest

end

/-! ## Which patches compose -/

/-- A null below which nothing is found composes with everything. -/
theorem composable_null (second : Json) : Composable null second := by
  intro path early late found _ replaced
  cases path_eq_nil rfl found
  cases found
  cases replaced

theorem composable_of_isObject_eq_false (first : Json) {second : Json}
    (flat : second.isObject = false) : Composable first second := by
  intro path early late _ found _
  cases path_eq_nil flat found
  rw [at?_nil] at found
  exact Option.some.inj found ▸ flat

/-- Objects compose as patches if the values of every key do. -/
theorem composable_object_iff (earlier changes : List (String × Json)) :
    Composable (object earlier) (object changes) ↔
      forall key, Composable ((Entries.get? earlier key).getD null)
        ((Entries.get? changes key).getD null) := by
  constructor
  · intro composable key
    cases before : Entries.get? earlier key with
    | none => exact composable_null _
    | some value =>
        cases after : Entries.get? changes key with
        | none => exact composable_of_isObject_eq_false _ rfl
        | some change =>
            intro path early late found foundLate
            apply composable (key :: path)
            · rw [at?_object_cons, before]
              exact found
            · rw [at?_object_cons, after]
              exact foundLate
  · intro each path early late found foundLate
    cases path with
    | nil =>
        intro replaced
        cases found
        cases replaced
    | cons key rest =>
        rcases exists_of_at?_cons found with ⟨_, value, same, before, below⟩
        rcases exists_of_at?_cons foundLate with ⟨_, change, sameLate, after, belowLate⟩
        cases same
        cases sameLate
        have values := each key
        rw [before, after] at values
        exact values rest early late below belowLate

theorem clashesField_eq_false_iff (earlier changes : List (String × Json)) :
    clashesField earlier changes = false ↔
      forall change, change ∈ changes ->
        ((Entries.get? earlier change.1).getD null).clashes change.2 = false := by
  induction changes with
  | nil => simp [clashesField]
  | cons change rest inductionHypothesis =>
      simp only [clashesField, Bool.or_eq_false_iff, inductionHypothesis, List.forall_mem_cons]

/-- Patches that do not clash compose. -/
theorem composable_of_clashes {first second : Json} (apart : first.clashes second = false) :
    Composable first second := by
  induction second using induction_on_fields generalizing first with
  | flat second flat => exact composable_of_isObject_eq_false first flat
  | deep changes inductionHypothesis =>
      cases first with
      | null => exact composable_null _
      | object earlier =>
          rw [clashes] at apart
          rw [composable_object_iff]
          intro key
          cases found : Entries.get? changes key with
          | none => exact composable_of_isObject_eq_false _ rfl
          | some change =>
              have member := Entries.mem_of_get?_eq_some found
              apply inductionHypothesis _ member
              exact (clashesField_eq_false_iff earlier changes).mp apart _ member
      | _ => cases apart

/-! ## The same patch again -/

/-- A value that is its own patch at every field keeps its fields, and keeps them too
if some of its nulls are left out. -/
theorem patchedFields_filter_self {changes : List (String × Json)}
    (once : (Entries.keys changes).Nodup)
    (values : forall change, change ∈ changes -> change.2.patched change.2 = change.2)
    (kept : String × Json -> Bool)
    (nulls : forall change, kept change = false -> change.2 = null) :
    patchedFields (changes.filter kept) changes = changes.filter kept := by
  induction changes with
  | nil => rfl
  | cons change rest inductionHypothesis =>
      rcases change with ⟨key, value⟩
      have parts : key ∉ Entries.keys rest ∧ (Entries.keys rest).Nodup := List.nodup_cons.mp once
      rw [List.forall_mem_cons] at values
      have later := inductionHypothesis parts.2 values.2
      cases listed : kept (key, value) with
      | true =>
          have first : Entries.get? ((key, value) :: rest) key = some value := if_pos rfl
          have others : Entries.erase ((key, value) :: rest) key = rest := if_pos rfl
          rw [List.filter_cons_of_pos listed, patchedFields_cons _ _ _ _ once, first, others,
            Option.getD_some, values.1, later]
      | false =>
          have empty : value = null := nulls (key, value) listed
          rw [List.filter_cons_of_neg (by simp [listed]), patchedFields,
            Entries.get?_filter_eq_none parts.1, empty]
          exact later

/-- Fields that were patched or added stay as they are if every change is settled by one
patch. -/
theorem patchedFields_patchedFields_self (fields : List (String × Json))
    {changes : List (String × Json)} (once : (Entries.keys changes).Nodup)
    (again : forall change, change ∈ changes -> forall old : Json,
      (old.patched change.2).patched change.2 = old.patched change.2) :
    patchedFields (patchedFields fields changes) changes = patchedFields fields changes := by
  induction fields generalizing changes with
  | nil =>
      rw [patchedFields_nil changes once]
      apply patchedFields_filter_self once
      · intro change member
        simpa using again change member null
      · rintro ⟨key, value⟩ dropped
        cases value <;> first | rfl | cases dropped
  | cons field rest inductionHypothesis =>
      rcases field with ⟨key, old⟩
      have first : (old.patched ((Entries.get? changes key).getD null)).patched
          ((Entries.get? changes key).getD null) =
            old.patched ((Entries.get? changes key).getD null) := by
        cases found : Entries.get? changes key with
        | none => simp
        | some change => exact again _ (Entries.mem_of_get?_eq_some found) old
      have later := inductionHypothesis (Entries.nodup_keys_erase changes key once)
        fun change member => again change ((Entries.erase_sublist changes key).subset member)
      rw [patchedFields_cons _ _ _ _ once, patchedFields_cons _ _ _ _ once, first, later]

/-- A patch that is applied again changes nothing, and not the order of any fields. -/
theorem patched_again (target : Json) {patch : Json} (distinct : patch.distinct = true) :
    (target.patched patch).patched patch = target.patched patch := by
  induction patch using induction_on_fields generalizing target with
  | flat patch flat =>
      rcases eq_null_or_replaces flat with rfl | replaced
      · rw [patched_null]
      · rw [patched_of_replaces _ replaced, patched_of_replaces _ replaced]
  | deep changes inductionHypothesis =>
      have parts := (distinct_object_iff changes).mp distinct
      have again : forall change, change ∈ changes -> forall old : Json,
          (old.patched change.2).patched change.2 = old.patched change.2 :=
        fun change member old => inductionHypothesis change member old (parts.2 change member)
      have patch_meets_itself : patchedFields changes changes = changes := by
        have whole : (changes.filter fun _ => true) = changes :=
          List.filter_eq_self.mpr fun _ _ => rfl
        have kept := patchedFields_filter_self parts.1
          (fun change member => by simpa using again change member null) (fun _ => true) nofun
        rwa [whole] at kept
      cases target with
      | object fields =>
          exact congrArg object (patchedFields_patchedFields_self fields parts.1 again)
      | _ => exact congrArg object patch_meets_itself

/-- A null under a new key is dropped twice, one inside of a new object is kept twice, and
a flat value gives way to an object once. -/
theorem nulls_patched_again :
    let target := object [("size", integer 1), ("gap", null)]
    let patch := object [("size", object [("min", null)]), ("none", null), ("gap", string "8px"),
      ("grid", object [("rows", null), ("columns", list [null])])]
    patch.distinct = true ∧ (target.patched patch).patched patch = target.patched patch := by
  intro target patch
  have distinct : patch.distinct = true := by decide
  exact ⟨distinct, patched_again target distinct⟩

/-! ## Two patches as one -/

/-- The keys of two patches that are applied to the fields of an object, at once or one
after the other. -/
theorem perm_keys_patchedFields {fields earlier later : List (String × Json)}
    (distinct : (Entries.keys fields).Nodup) (once : (Entries.keys earlier).Nodup)
    (onceLater : (Entries.keys later).Nodup) :
    (Entries.keys (patchedFields (patchedFields fields earlier) later)).Perm
      (Entries.keys (patchedFields fields (patchedFields earlier later))) := by
  have joined := nodup_keys_patchedFields once later
  rw [List.perm_ext_iff_of_nodup
    (nodup_keys_patchedFields (nodup_keys_patchedFields distinct earlier) later)
    (nodup_keys_patchedFields distinct _)]
  intro key
  rw [mem_keys_patchedFields_iff _ onceLater, mem_keys_patchedFields_iff _ once,
    mem_keys_patchedFields_iff _ joined, field_patchedFields _ onceLater, isNull_patched,
    Bool.and_eq_false_iff, or_assoc]

/-- If both ways give the same at every key, they give the same fields but for their
order. -/
theorem sameButOrder_patchedFields {fields earlier later : List (String × Json)}
    (distinct : (Entries.keys fields).Nodup) (once : (Entries.keys earlier).Nodup)
    (onceLater : (Entries.keys later).Nodup)
    (values : forall key,
      let old := (Entries.get? fields key).getD null
      let early := (Entries.get? earlier key).getD null
      let late := (Entries.get? later key).getD null
      SameButOrder ((old.patched early).patched late) (old.patched (early.patched late))) :
    SameButOrder (object (patchedFields (patchedFields fields earlier) later))
      (object (patchedFields fields (patchedFields earlier later))) := by
  refine .object (perm_keys_patchedFields distinct once onceLater) ?_
  intro key value other found foundOther
  have stepwise := field_patchedFields (patchedFields fields earlier) onceLater key
  have joined := field_patchedFields fields (nodup_keys_patchedFields once later) key
  rw [found, Option.getD_some, field_patchedFields fields once] at stepwise
  rw [foundOther, Option.getD_some, field_patchedFields earlier onceLater] at joined
  rw [stepwise, joined]
  exact values key

/-- One patch and then another come to the same as the patch that the second makes of the
first, but for the order of fields.  A target that is no object gives way to the first patch
on either way. -/
theorem patched_patched {target first second : Json} (distinct : target.distinct = true)
    (distinctFirst : first.distinct = true) (distinctSecond : second.distinct = true)
    (composable : Composable first second) :
    SameButOrder ((target.patched first).patched second)
      (target.patched (first.patched second)) := by
  induction second using induction_on_fields generalizing target first with
  | flat second flat =>
      rcases eq_null_or_replaces flat with rfl | replaced
      · rw [patched_null, patched_null]
        exact .same _
      · rw [patched_of_replaces _ replaced, patched_of_replaces _ replaced,
          patched_of_replaces _ replaced]
        exact .same second
  | deep later inductionHypothesis =>
      cases first with
      | null =>
          rw [patched_null, null_patched]
          exact .same _
      | object earlier =>
          cases target with
          | object fields =>
              have parts := (distinct_object_iff fields).mp distinct
              have partsFirst := (distinct_object_iff earlier).mp distinctFirst
              have partsSecond := (distinct_object_iff later).mp distinctSecond
              apply sameButOrder_patchedFields parts.1 partsFirst.1 partsSecond.1
              intro key old early late
              have below : Composable early late :=
                (composable_object_iff earlier later).mp composable key
              have distinctOld : old.distinct = true := distinct_field parts.2 key
              have distinctEarly : early.distinct = true := distinct_field partsFirst.2 key
              cases found : Entries.get? later key with
              | none =>
                  have not_in_second : late = null := congrArg (·.getD null) found
                  rw [not_in_second, patched_null, patched_null]
                  exact .same _
              | some change =>
                  have present : late = change := congrArg (·.getD null) found
                  have member := Entries.mem_of_get?_eq_some found
                  rw [present] at below ⊢
                  exact inductionHypothesis _ member distinctOld distinctEarly
                    (partsSecond.2 _ member) below
          | _ => exact .same _
      | _ => exact absurd (composable [] _ _ (at?_nil _) (at?_nil _) rfl) Bool.noConfusion

/-- The null for the gap is dropped where the first patch meets the target, and keeps its
place where it meets the second patch. -/
theorem gap_keeps_its_place :
    let target := object [("size", integer 1), ("none", null)]
    let first := object [("gap", null), ("grid", object [("rows", null)])]
    let second := object [("grid", object [("rows", object [("min", null)])]),
      ("gap", string "8px"), ("none", object [])]
    let size := ("size", integer 1)
    let none := ("none", object [])
    let grid := ("grid", object [("rows", object [("min", null)])])
    let gap := ("gap", string "8px")
    (target.distinct = true ∧ first.distinct = true ∧ second.distinct = true ∧
      Composable first second) ∧
    (target.patched first).patched second = object [size, none, grid, gap] ∧
    target.patched (first.patched second) = object [size, none, gap, grid] ∧
    SameButOrder ((target.patched first).patched second)
      (target.patched (first.patched second)) := by
  intro target first second size none grid gap
  have distinct : target.distinct = true := by decide
  have distinctFirst : first.distinct = true := by decide
  have distinctSecond : second.distinct = true := by decide
  have composable : Composable first second := composable_of_clashes (by decide)
  exact ⟨⟨distinct, distinctFirst, distinctSecond, composable⟩, rfl, rfl,
    patched_patched distinct distinctFirst distinctSecond composable⟩

end Json
end ThemedStyles
