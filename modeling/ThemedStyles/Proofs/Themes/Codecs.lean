import ThemedStyles.Proofs.Json.Paths

namespace ThemedStyles

/-!
# Records as documents

A codec writes values as JSON and reads them.  The codec of a record has a field
for every part of the record, each with a codec of its own; a record is written as
the object of all its fields, and is read from the fields of an object, or from a
list of them in their order.

What a patch does to a record it does to each field by itself.  So three laws of
the codec of a record follow from those of its fields: reading undoes writing, a
patch that is applied again changes nothing any more, and the parts of a document
are found where the patch has put them.
-/

/-- A way to write values as JSON and to read them. -/
structure Codec (α : Type) where
  read : Json -> Option α
  write : α -> Json

/-- A field of a record: the part of the record that it holds, and what is read
where the field is missing. -/
structure RecordField (α : Type) where
  {β : Type}
  name : String
  part : α -> β
  codec : Codec β
  missing : Option β := none

namespace RecordField

variable {α : Type}

/-- What the fields of a document say about the part. -/
def look (field : RecordField α) (fields : Entries Json) : Option field.β :=
  match Entries.get? fields field.name with
  | some json => field.codec.read json
  | none => field.missing

theorem look_of_get? {field : RecordField α} {fields : Entries Json} {json : Json}
    (found : Entries.get? fields field.name = some json) :
    field.look fields = field.codec.read json := by
  rw [look, found]

def written (value : α) (field : RecordField α) : String × Json :=
  (field.name, field.codec.write (field.part value))

theorem get?_written {fields : List (RecordField α)}
    (distinct : (fields.map RecordField.name).Nodup) (value : α) {field : RecordField α}
    (member : field ∈ fields) :
    Entries.get? (fields.map (written value)) field.name =
      some (field.codec.write (field.part value)) := by
  induction fields with
  | nil => cases member
  | cons first rest inductionHypothesis =>
      rw [List.map_cons, List.nodup_cons] at distinct
      rw [List.map_cons, written, Entries.get?]
      rcases List.mem_cons.mp member with rfl | later
      · rw [if_pos rfl]
      · have away : first.name ≠ field.name := fun same =>
          distinct.1 (same ▸ List.mem_map_of_mem later)
        rw [if_neg away, inductionHypothesis distinct.2 later]

/-- Whatever is found among the written fields was written for one of them. -/
theorem exists_of_get?_written {fields : List (RecordField α)} {value : α} {key : String}
    {json : Json} (found : Entries.get? (fields.map (written value)) key = some json) :
    ∃ field, field ∈ fields ∧ field.name = key ∧ json = field.codec.write (field.part value) := by
  obtain ⟨field, member, equal⟩ := List.mem_map.mp (Entries.mem_of_get?_eq_some found)
  rw [written, Prod.mk.injEq] at equal
  exact ⟨field, member, equal.1, equal.2.symm⟩

end RecordField

namespace Codec

variable {α : Type}

/-- A document as the codec reads and then writes it. -/
def shown (codec : Codec α) (part : Json) : Option Json := (codec.read part).map codec.write

/-- What a patch has made of a value stays so under the same patch. -/
def Settles (codec : Codec α) : Prop :=
  forall patch : Json, patch.distinct = true -> forall value changed,
    codec.read ((codec.write value).patched patch) = some changed ->
      codec.read ((codec.write changed).patched patch) = some changed

/-- The parts of documents are read by themselves, as `shown` says for every path:
the leaves of what is read are those of the document so read. -/
structure Legible (codec : Codec α) (shown : (path : List String) -> Json -> Option Json) :
    Prop where
  /-- The document has a part in some place where values of this kind have one. -/
  read : forall {json part : Json} {value : α} {path : List String} {other : α} {known : Json},
    codec.read json = some value -> json.at? path = some part ->
    (codec.write other).at? path = some known ->
      ((codec.write value).at? path).isSome = true ∧
        (known.isObject = false -> (codec.write value).at? path = shown path part)
  /-- A leaf that was written is shown as it is. -/
  written : forall {value : α} {path : List String} {leaf other : Json},
    (codec.write value).at? path = some leaf -> leaf.isObject = false ->
    shown path leaf = some other -> other = leaf

/-! ## Values without parts -/

/-- The codec writes no objects, and what it has read from its own writing it
writes in the same way. -/
structure Flat (codec : Codec α) : Prop where
  leaf : forall value, (codec.write value).isObject = false
  again : forall {value other}, codec.read (codec.write value) = some other ->
    codec.write other = codec.write value

/-- Null leaves what was written, and any other patch takes its place. -/
theorem Flat.settles {codec : Codec α} (flat : codec.Flat) : codec.Settles := by
  intro patch _ value changed read
  cases empty : patch.isNull with
  | true =>
      cases patch with
      | null =>
          rw [Json.patched_null] at read ⊢
          rw [flat.again read, read]
      | _ => cases empty
  | false =>
      rw [Json.patched_of_isObject_eq_false (flat.leaf _) empty] at read ⊢
      exact read

/-- A value without parts is its only leaf. -/
theorem Flat.legible {codec : Codec α} (flat : codec.Flat)
    {shown : (path : List String) -> Json -> Option Json} (own : shown [] = codec.shown) :
    codec.Legible shown where
  read := by
    intro json part value path other known read found place
    cases Json.path_eq_nil (flat.leaf other) place
    rw [Json.at?_nil] at found ⊢
    cases found
    exact ⟨rfl, fun _ => by rw [own, Codec.shown, read]; rfl⟩
  written := by
    intro value path leaf other found _ shows
    cases Json.path_eq_nil (flat.leaf value) found
    rw [Json.at?_nil] at found
    cases found
    rw [own] at shows
    obtain ⟨next, read, rfl⟩ := Option.map_eq_some_iff.mp shows
    exact flat.again read

/-! ## Records -/

/-- The codec is that of a record with these fields. -/
structure Describes (codec : Codec α) (fields : List (RecordField α)) : Prop where
  names : (fields.map RecordField.name).Nodup
  write : forall value, codec.write value = .object (fields.map (RecordField.written value))
  read : forall {json value}, codec.read json = some value ↔
    ∃ entries, json.record? (fields.map RecordField.name) = some entries ∧
      forall field, field ∈ fields -> field.look entries = some (field.part value)

namespace Describes

variable {codec : Codec α} {fields : List (RecordField α)}

/-- A record is read as another one if each of its fields is. -/
theorem read_write (described : codec.Describes fields) {value other : α}
    (each : forall field, field ∈ fields ->
      field.codec.read (field.codec.write (field.part value)) = some (field.part other)) :
    codec.read (codec.write value) = some other := by
  rw [described.write, described.read]
  refine ⟨_, rfl, fun field member => ?_⟩
  rw [RecordField.look_of_get? (RecordField.get?_written described.names value member),
    each field member]

/-- The numbers of a record are those of its fields. -/
theorem finite_write (described : codec.Describes fields) {value : α}
    (each : forall field, field ∈ fields ->
      (field.codec.write (field.part value)).finite = true) :
    (codec.write value).finite = true := by
  rw [described.write]
  refine (Json.everyField_iff Json.numberInRange _).mpr fun entry member => ?_
  obtain ⟨field, inside, rfl⟩ := List.mem_map.mp member
  exact each field inside

/-- The changes of a patch on a record, where a null has none. -/
private theorem exists_changes {patch : Json} (once : patch.distinct = true)
    (merges : patch.replaces = false) : ∃ changes, (Json.object changes).distinct = true ∧
      forall entries, (Json.object entries).patched patch =
        .object (Json.patchedFields entries changes) := by
  cases patch with
  | null => exact ⟨[], rfl, fun _ => rfl⟩
  | object changes => exact ⟨changes, once, fun _ => rfl⟩
  | _ => cases merges

/-- What is read as a part of the record is a part of the document. -/
theorem exists_read_part (described : codec.Describes fields) {json : Json} {value : α}
    (finite : json.finite = true) (read : codec.read json = some value) {field : RecordField α}
    (member : field ∈ fields) (required : field.missing = none) :
    ∃ inner, inner.finite = true ∧ field.codec.read inner = some (field.part value) := by
  rcases described.read.mp read with ⟨entries, record, parts⟩
  have looked := parts field member
  cases found : Entries.get? entries field.name with
  | none =>
      rw [RecordField.look, found] at looked
      cases required.symm.trans looked
  | some inner =>
      rw [RecordField.look_of_get? found] at looked
      exact ⟨inner, Json.every_of_record? record finite _ (Entries.mem_of_get?_eq_some found),
        looked⟩

/-- What a document has below the name of a field is read as that part. -/
theorem exists_read_at (described : codec.Describes fields) {json part : Json} {value : α}
    (read : codec.read json = some value) {field : RecordField α} (member : field ∈ fields)
    {rest : List String} (found : json.at? (field.name :: rest) = some part) :
    ∃ inner, field.codec.read inner = some (field.part value) ∧ inner.at? rest = some part := by
  rcases Json.exists_of_at?_cons found with ⟨entries, inner, rfl, present, below⟩
  rcases described.read.mp read with ⟨looked, same, parts⟩
  cases same
  have partRead := parts field member
  rw [RecordField.look_of_get? present] at partRead
  exact ⟨inner, partRead, below⟩

theorem read_of_at? (described : codec.Describes fields) {json part : Json} {value : α}
    (read : codec.read json = some value) {field : RecordField α} (member : field ∈ fields)
    (found : json.at? [field.name] = some part) :
    field.codec.read part = some (field.part value) := by
  rcases described.exists_read_at read member found with ⟨inner, partRead, here⟩
  rw [Json.at?_nil] at here
  exact Option.some.inj here ▸ partRead

/-- A record settles if its fields do: under the changes of a patch, each of them is looked
up as its own patch. -/
theorem settles (described : codec.Describes fields)
    (each : forall field, field ∈ fields -> field.codec.Settles) : codec.Settles := by
  intro patch once value changed read
  cases replaces : patch.replaces with
  | true =>
      rw [Json.patched_of_replaces _ replaces] at read ⊢
      exact read
  | false =>
      obtain ⟨changes, distinct, patched⟩ := exists_changes once replaces
      have parts := (Json.distinct_object_iff changes).mp distinct
      have look : forall start : α, forall field, field ∈ fields ->
          field.look (Json.patchedFields (fields.map (RecordField.written start)) changes) =
            field.codec.read ((field.codec.write (field.part start)).patched
              ((Entries.get? changes field.name).getD .null)) := fun start field member =>
        RecordField.look_of_get?
          (Json.get?_patchedFields parts.1 (RecordField.get?_written described.names start member))
      rw [described.write, patched, described.read] at read ⊢
      rcases read with ⟨entries, same, found⟩
      cases same
      refine ⟨_, rfl, fun field member => ?_⟩
      have first := found field member
      rw [look value field member] at first
      rw [look changed field member]
      exact each field member _ (Json.distinct_field parts.2 _) _ _ first

/-- A record has no leaf in its own place; all its leaves are below a field. -/
theorem legible (described : codec.Describes fields)
    {shown : (path : List String) -> Json -> Option Json}
    (each : forall field, field ∈ fields ->
      field.codec.Legible fun rest => shown (field.name :: rest)) : codec.Legible shown where
  read := by
    intro json part value path other known read found place
    cases path with
    | nil =>
        rw [Json.at?_nil] at place ⊢
        refine ⟨rfl, fun flat => ?_⟩
        rw [described.write] at place
        cases place
        cases flat
    | cons key rest =>
        rw [described.write] at place
        rcases Json.exists_of_at?_cons place with ⟨_, form, same, written, last⟩
        cases same
        rcases RecordField.exists_of_get?_written written with ⟨field, member, rfl, rfl⟩
        rcases described.exists_read_at read member found with ⟨inner, partRead, below⟩
        rw [described.write, Json.at?_object_cons,
          RecordField.get?_written described.names value member]
        exact (each field member).read partRead below last
  written := by
    intro value path leaf other found flat shows
    rw [described.write] at found
    cases path with
    | nil =>
        rw [Json.at?_nil] at found
        cases found
        cases flat
    | cons key rest =>
        rcases Json.exists_of_at?_cons found with ⟨_, inner, same, present, below⟩
        cases same
        rcases RecordField.exists_of_get?_written present with ⟨field, member, rfl, rfl⟩
        exact (each field member).written below flat shows

end Describes
end Codec
end ThemedStyles
