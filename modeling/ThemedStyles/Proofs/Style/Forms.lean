import ThemedStyles.Proofs.Style.Documents

namespace ThemedStyles

/-!
# The documents of style values

A document is read as a style value by its kind alone: a string is a text, a number
is a number, an object is a book and null is the absent value.  The kinds of
documents that are no style values are truth values and lists, and a document with
one of these anywhere inside is not read at all.

No two kinds of value are written as the same kind of document, but for numbers
that are not finite: these are written as null, like the absent value.  So a value
that is written and read again is the same, entry by entry and in the same order,
except that such numbers are absent afterwards.
-/

namespace Json

/-- A value is a part of another one if it is that value itself or stands in it, at
any depth. -/
inductive PartOf (part : Json) : Json -> Prop
  | whole : PartOf part part
  | item {inner : Json} {items : List Json} (listed : inner ∈ items) (inside : PartOf part inner) :
      PartOf part (list items)
  | field {key : String} {inner : Json} {fields : List (String × Json)}
      (listed : (key, inner) ∈ fields) (inside : PartOf part inner) : PartOf part (object fields)

section Every

variable {test : Json -> Bool}

theorem PartOf.of_every {part json : Json} (inside : part.PartOf json)
    (all : json.every test = true) : test part = true := by
  induction inside with
  | whole =>
      cases part with
      | list _ => exact ((Bool.and_eq_true _ _).mp all).1
      | object _ => exact ((Bool.and_eq_true _ _).mp all).1
      | _ => exact all
  | item listed _ inductionHypothesis =>
      have items := ((Bool.and_eq_true _ _).mp all).2
      exact inductionHypothesis ((everyItem_iff test _).mp items _ listed)
  | field listed _ inductionHypothesis =>
      have fields := ((Bool.and_eq_true _ _).mp all).2
      exact inductionHypothesis ((everyField_iff test _).mp fields _ listed)

mutual

theorem every_of_forall : forall json : Json,
    (forall part, PartOf part json -> test part = true) -> json.every test = true
  | .null, all => all _ .whole
  | .boolean _, all => all _ .whole
  | .integer _, all => all _ .whole
  | .float _, all => all _ .whole
  | .string _, all => all _ .whole
  | .list items, all => by
      rw [every, Bool.and_eq_true]
      exact ⟨all _ .whole, everyItem_of_forall items fun inner listed part inside =>
        all part (.item listed inside)⟩
  | .object fields, all => by
      rw [every, Bool.and_eq_true]
      exact ⟨all _ .whole, everyField_of_forall fields fun key inner listed part inside =>
        all part (.field listed inside)⟩

theorem everyItem_of_forall : forall items : List Json,
    (forall inner, inner ∈ items -> forall part, PartOf part inner -> test part = true) ->
    everyItem test items = true
  | [], _ => rfl
  | item :: rest, all => by
      rw [everyItem, Bool.and_eq_true]
      exact ⟨every_of_forall item (all item List.mem_cons_self),
        everyItem_of_forall rest fun inner listed => all inner (List.mem_cons_of_mem _ listed)⟩

theorem everyField_of_forall : forall fields : List (String × Json),
    (forall key inner, (key, inner) ∈ fields ->
      forall part, PartOf part inner -> test part = true) ->
    everyField test fields = true
  | [], _ => rfl
  | (key, value) :: rest, all => by
      rw [everyField, Bool.and_eq_true]
      exact ⟨every_of_forall value (all key value List.mem_cons_self),
        everyField_of_forall rest fun key inner listed =>
          all key inner (List.mem_cons_of_mem _ listed)⟩

end

/-- A test holds of all parts of a value if it holds of each of them. -/
theorem every_iff {json : Json} :
    json.every test = true ↔ forall part, part.PartOf json -> test part = true :=
  ⟨fun all _ inside => inside.of_every all, every_of_forall json⟩

end Every

/-- Is the kind of this value, looked at without its parts, the kind of a style value? -/
def isStyled (json : Json) : Bool := json.kind != .boolean && json.kind != .list

end Json

namespace Value

/-! ## What can be read -/

mutual

theorem isSome_ofJson? : forall json : Json, (ofJson? json).isSome = json.every Json.isStyled
  | .null => rfl
  | .boolean _ => rfl
  | .integer _ => rfl
  | .float _ => rfl
  | .string _ => rfl
  | .list _ => rfl
  | .object fields => by
      rw [ofJson?, Option.isSome_map, isSome_ofFields? fields]
      rfl

theorem isSome_ofFields? : forall fields : List (String × Json),
    (ofFields? fields).isSome = Json.everyField Json.isStyled fields
  | [] => rfl
  | (key, field) :: rest => by
      rw [Json.everyField, ← isSome_ofJson? field, ← isSome_ofFields? rest, ofFields?]
      cases ofJson? field <;> cases ofFields? rest <;> rfl

end

theorem exists_ofJson?_iff {json : Json} :
    (∃ value, ofJson? json = some value) ↔
      forall part : Json, part.PartOf json -> part.kind ≠ .boolean ∧ part.kind ≠ .list := by
  rw [← Option.isSome_iff_exists, isSome_ofJson?, Json.every_iff]
  simp only [Json.isStyled, Bool.and_eq_true, bne_iff_ne]

/-- A text is read as it was written, with all occurrences of a repeated key. -/
theorem exists_read?_iff {text : String} :
    (∃ value, read? text = some value) ↔
      ∃ json, Json.asWritten? text = some json ∧ ∃ value, ofJson? json = some value := by
  simp only [read?, Option.bind_eq_bind, Option.bind_eq_some_iff, Option.some.injEq]
  constructor
  · rintro ⟨_, json, written, value, read, _⟩
    exact ⟨json, written, value, read⟩
  · rintro ⟨json, written, value, read⟩
    exact ⟨_, json, written, value, read, rfl⟩

/-! ## What is read back -/

mutual

theorem isFinite_stored : forall value : Value, value.stored.isFinite = true
  | .text _ => rfl
  | .number value => by cases finite : value.isFinite <;> simp [stored, finite, isFinite]
  | .book entries => by
      rw [stored, isFinite]
      exact areFinite_storedEntries entries
  | .absent => rfl

theorem areFinite_storedEntries : forall entries : List (String × Value),
    areFinite (storedEntries entries) = true
  | [] => rfl
  | (key, value) :: rest => by
      rw [storedEntries, areFinite, Bool.and_eq_true]
      exact ⟨isFinite_stored value, areFinite_storedEntries rest⟩

end

theorem stored_eq_self_iff {value : Value} : value.stored = value ↔ value.isFinite = true :=
  ⟨fun same => same ▸ value.isFinite_stored, stored_of_isFinite value⟩

/-- A document is read as a style value exactly if it has neither a truth value nor a
list anywhere inside, and the same goes for a text with the document that it is.  Every
style value is read back from its own document as that document keeps it, with absent
values for the numbers that are not finite; without such numbers it is the same value
again. -/
theorem documents_of_style_values :
    (forall json, (∃ value, ofJson? json = some value) ↔
      forall part : Json, part.PartOf json -> part.kind ≠ .boolean ∧ part.kind ≠ .list) ∧
    (forall text, (∃ value, read? text = some value) ↔
      ∃ json, Json.asWritten? text = some json ∧
        forall part : Json, part.PartOf json -> part.kind ≠ .boolean ∧ part.kind ≠ .list) ∧
    (forall value : Value, ofJson? value.toJson = some value.stored) ∧
    (forall value : Value, ofJson? value.toJson = some value ↔ value.isFinite = true) := by
  refine ⟨fun _ => exists_ofJson?_iff, ?texts, ofJson?_toJson, ?same⟩
  case texts =>
    intro text
    simp only [exists_read?_iff, exists_ofJson?_iff]
  case same =>
    intro value
    rw [ofJson?_toJson, Option.some.injEq, stored_eq_self_iff]

/-- A number that is not finite inside of a nested book, and a truth value inside of a
list there. -/
theorem nested_book_is_read_back :
    let outer (inner : Value) : Value :=
      book [("b", "4px"), ("a", .book [("d", inner), ("c", "8px"), ("b", .absent)])]
    let document : Json :=
      .object [("b", .integer 1), ("a", .object [("d", .list [.boolean true]), ("c", .null)])]
    ofJson? (outer (.number .nan)).toJson = some (outer .absent) ∧
      ofJson? (outer 1.5).toJson = some (outer 1.5) ∧
      ¬ ∃ value, ofJson? document = some value := by
  intro outer document
  rcases documents_of_style_values with ⟨readable, _, back, same⟩
  refine ⟨back (outer (.number .nan)), (same (outer 1.5)).mpr (by decide +kernel), fun read => ?_⟩
  have inside : (Json.boolean true).PartOf document :=
    .field (List.mem_cons_of_mem _ List.mem_cons_self)
      (.field List.mem_cons_self (.item List.mem_cons_self .whole))
  exact ((readable document).mp read _ inside).1 rfl

end Value
end ThemedStyles
