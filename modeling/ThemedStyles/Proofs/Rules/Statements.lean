import ThemedStyles.Proofs.Rules.WellFormed

namespace ThemedStyles
namespace Rules

/-!
# What a body states is what is written

A body states the values of properties, each of them for the selector of the body in
which it stands.  Several bodies may state values for one selector, and one property
may be stated for it again.  Nothing of this depends on how rules are kept, so that it
says what flattening a body and writing its rules has to come to: no statement is lost,
and nothing is written that has not been stated.

A declaration could be lost only in a rule to which the visit of the root never comes.
But flattening leaves well-formed rules, and every one of them can be reached from the
root.
-/

/-- A value that is stated for a property of a selector. -/
structure Statement where
  selector : String
  property : String
  value : Value

mutual

/-- What one entry of the body of a selector states.  An absent value states nothing,
and neither does a nested body on its own; it states what its entries state. -/
def statementsOf (known : PropertySet) (selector key : String) : Value -> List Statement
  | .absent => []
  | .text content => [⟨selector, key, .text content⟩]
  | .number value => [⟨selector, key, .number value⟩]
  | .book body =>
      if known.knows key then [⟨selector, key, .book body⟩]
      else statements known (Key.selector key selector) body

/-- What the body of a selector states at any depth, in the order of the document. -/
def statements (known : PropertySet) (selector : String) :
    List (String × Value) -> List Statement
  | [] => []
  | (key, value) :: rest =>
      statementsOf known selector key value ++ statements known selector rest

end

/-- The properties and values that are stated for a selector, in order. -/
def statedFor (statements : List Statement) (selector : String) : List (String × Value) :=
  (statements.filter fun statement => statement.selector = selector).map fun statement =>
    (statement.property, statement.value)

theorem statedFor_append (first rest : List Statement) (selector : String) :
    statedFor (first ++ rest) selector = statedFor first selector ++ statedFor rest selector := by
  rw [statedFor, List.filter_append, List.map_append]
  rfl

/-! ## Declarations -/

/-- What a write states.  Only a declaration states anything. -/
def Write.statement? : Write -> Option Statement
  | .declare selector property value => some ⟨selector, property, value⟩
  | _ => none

mutual

theorem statements_writesOf (known : PropertySet) (selector key : String) :
    forall value : Value, (writesOf known selector key value).filterMap Write.statement? =
      statementsOf known selector key value
  | .absent => by rw [writesOf, statementsOf]; rfl
  | .text content => by rw [writesOf, statementsOf]; rfl
  | .number value => by rw [writesOf, statementsOf]; rfl
  | .book body => by
      rw [writesOf, statementsOf]
      split
      · rfl
      · exact statements_writes known _ body

/-- The declarations among the writes for a body are what the body states. -/
theorem statements_writes (known : PropertySet) (selector : String) :
    forall entries : List (String × Value),
      (writes known selector entries).filterMap Write.statement? =
        statements known selector entries
  | [] => by rw [writes, statements]; rfl
  | (key, value) :: rest => by
      rw [writes, statements, List.filterMap_append, statements_writesOf, statements_writes]

end

/-- The declarations of a selector are what the writes state for it, put one after
the other. -/
theorem declarationsOf_writeAll (rules : Rules) (writes : List Write) (selector : String) :
    (rules.writeAll writes).declarationsOf selector =
      Entries.putAll (rules.declarationsOf selector)
        (statedFor (writes.filterMap Write.statement?) selector) := by
  induction writes generalizing rules with
  | nil => rfl
  | cons w rest inductionHypothesis =>
      rw [writeAll_cons, inductionHypothesis]
      cases w with
      | reach other =>
          rw [write, declarationsOf_reach]
          rfl
      | adopt parent child =>
          rw [write, declarationsOf_adopt]
          rfl
      | declare other property value =>
          have stated : (Write.declare other property value :: rest).filterMap Write.statement? =
              ⟨other, property, value⟩ :: rest.filterMap Write.statement? := rfl
          rw [write, declarationsOf_declare, stated, statedFor, statedFor]
          split
          · rename_i same
            rw [List.filter_cons_of_pos (by simpa using same.symm), List.map_cons, same]
            rfl
          · rename_i apart
            rw [List.filter_cons_of_neg (by simpa using Ne.symm apart)]

/-- A body adds to the declarations of a selector what it states for it. -/
theorem declarationsOf_flatten (known : PropertySet) (rules : Rules) (root : String) (body : Book)
    (selector : String) :
    (flatten known rules root body).declarationsOf selector =
      Entries.putAll (rules.declarationsOf selector)
        (statedFor (statements known root body) selector) := by
  rw [flatten_eq_writeAll, declarationsOf_writeAll, List.filterMap_cons_none rfl,
    statements_writes]

/-! ## Selectors to be written -/

/-- Flattened into no rules, a body leaves no rule that cannot be reached from its
selector. -/
theorem reaches_of_mem_keys_flatten {known : PropertySet} {root : String} {body : Book}
    {selector : String} (member : selector ∈ Entries.keys (flatten known [] root body)) :
    (flatten known [] root body).Reaches root selector := by
  rcases (wellFormed_nil.flatten_root root body).reached selector member with
    ⟨start, listed, reaches⟩
  rw [List.nil_append, List.mem_singleton] at listed
  exact listed ▸ reaches

/-- A body that is flattened and written loses nothing of what it states, and nothing
is written that it does not state.  The declarations of a selector are the properties
stated for it, in the order in which they are stated first, each with the value that is
stated for it last.  Blocks are written for the selectors with a declaration that has
a text, for each of them once and for no other, and the lines of a block are those
declarations, in their order. -/
theorem stated_is_written (known : PropertySet) (root : String) (body : Book) :
    let stated := statedFor (statements known root body)
    let rules := flatten known [] root body
    (forall selector,
      Entries.keys (rules.declarationsOf selector) =
        (Entries.keys (stated selector)).eraseDups ∧
      forall property, Entries.get? (rules.declarationsOf selector) property =
        Entries.get? (stated selector).reverse property) ∧
    ∃ headers : List String, headers.Nodup ∧
      (forall selector, selector ∈ headers ↔
        ∃ declaration, declaration ∈ rules.declarationsOf selector ∧
          declaration.2.css? ≠ none) ∧
      rules.css root = String.join (headers.map fun selector =>
        blockText (selector, String.join ((rules.declarationsOf selector).filterMap line?))) := by
  intro stated rules
  refine ⟨fun selector => ?_, rules.headers root, (rules.nodup_order root).filter _,
    fun selector => ?_, rules.css_eq_headers root⟩
  · rw [declarationsOf_flatten]
    exact ⟨Entries.keys_ofPairs _, Entries.get?_ofPairs _⟩
  · rw [mem_headers_iff]
    refine and_iff_right_of_imp ?_
    rintro ⟨declaration, declared, _⟩
    have named : declaration.1 ∈ Entries.keys (rules.declarationsOf selector) :=
      List.mem_map_of_mem declared
    exact reaches_of_mem_keys_flatten (mem_keys_of_declared named)

end Rules
end ThemedStyles
