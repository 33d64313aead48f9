import ThemedStyles.Proofs.Rules.Statements

namespace ThemedStyles
namespace Rules

/-!
# Many bodies in the same rules

The rules of one body may be extended by another.  The bodies share what they meet in:
a selector that one of them has reached keeps its rule, and the next adds to it.  So the
rules as a whole say what the bodies state one after the other, and they are well formed
with the selectors of all bodies for roots.

Nothing is asked of the bodies.  A body may come again, under the same selector or one
that another body has nested, and its keys may lead back to any root.
-/

variable {known : PropertySet} {roots : List String} {rules : Rules}

/-- The rules after bodies have been flattened into them in order, each under its
selector.  A selector may come again. -/
def flattenAll (known : PropertySet) (rules : Rules) (bodies : List (String × Book)) : Rules :=
  bodies.foldl (fun rules pair => flatten known rules pair.1 pair.2) rules

theorem flattenAll_cons (known : PropertySet) (rules : Rules) (pair : String × Book)
    (rest : List (String × Book)) :
    flattenAll known rules (pair :: rest) =
      flattenAll known (flatten known rules pair.1 pair.2) rest := rfl

theorem WellFormed.flatten_roots (wellFormed : rules.WellFormed known roots)
    (bodies : List (String × Book)) :
    (flattenAll known rules bodies).WellFormed known (roots ++ bodies.map Prod.fst) := by
  induction bodies generalizing rules roots with
  | nil =>
      rw [List.map_nil, List.append_nil]
      exact wellFormed
  | cons pair rest inductionHypothesis =>
      rw [flattenAll_cons, List.map_cons, List.append_cons]
      exact inductionHypothesis (wellFormed.flatten_root pair.1 pair.2)

/-- Many bodies add rules for their selectors and for those nested in them. -/
theorem mem_keys_flattenAll_iff (known : PropertySet) (rules : Rules)
    (bodies : List (String × Book)) (other : String) :
    other ∈ Entries.keys (flattenAll known rules bodies) ↔ other ∈ Entries.keys rules ∨
      ∃ pair, pair ∈ bodies ∧ (other = pair.1 ∨ other ∈ nestedSelectors known pair.1 pair.2) := by
  induction bodies generalizing rules with
  | nil => simp [flattenAll]
  | cons pair rest inductionHypothesis =>
      rw [flattenAll_cons, inductionHypothesis, mem_keys_flatten_iff]
      simp only [List.mem_cons, exists_eq_or_imp]
      exact (or_congr or_left_comm Iff.rfl).trans or_assoc

/-- What bodies state, in order. -/
def statedAll (known : PropertySet) (bodies : List (String × Book)) : List Statement :=
  bodies.flatMap fun pair => statements known pair.1 pair.2

/-- Many bodies add to the declarations of a selector what they state for it. -/
theorem declarationsOf_flattenAll (known : PropertySet) (rules : Rules)
    (bodies : List (String × Book)) (selector : String) :
    (flattenAll known rules bodies).declarationsOf selector =
      Entries.putAll (rules.declarationsOf selector)
        (statedFor (statedAll known bodies) selector) := by
  induction bodies generalizing rules with
  | nil => rfl
  | cons pair rest inductionHypothesis =>
      have stated : statedAll known (pair :: rest) =
          statements known pair.1 pair.2 ++ statedAll known rest := List.flatMap_cons
      rw [flattenAll_cons, inductionHypothesis, declarationsOf_flatten, ← Entries.putAll_append,
        stated, statedFor_append]

/-- Bodies that are flattened into no rules, one after the other, leave well-formed
rules, whatever their selectors and entries are.  A nested selector has a rule, no
selector is nested in itself or twice in another, no absent value is declared, a book
only for a known property, and every rule can be reached from the selector of one of
the bodies.  And nothing of the bodies is lost: there are rules for their selectors and
for the selectors nested in them, and for no others, and what is declared is what the
bodies state, the last statement deciding. -/
theorem flattened_bodies_are_well_formed (known : PropertySet) (bodies : List (String × Book)) :
    let rules := flattenAll known [] bodies
    rules.WellFormed known (bodies.map Prod.fst) ∧
    (forall selector, selector ∈ Entries.keys rules ↔
      ∃ pair, pair ∈ bodies ∧
        (selector = pair.1 ∨ selector ∈ nestedSelectors known pair.1 pair.2)) ∧
    (forall selector, rules.declarationsOf selector =
      Entries.ofPairs (statedFor (statedAll known bodies) selector)) := by
  intro rules
  refine ⟨wellFormed_nil.flatten_roots bodies, fun selector => ?_, fun selector => ?_⟩
  · rw [mem_keys_flattenAll_iff]
    exact or_iff_right List.not_mem_nil
  · exact declarationsOf_flattenAll known [] bodies selector

/-- The bare key merges into its parent, the list leads back to the first root, and the
second body finds a rule for its selector. -/
example :
    (flattenAll PropertySet.empty []
      [(".a", [("&", .book [("color", .text "red")]), (".a, .b", .book [(".a", .book [])])]),
        (".a, .b", [("gap", .absent), ("&:hover", .book [])])]).map
      (fun pair => (pair.1, pair.2.children)) =
    [(".a", [".a, .b"]), (".a, .b", [".a", ".a:hover, .b:hover"]),
      (".a:hover, .b:hover", [])] := by
  decide +kernel

end Rules
end ThemedStyles
