import Mathlib.Data.List.Basic
import ThemedStyles.Rules

namespace ThemedStyles
namespace Rules

/-!
# The selectors that a body reaches

Flattening gives a rule to the selector of a body, and to the selector of every
body nested in it at any depth.  Which these are does not depend on the rules
that are there already: the keys that nest are read off the body, and each of
them becomes a selector below that of the body in which it stands.

A property of selectors that every nesting key preserves therefore holds of all
rules of a body, as soon as it holds of the selector of the body.
-/

/-! ## Nested bodies -/

mutual

/-- The keys of nested bodies at any depth of one entry. -/
def nestingKeysOf (known : PropertySet) (key : String) : Value -> List String
  | .book body => if known.knows key then [] else key :: nestingKeys known body
  | _ => []

/-- The keys of nested bodies at any depth of a body.  A known property has a
compound value and no nested body. -/
def nestingKeys (known : PropertySet) : List (String × Value) -> List String
  | [] => []
  | (key, value) :: rest => nestingKeysOf known key value ++ nestingKeys known rest

end

mutual

/-- The selectors of nested bodies at any depth of one entry. -/
def nestedSelectorsOf (known : PropertySet) (selector key : String) : Value -> List String
  | .book body =>
      if known.knows key then []
      else Key.selector key selector :: nestedSelectors known (Key.selector key selector) body
  | _ => []

/-- The selectors of nested bodies at any depth of a body. -/
def nestedSelectors (known : PropertySet) (selector : String) :
    List (String × Value) -> List String
  | [] => []
  | (key, value) :: rest =>
      nestedSelectorsOf known selector key value ++ nestedSelectors known selector rest

end

/-! ## Rules of a flattened body -/

@[simp] theorem mem_keys_reach (rules : Rules) (selector other : String) :
    other ∈ Entries.keys (rules.reach selector) ↔ other = selector ∨ other ∈ Entries.keys rules :=
  Entries.mem_keys_put _ _ _ _

theorem mem_keys_declare {rules : Rules} {selector : String}
    (present : selector ∈ Entries.keys rules) (property : String) (value : Value)
    (other : String) :
    other ∈ Entries.keys (rules.declare selector property value) ↔ other ∈ Entries.keys rules := by
  rw [declare, Entries.adjust, Entries.keys_put_of_mem _ _ _ present]

theorem mem_keys_adopt {rules : Rules} {parent : String}
    (present : parent ∈ Entries.keys rules) (child other : String) :
    other ∈ Entries.keys (rules.adopt parent child) ↔ other ∈ Entries.keys rules := by
  unfold adopt
  split
  · exact Iff.rfl
  · rw [Entries.adjust, Entries.keys_put_of_mem _ _ _ present]

mutual

/-- One entry adds rules for exactly the selectors nested in it.  A nested selector has its
rule before its body is collected, so that the body finds the selector it declares for. -/
theorem mem_keys_collectEntry (known : PropertySet) (selector key : String) :
    forall (value : Value) (rules : Rules), selector ∈ Entries.keys rules ->
    forall other, other ∈ Entries.keys (collectEntry known selector key value rules) ↔
      other ∈ Entries.keys rules ∨ other ∈ nestedSelectorsOf known selector key value
  | .absent, rules, _, other => by simp [collectEntry, nestedSelectorsOf]
  | .text content, rules, present, other => by
      rw [collectEntry, mem_keys_declare present]
      simp [nestedSelectorsOf]
  | .number value, rules, present, other => by
      rw [collectEntry, mem_keys_declare present]
      simp [nestedSelectorsOf]
  | .book body, rules, present, other => by
      rw [collectEntry, nestedSelectorsOf]
      split
      · rw [mem_keys_declare present]
        simp
      · have reached := mem_keys_reach (rules.adopt selector (Key.selector key selector))
          (Key.selector key selector)
        have child_present := (reached (Key.selector key selector)).mpr (Or.inl rfl)
        rw [mem_keys_collectEntries known (Key.selector key selector) body _ child_present,
          reached, mem_keys_adopt present, List.mem_cons]
        exact or_assoc.trans or_left_comm

/-- The entries of a body add rules for exactly the selectors nested in it. -/
theorem mem_keys_collectEntries (known : PropertySet) (selector : String) :
    forall (entries : List (String × Value)) (rules : Rules), selector ∈ Entries.keys rules ->
    forall other, other ∈ Entries.keys (collectEntries known selector entries rules) ↔
      other ∈ Entries.keys rules ∨ other ∈ nestedSelectors known selector entries
  | [], rules, _, other => by simp [collectEntries, nestedSelectors]
  | (key, value) :: rest, rules, present, other => by
      have first := mem_keys_collectEntry known selector key value rules present
      rw [collectEntries, nestedSelectors, List.mem_append,
        mem_keys_collectEntries known selector rest _ ((first selector).mpr (Or.inl present)),
        first]
      exact or_assoc

end

/-- Flattening adds a rule for the selector of the body and for the selector of
every nested body, and no others. -/
theorem mem_keys_flatten_iff (known : PropertySet) (rules : Rules) (selector : String)
    (body : Book) (other : String) :
    other ∈ Entries.keys (flatten known rules selector body) ↔
      other = selector ∨ other ∈ Entries.keys rules ∨
        other ∈ nestedSelectors known selector body := by
  have reached := mem_keys_reach rules selector
  rw [flatten, mem_keys_collectEntries known selector body _ ((reached _).mpr (Or.inl rfl)),
    reached]
  exact or_assoc

/-! ## Properties that nesting preserves -/

section Preserved

variable (known : PropertySet) (holds : String -> Prop)

mutual

theorem nestedSelectorsOf_preserve (key : String) : forall (value : Value) (selector : String),
    (forall nested, nested ∈ nestingKeysOf known key value -> forall parent, holds parent ->
      holds (Key.selector nested parent)) ->
    holds selector -> forall other, other ∈ nestedSelectorsOf known selector key value ->
      holds other
  | .absent, _, _, _, _, member => absurd member List.not_mem_nil
  | .text _, _, _, _, _, member => absurd member List.not_mem_nil
  | .number _, _, _, _, _, member => absurd member List.not_mem_nil
  | .book body, selector, step, start, other, member => by
      rw [nestingKeysOf] at step
      rw [nestedSelectorsOf] at member
      split at member
      · exact absurd member List.not_mem_nil
      · rename_i nests
        rw [if_neg nests] at step
        have child := step key List.mem_cons_self selector start
        rcases List.mem_cons.mp member with rfl | member
        · exact child
        · exact nestedSelectors_preserve body _
            (fun nested inside => step nested (List.mem_cons_of_mem _ inside)) child other member

theorem nestedSelectors_preserve : forall (entries : List (String × Value)) (selector : String),
    (forall nested, nested ∈ nestingKeys known entries -> forall parent, holds parent ->
      holds (Key.selector nested parent)) ->
    holds selector -> forall other, other ∈ nestedSelectors known selector entries ->
      holds other
  | [], _, _, _, _, member => absurd member List.not_mem_nil
  | (key, value) :: rest, selector, step, start, other, member => by
      rw [nestingKeys] at step
      rw [nestedSelectors, List.mem_append] at member
      rcases member with member | member
      · exact nestedSelectorsOf_preserve key value selector
          (fun nested inside => step nested (List.mem_append_left _ inside)) start other member
      · exact nestedSelectors_preserve rest selector
          (fun nested inside => step nested (List.mem_append_right _ inside)) start other member

end

/-- What holds of the selector of a body and is preserved by every nesting key
holds of all rules that the body adds. -/
theorem keys_flatten_preserve {rules : Rules} {selector : String} {body : Book}
    (step : forall nested, nested ∈ nestingKeys known body -> forall parent, holds parent ->
      holds (Key.selector nested parent))
    (old : forall other, other ∈ Entries.keys rules -> holds other) (start : holds selector) :
    forall other, other ∈ Entries.keys (flatten known rules selector body) -> holds other := by
  intro other member
  rcases (mem_keys_flatten_iff known rules selector body other).mp member with rfl | member | member
  · exact start
  · exact old other member
  · exact nestedSelectors_preserve known holds body selector step start other member

end Preserved

end Rules
end ThemedStyles
