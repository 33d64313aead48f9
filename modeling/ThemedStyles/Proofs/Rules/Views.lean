import Mathlib.Logic.Relation
import ThemedStyles.Rules

namespace ThemedStyles
namespace Rules

/-!
# What one sees of rules

Rules are made by three operations: reaching a selector, noting a nested selector,
and declaring a property.  Two things are seen of a selector, its declarations and
the selectors nested in it, and every operation changes at most one of them, at one
selector.  A selector without a rule looks like one with an empty rule, so reaching
a selector is not seen at all.

Nested selectors make a graph.  Rules may share a nested selector, and circles are
possible: below `.a`, the keys `.a, .b` and `.a` lead from one to the other and back.
-/

/-- The rule of a selector, an empty one where it has none. -/
def ruleOf (rules : Rules) (selector : String) : Rule := (rules.get? selector).getD Rule.empty

/-- The declarations of a selector. -/
def declarationsOf (rules : Rules) (selector : String) : Entries Value :=
  (rules.ruleOf selector).declarations

/-- Is the child nested directly below the parent? -/
def Nests (rules : Rules) (parent child : String) : Prop :=
  child ∈ (rules.ruleOf parent).children

instance (rules : Rules) (parent child : String) : Decidable (rules.Nests parent child) :=
  inferInstanceAs (Decidable (child ∈ (rules.ruleOf parent).children))

/-- Can the second selector be reached from the first through nested selectors?
Every selector reaches itself. -/
def Reaches (rules : Rules) : String -> String -> Prop := Relation.ReflTransGen rules.Nests

theorem nests_iff_of_get? {rules : Rules} {parent : String} {rule : Rule}
    (found : rules.get? parent = some rule) (child : String) :
    rules.Nests parent child ↔ child ∈ rule.children := by
  rw [Nests, ruleOf, found, Option.getD_some]

theorem ruleOf_of_not_mem {rules : Rules} {selector : String}
    (missing : selector ∉ Entries.keys rules) : rules.ruleOf selector = Rule.empty := by
  rw [ruleOf, (Entries.get?_eq_none_iff rules selector).mpr missing, Option.getD_none]

theorem mem_keys_of_nests {rules : Rules} {parent child : String}
    (nests : rules.Nests parent child) : parent ∈ Entries.keys rules := by
  refine Decidable.byContradiction fun missing => ?_
  rw [Nests, ruleOf_of_not_mem missing] at nests
  exact absurd nests List.not_mem_nil

theorem mem_keys_of_declared {rules : Rules} {selector property : String}
    (declared : property ∈ Entries.keys (rules.declarationsOf selector)) :
    selector ∈ Entries.keys rules := by
  refine Decidable.byContradiction fun missing => ?_
  rw [declarationsOf, ruleOf_of_not_mem missing] at declared
  exact absurd declared List.not_mem_nil

/-! ## The three operations -/

section Operations

variable (rules : Rules)

theorem ruleOf_adjust (selector other : String) (change : Rule -> Rule) :
    ruleOf (Entries.adjust rules selector Rule.empty change) other =
      if other = selector then change (rules.ruleOf selector) else rules.ruleOf other := by
  rw [ruleOf, Entries.get?_adjust]
  split <;> rfl

@[simp] theorem ruleOf_reach (selector other : String) :
    (rules.reach selector).ruleOf other = rules.ruleOf other := by
  rw [reach, ruleOf_adjust]
  split
  · rename_i same
    rw [same]
    rfl
  · rfl

@[simp] theorem ruleOf_declare (selector property : String) (value : Value) (other : String) :
    (rules.declare selector property value).ruleOf other =
      if other = selector then (rules.ruleOf selector).declare property value
      else rules.ruleOf other :=
  ruleOf_adjust rules selector other _

@[simp] theorem ruleOf_adopt (parent child other : String) :
    (rules.adopt parent child).ruleOf other =
      if other = parent ∧ child ≠ parent then (rules.ruleOf parent).adopt child
      else rules.ruleOf other := by
  unfold adopt
  by_cases same : child = parent
  · rw [if_pos same, if_neg (fun both => both.2 same)]
  · rw [if_neg same, ruleOf_adjust]
    simp only [ne_eq, same, not_false_eq_true, and_true]

end Operations

end Rules

namespace Rule

@[simp] theorem mem_children_adopt (rule : Rule) (child other : String) :
    other ∈ (rule.adopt child).children ↔ other ∈ rule.children ∨ other = child := by
  unfold adopt
  split
  · rename_i noted
    rw [List.contains_iff_mem] at noted
    exact ⟨Or.inl, fun member => member.elim id fun same => same ▸ noted⟩
  · rw [List.mem_append, List.mem_singleton]

@[simp] theorem declarations_adopt (rule : Rule) (child : String) :
    (rule.adopt child).declarations = rule.declarations := by
  unfold adopt
  split <;> rfl

/-- A declaration and a nested selector do not get into each other's way. -/
theorem adopt_declare (rule : Rule) (property child : String) (value : Value) :
    (rule.declare property value).adopt child = (rule.adopt child).declare property value := by
  unfold adopt declare
  split <;> rfl

end Rule

namespace Rules

section Operations

variable (rules : Rules)

@[simp] theorem declarationsOf_reach (selector other : String) :
    (rules.reach selector).declarationsOf other = rules.declarationsOf other :=
  congrArg Rule.declarations (ruleOf_reach rules selector other)

@[simp] theorem declarationsOf_adopt (parent child other : String) :
    (rules.adopt parent child).declarationsOf other = rules.declarationsOf other := by
  rw [declarationsOf, ruleOf_adopt]
  split
  · rename_i both
    rw [Rule.declarations_adopt, ← both.1]
    rfl
  · rfl

@[simp] theorem declarationsOf_declare (selector property : String) (value : Value)
    (other : String) :
    (rules.declare selector property value).declarationsOf other =
      if other = selector then Entries.put (rules.declarationsOf selector) property value
      else rules.declarationsOf other := by
  rw [declarationsOf, ruleOf_declare]
  split <;> rfl

@[simp] theorem nests_reach_iff (selector parent child : String) :
    (rules.reach selector).Nests parent child ↔ rules.Nests parent child := by
  rw [Nests, ruleOf_reach]
  rfl

@[simp] theorem nests_declare_iff (selector property : String) (value : Value)
    (parent child : String) :
    (rules.declare selector property value).Nests parent child ↔ rules.Nests parent child := by
  rw [Nests, ruleOf_declare]
  split
  · rename_i same
    rw [same]
    rfl
  · rfl

@[simp] theorem nests_adopt_iff (parent child first second : String) :
    (rules.adopt parent child).Nests first second ↔
      rules.Nests first second ∨ (first = parent ∧ second = child ∧ child ≠ parent) := by
  rw [Nests, ruleOf_adopt]
  by_cases noted : first = parent ∧ child ≠ parent
  · rw [if_pos noted, Rule.mem_children_adopt, ← noted.1]
    exact or_congr Iff.rfl ⟨fun same => ⟨rfl, same, noted.1 ▸ noted.2⟩, fun all => all.2.1⟩
  · rw [if_neg noted]
    exact ⟨Or.inl, fun either => either.elim id fun all => absurd ⟨all.1, all.2.2⟩ noted⟩

end Operations

end Rules
end ThemedStyles
