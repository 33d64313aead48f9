import ThemedStyles.Proofs.Rules.Views
import ThemedStyles.Rules.Writing

namespace ThemedStyles
namespace Rules

/-!
# Blocks of a stylesheet

The text of rules is a sequence of blocks.  A block has a selector for its header, and
a line for every declaration whose value has a text; a selector without any line has no
block.  So the text is known from the headers, in their order, and from the lines of
each of them.
-/

/-- The header of a block and the text of its lines, if it has any. -/
def block? (rules : Rules) (selector : String) : Option (String × String) :=
  (rules.get? selector).bind fun rule =>
    match rule.declarations.filterMap line? with
    | [] => none
    | lines => some (selector, String.join lines)

/-- The blocks of a selector and of everything nested below it, in order. -/
def blocks (rules : Rules) (selector : String) : List (String × String) :=
  (rules.order selector).filterMap rules.block?

/-- The text of a block. -/
def blockText (block : String × String) : String :=
  block.1 ++ " \x7b\n" ++ block.2 ++ "\x7d\n"

theorem blockOf_eq (rules : Rules) (selector : String) :
    rules.blockOf selector = ((rules.block? selector).map blockText).getD "" := by
  unfold blockOf block? block
  cases rules.get? selector with
  | none => rfl
  | some rule =>
      rw [Option.bind_some]
      dsimp only
      cases rule.declarations.filterMap line? <;> rfl

theorem css_eq_blocks (rules : Rules) (selector : String) :
    rules.css selector = String.join ((rules.blocks selector).map blockText) := by
  unfold css blocks
  induction rules.order selector with
  | nil => rfl
  | cons inner rest inductionHypothesis =>
      rw [List.map_cons, String.join_cons, inductionHypothesis, blockOf_eq, List.filterMap_cons]
      cases rules.block? inner with
      | none => exact String.empty_append
      | some block => rw [List.map_cons, String.join_cons, Option.map_some, Option.getD_some]

/-- The lines of the block of a selector, one for each declaration whose value has a
text. -/
def lines (rules : Rules) (selector : String) : List String :=
  (rules.declarationsOf selector).filterMap line?

/-- The selectors that have a block, in the order of their blocks. -/
def headers (rules : Rules) (selector : String) : List String :=
  (rules.order selector).filter fun header => rules.lines header ≠ []

theorem lines_ne_nil_iff (rules : Rules) (selector : String) :
    rules.lines selector ≠ [] ↔ ∃ declaration, declaration ∈ rules.declarationsOf selector ∧
      declaration.2.css? ≠ none := by
  simp [lines, line?, List.filterMap_eq_nil_iff]

theorem block?_eq (rules : Rules) (selector : String) :
    rules.block? selector =
      if rules.lines selector ≠ [] then some (selector, String.join (rules.lines selector))
      else none := by
  unfold block? lines declarationsOf ruleOf
  cases rules.get? selector with
  | none => rfl
  | some rule =>
      rw [Option.bind_some, Option.getD_some]
      split
      · rename_i empty
        rw [if_neg (by simp [empty])]
      · rename_i present
        rw [if_pos present]

theorem blocks_eq (rules : Rules) (selector : String) :
    rules.blocks selector =
      (rules.headers selector).map fun header => (header, String.join (rules.lines header)) := by
  unfold blocks headers
  induction rules.order selector with
  | nil => rfl
  | cons header rest inductionHypothesis =>
      rw [List.filterMap_cons, block?_eq, inductionHypothesis]
      by_cases written : rules.lines header ≠ []
      · rw [if_pos written, List.filter_cons_of_pos (by simpa using written), List.map_cons]
      · rw [if_neg written, List.filter_cons_of_neg (by simpa using written)]

/-- The text of rules, block by block. -/
theorem css_eq_headers (rules : Rules) (selector : String) :
    rules.css selector = String.join ((rules.headers selector).map fun header =>
      blockText (header, String.join (rules.lines header))) := by
  rw [css_eq_blocks, blocks_eq, List.map_map]
  rfl

end Rules
end ThemedStyles
