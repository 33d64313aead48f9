import ThemedStyles.Rules

namespace ThemedStyles
namespace Rules

/-!
# Writing rules

The blocks of a selector and of everything nested below it are written depth
first: nested selectors come before the selector itself, in the order in which
they were nested, and each is written once.  Rules may share a nested selector,
and may even be nested in a circle, so the walk marks a selector on entering it
and never enters it twice.

The walk keeps its tasks on a stack.  Entering an unmarked rule puts its
children on the stack, and below them the task of leaving it.  Selectors are
listed when they are left.
-/

/-- A step of the walk that is still to be taken. -/
inductive Task where
  | enter (selector : String)
  | leave (selector : String)

/-- The selectors that have a rule and are not marked yet. -/
def unmarked (rules : Rules) (marked : List String) : List String :=
  rules.keys.filter fun selector => !marked.contains selector

theorem mem_keys_of_get? {rules : Rules} {selector : String} {rule : Rule}
    (found : rules.get? selector = some rule) : selector ∈ rules.keys := by
  rw [← Entries.get?_isSome_iff, found]
  rfl

/-- Marking a selector that has a rule leaves fewer unmarked. -/
theorem length_unmarked_cons_lt {rules : Rules} {marked : List String} {selector : String}
    (member : selector ∈ rules.keys) (fresh : selector ∉ marked) :
    (rules.unmarked (selector :: marked)).length < (rules.unmarked marked).length := by
  have split : rules.unmarked (selector :: marked) =
      (rules.unmarked marked).filter fun other => !(other == selector) := by
    unfold unmarked
    rw [List.filter_filter]
    apply List.filter_congr
    intro other _
    simp only [List.contains_cons, Bool.not_or]
  rw [split]
  apply List.length_filter_lt_length_iff_exists.mpr
  refine ⟨selector, ?_, by simp⟩
  unfold unmarked
  simp [member, fresh]

/-- The selectors left by a walk, oldest first.  `marked` are the selectors
entered so far and `left` those left so far, youngest first. -/
def walk (rules : Rules) : List Task -> (marked left : List String) -> List String
  | [], _, left => left.reverse
  | .leave selector :: tasks, marked, left => walk rules tasks marked (selector :: left)
  | .enter selector :: tasks, marked, left =>
      match _found : rules.get? selector with
      | none => walk rules tasks marked left
      | some rule =>
          if _seen : selector ∈ marked then walk rules tasks marked left
          else walk rules (rule.children.map Task.enter ++ .leave selector :: tasks)
            (selector :: marked) left
termination_by tasks marked => ((rules.unmarked marked).length, tasks.length)
decreasing_by
  · exact Prod.Lex.right _ (Nat.lt_succ_self _)
  · exact Prod.Lex.right _ (Nat.lt_succ_self _)
  · exact Prod.Lex.right _ (Nat.lt_succ_self _)
  · exact Prod.Lex.left _ _ (length_unmarked_cons_lt (mem_keys_of_get? _found) _seen)

theorem walk_enter_of_none {rules : Rules} {selector : String}
    (missing : rules.get? selector = none) (tasks : List Task) (marked left : List String) :
    walk rules (.enter selector :: tasks) marked left = walk rules tasks marked left := by
  rw [walk]
  split
  · rfl
  · rename_i present
    rw [missing] at present
    cases present

theorem walk_enter_of_mem {rules : Rules} {selector : String} {marked : List String}
    (seen : selector ∈ marked) (tasks : List Task) (left : List String) :
    walk rules (.enter selector :: tasks) marked left = walk rules tasks marked left := by
  rw [walk]
  split
  · rfl
  · exact dif_pos seen

theorem walk_enter_of_not_mem {rules : Rules} {selector : String} {rule : Rule}
    (present : rules.get? selector = some rule) {marked : List String}
    (unseen : selector ∉ marked) (tasks : List Task) (left : List String) :
    walk rules (.enter selector :: tasks) marked left =
      walk rules (rule.children.map Task.enter ++ .leave selector :: tasks)
        (selector :: marked) left := by
  rw [walk]
  split
  · rename_i missing
    rw [missing] at present
    cases present
  · rename_i other found
    rw [present, Option.some.injEq] at found
    rw [dif_neg unseen, found]

/-- The selectors to write for a selector, in the order of their blocks. -/
def order (rules : Rules) (selector : String) : List String :=
  walk rules [.enter selector] [] []

/-- The line of a declaration, if its value has a text. -/
def line? (declaration : String × Value) : Option String :=
  declaration.2.css?.map fun css => "  " ++ Property.cssName declaration.1 ++ ": " ++ css ++ ";\n"

/-- The block of a selector with these declarations.  Without any line there
is no block. -/
def block (selector : String) (declarations : Entries Value) : String :=
  match declarations.filterMap line? with
  | [] => ""
  | lines => selector ++ " \x7b\n" ++ String.join lines ++ "\x7d\n"

/-- The block of a selector, empty where it has no rule. -/
def blockOf (rules : Rules) (selector : String) : String :=
  match rules.get? selector with
  | some rule => block selector rule.declarations
  | none => ""

/-- The stylesheet text of a selector and of everything nested below it. -/
def css (rules : Rules) (selector : String) : String :=
  String.join ((rules.order selector).map rules.blockOf)

end Rules
end ThemedStyles
