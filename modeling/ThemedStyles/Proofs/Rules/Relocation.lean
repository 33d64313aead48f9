import Mathlib.Logic.Function.Defs
import ThemedStyles.Proofs.Rules.Blocks
import ThemedStyles.Proofs.Rules.Nesting
import ThemedStyles.Proofs.Selectors.Suffixes

namespace ThemedStyles

/-!
# Rules moved to other selectors

Collecting and writing rules look at selectors only to see whether two of them
are the same.  So rules may be moved to other selectors, as long as different
selectors stay different: declarations, nested selectors and the order of the
blocks are those of the rules before the move.

What moves here are suffixes to a scope.  The rules of a body whose keys put
suffixes behind their scope are the same rules for every class scope, moved to
that scope, and their text differs in the headers of the blocks only.
-/

namespace Entries

variable {α β : Type} {move : String -> String}

/-- Change keys and values of all pairs. -/
def moved (move : String -> String) (change : α -> β) (entries : Entries α) : Entries β :=
  entries.map fun pair => (move pair.1, change pair.2)

theorem get?_moved (injective : Function.Injective move) (change : α -> β) (entries : Entries α)
    (key : String) :
    get? (moved move change entries) (move key) = (get? entries key).map change := by
  induction entries with
  | nil => rfl
  | cons pair rest inductionHypothesis =>
      have later : get? (moved move change rest) (move key) = (get? rest key).map change :=
        inductionHypothesis
      by_cases same : pair.1 = key
      · simp [moved, get?, same]
      · have apart : move pair.1 ≠ move key := fun equal => same (injective equal)
        rw [get?, if_neg same, ← later]
        exact if_neg apart

theorem put_moved (injective : Function.Injective move) (change : α -> β) (entries : Entries α)
    (key : String) (value : α) :
    put (moved move change entries) (move key) (change value) =
      moved move change (put entries key value) := by
  induction entries with
  | nil => rfl
  | cons pair rest inductionHypothesis =>
      by_cases same : pair.1 = key
      · simp [moved, put, same]
      · have apart : move pair.1 ≠ move key := fun equal => same (injective equal)
        rw [put, if_neg same]
        exact (if_neg apart).trans (congrArg _ inductionHypothesis)

end Entries

/-- The rule with its nested selectors moved. -/
def Rule.moved (move : String -> String) (rule : Rule) : Rule :=
  { rule with children := rule.children.map move }

namespace Rules

/-- The task at the moved selector. -/
def Task.moved (move : String -> String) : Task -> Task
  | .enter selector => .enter (move selector)
  | .leave selector => .leave (move selector)

/-- The rules with all their selectors moved. -/
def moved (move : String -> String) (rules : Rules) : Rules :=
  Entries.moved move (Rule.moved move) rules

section Moved

variable {move : String -> String} (injective : Function.Injective move)
include injective

theorem adjust_moved (rules : Rules) (selector : String) {change changed : Rule -> Rule}
    (agree : forall rule, changed (rule.moved move) = (change rule).moved move) :
    Entries.adjust (rules.moved move) (move selector) Rule.empty changed =
      moved move (Entries.adjust rules selector Rule.empty change) := by
  have seen : ((rules.moved move).get? (move selector)).getD Rule.empty =
      ((rules.get? selector).getD Rule.empty).moved move := by
    rw [moved, Entries.get?_moved injective]
    cases rules.get? selector <;> rfl
  rw [Entries.adjust, seen, agree]
  exact Entries.put_moved injective _ _ _ _

theorem reach_moved (rules : Rules) (selector : String) :
    (rules.moved move).reach (move selector) = (rules.reach selector).moved move :=
  adjust_moved injective rules selector fun _ => rfl

theorem declare_moved (rules : Rules) (selector property : String) (value : Value) :
    (rules.moved move).declare (move selector) property value =
      (rules.declare selector property value).moved move :=
  adjust_moved injective rules selector fun _ => rfl

theorem adopt_moved (rules : Rules) (parent child : String) :
    (rules.moved move).adopt (move parent) (move child) =
      (rules.adopt parent child).moved move := by
  unfold adopt
  by_cases same : child = parent
  · rw [if_pos same, if_pos (congrArg move same)]
  · rw [if_neg same, if_neg (mt (injective ·) same)]
    apply adjust_moved injective
    intro rule
    have noted : (rule.children.map move).contains (move child) = rule.children.contains child := by
      rw [Bool.eq_iff_iff, List.contains_iff_mem, List.contains_iff_mem,
        List.mem_map_of_injective injective]
    unfold Rule.adopt
    rw [Rule.moved, noted]
    split
    · rfl
    · simp [Rule.moved]

/-- The walk through moved rules is the walk through the rules, moved. -/
theorem walk_moved (rules : Rules) (tasks : List Task) (marked left : List String) :
    walk (rules.moved move) (tasks.map (Task.moved move)) (marked.map move) (left.map move) =
      (walk rules tasks marked left).map move := by
  have found : forall selector, (rules.moved move).get? (move selector) =
      (rules.get? selector).map (Rule.moved move) :=
    Entries.get?_moved injective (Rule.moved move) rules
  fun_induction walk rules tasks marked left with
  | case1 marked left =>
      rw [List.map_nil, walk, List.map_reverse]
  | case2 selector tasks marked left inductionHypothesis =>
      rw [List.map_cons, Task.moved, walk]
      exact inductionHypothesis
  | case3 selector tasks marked left missing inductionHypothesis =>
      have missingHere := found selector
      rw [missing, Option.map_none] at missingHere
      exact (walk_enter_of_none missingHere _ _ _).trans inductionHypothesis
  | case4 selector tasks marked left rule _ seen inductionHypothesis =>
      have seenHere : move selector ∈ marked.map move := List.mem_map_of_mem seen
      exact (walk_enter_of_mem seenHere _ _).trans inductionHypothesis
  | case5 selector tasks marked left rule present unseen inductionHypothesis =>
      have presentHere := found selector
      rw [present, Option.map_some] at presentHere
      have unseenHere : move selector ∉ marked.map move :=
        mt (List.mem_map_of_injective injective).mp unseen
      have children : ((rule.children.map Task.enter ++ .leave selector :: tasks).map
          (Task.moved move)) = (rule.children.map move).map Task.enter ++
            .leave (move selector) :: tasks.map (Task.moved move) := by
        rw [List.map_append, List.map_map, List.map_map, List.map_cons]
        rfl
      rw [← inductionHypothesis, children]
      exact walk_enter_of_not_mem presentHere unseenHere _ _

theorem order_moved (rules : Rules) (selector : String) :
    (rules.moved move).order (move selector) = (rules.order selector).map move :=
  walk_moved injective rules [.enter selector] [] []

end Moved

/-! ## Blocks of moved rules -/

theorem blocks_moved {move : String -> String} (injective : Function.Injective move)
    (rules : Rules) (selector : String) :
    (rules.moved move).blocks (move selector) =
      (rules.blocks selector).map fun block => (move block.1, block.2) := by
  have one : forall inner, (rules.moved move).block? (move inner) =
      (rules.block? inner).map fun block => (move block.1, block.2) := by
    intro inner
    rw [block?, moved, Entries.get?_moved injective, block?]
    cases rules.get? inner with
    | none => rfl
    | some rule =>
        rw [Option.map_some, Option.bind_some, Option.bind_some, Rule.moved]
        cases rule.declarations.filterMap line? <;> rfl
  rw [blocks, order_moved injective, List.filterMap_map, blocks, List.map_filterMap]
  exact List.filterMap_congr fun inner _ => one inner

/-! ## Rules of suffixes -/

/-- The rules with their selectors put behind a scope. -/
def under (scope : String) (rules : Rules) : Rules := rules.moved (scope ++ ·)

theorem injective_append (scope : String) : Function.Injective (scope ++ ·) :=
  fun _ _ equal => (String.append_right_inj scope).mp equal

section Collected

variable (known : PropertySet)

mutual

/-- One entry adds the same rules of suffixes under every class scope.  Behind the suffix of
its parent, a nested selector has that of its key. -/
theorem exists_collectEntry (key : String) : forall (value : Value) (suffix : String)
    (template : Rules),
    (forall nested, nested ∈ nestingKeysOf known key value -> Key.Appends nested.toList) ->
    ',' ∉ suffix.toList -> ∃ next : Rules, forall scope, Selector.IsClassScope scope.toList ->
      collectEntry known (scope ++ suffix) key value (template.under scope) = next.under scope
  | .absent, _, template, _, _ => ⟨template, fun _ _ => rfl⟩
  | .text content, suffix, template, _, _ =>
      ⟨template.declare suffix key (.text content), fun scope _ =>
        declare_moved (injective_append scope) template suffix key (.text content)⟩
  | .number value, suffix, template, _, _ =>
      ⟨template.declare suffix key (.number value), fun scope _ =>
        declare_moved (injective_append scope) template suffix key (.number value)⟩
  | .book body, suffix, template, appends, undivided => by
      rw [nestingKeysOf] at appends
      simp only [collectEntry]
      split at appends
      · rename_i isProperty
        refine ⟨template.declare suffix key (.book body), fun scope _ => ?_⟩
        rw [if_pos isProperty]
        exact declare_moved (injective_append scope) template suffix key (.book body)
      · rename_i nests
        have keyAppends := appends key List.mem_cons_self
        let child := suffix ++ Key.suffix key
        have childUndivided : ',' ∉ child.toList := by
          rw [String.toList_append, List.mem_append]
          exact fun member => member.elim undivided (Key.undivided_suffix keyAppends)
        rcases exists_collectEntries body child ((template.adopt suffix child).reach child)
          (fun nested inside => appends nested (List.mem_cons_of_mem _ inside)) childUndivided with
          ⟨next, collected⟩
        refine ⟨next, fun scope isScope => ?_⟩
        have injective := injective_append scope
        have selector_eq : Key.selector key (scope ++ suffix) = scope ++ child :=
          Key.selector_of_appends isScope undivided keyAppends
        have entered : ((template.under scope).adopt (scope ++ suffix) (scope ++ child)).reach
            (scope ++ child) = ((template.adopt suffix child).reach child).under scope := by
          rw [under, under, ← reach_moved injective, ← adopt_moved injective]
        rw [if_neg nests, selector_eq, entered]
        exact collected scope isScope

/-- The entries of a body add the same rules of suffixes under every class scope. -/
theorem exists_collectEntries : forall (entries : List (String × Value)) (suffix : String)
    (template : Rules),
    (forall nested, nested ∈ nestingKeys known entries -> Key.Appends nested.toList) ->
    ',' ∉ suffix.toList -> ∃ next : Rules, forall scope, Selector.IsClassScope scope.toList ->
      collectEntries known (scope ++ suffix) entries (template.under scope) = next.under scope
  | [], _, template, _, _ => ⟨template, fun _ _ => rfl⟩
  | (key, value) :: rest, suffix, template, appends, undivided => by
      rw [nestingKeys] at appends
      rcases exists_collectEntry key value suffix template
        (fun nested inside => appends nested (List.mem_append_left _ inside)) undivided with
        ⟨first, collectedFirst⟩
      rcases exists_collectEntries rest suffix first
        (fun nested inside => appends nested (List.mem_append_right _ inside)) undivided with
        ⟨next, collected⟩
      refine ⟨next, fun scope isScope => ?_⟩
      rw [collectEntries, collectedFirst scope isScope, collected scope isScope]

end

/-- The rules of a body under its selector are rules of suffixes, put behind the
scope. -/
theorem exists_flatten (body : Book) {suffix : String}
    (appends : forall nested, nested ∈ nestingKeys known body -> Key.Appends nested.toList)
    (undivided : ',' ∉ suffix.toList) :
    ∃ template : Rules, forall scope, Selector.IsClassScope scope.toList ->
      flatten known [] (scope ++ suffix) body = template.under scope := by
  rcases exists_collectEntries known body suffix (Rules.reach [] suffix) appends undivided with
    ⟨template, collected⟩
  refine ⟨template, fun scope isScope => ?_⟩
  rw [← collected scope isScope, under, ← reach_moved (injective_append scope)]
  rfl

end Collected

end Rules
end ThemedStyles
