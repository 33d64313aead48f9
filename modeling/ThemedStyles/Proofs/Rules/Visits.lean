import Mathlib.Data.List.Nodup
import ThemedStyles.Proofs.Rules.Blocks

namespace ThemedStyles
namespace Rules

/-!
# Visiting nested selectors

The blocks of a selector are written by visiting it: mark it, visit the selectors
nested in it one after the other, and write its block when that is done.  A selector
that is marked or has no rule is passed over.  `Visits` says this as it stands, and a
derivation of it is a visit that comes to its end.  Every visit does, since no rule is
entered twice; and what it leaves is what the walk with its stack of tasks lists.

A selector is left once if it can be reached and has a rule, and not at all otherwise.
Of the selectors nested in another, those that are unmarked are left within its visit,
and those that were left before come before it as well.  The only others are marked
and not left yet.  Their visits are still going on, so that the other selector can be
reached from them: this is why the order can fail along a circle, and only there.
-/

/-- Visiting the selectors one after the other, when some are marked, ends with these
marked and has left those, oldest first. -/
inductive Visits (rules : Rules) :
    (selectors marked after : List String) -> (left : List String) -> Prop where
  | done (marked : List String) : Visits rules [] marked marked []
  | skip {selector : String} {rest marked after left : List String}
      (idle : rules.get? selector = none ∨ selector ∈ marked)
      (later : Visits rules rest marked after left) :
      Visits rules (selector :: rest) marked after left
  | enter {selector : String} {rule : Rule} {rest marked between after inner left : List String}
      (present : rules.get? selector = some rule) (unseen : selector ∉ marked)
      (nested : Visits rules rule.children (selector :: marked) between inner)
      (later : Visits rules rest between after left) :
      Visits rules (selector :: rest) marked after (inner ++ selector :: left)

namespace Visits

variable {rules : Rules} {selectors marked after left : List String}

/-- Marked in the end is what was marked before and what has been left. -/
theorem mem_after_iff (visits : rules.Visits selectors marked after left) (other : String) :
    other ∈ after ↔ other ∈ marked ∨ other ∈ left := by
  induction visits with
  | done marked => simp
  | skip _ _ inductionHypothesis => exact inductionHypothesis
  | enter _ _ _ _ nestedHypothesis laterHypothesis =>
      rw [laterHypothesis, nestedHypothesis, List.mem_append, List.mem_cons, List.mem_cons]
      grind

/-- The walk does what the visits describe, and goes on with its remaining tasks. -/
theorem walk_eq (visits : rules.Visits selectors marked after left) (tasks : List Task)
    (earlier : List String) :
    walk rules (selectors.map Task.enter ++ tasks) marked earlier =
      walk rules tasks after (left.reverse ++ earlier) := by
  induction visits generalizing tasks earlier with
  | done marked => rfl
  | skip idle _ inductionHypothesis =>
      rw [List.map_cons, List.cons_append, ← inductionHypothesis]
      rcases idle with missing | seen
      · exact walk_enter_of_none missing _ _ _
      · exact walk_enter_of_mem seen _ _
  | @enter selector _ _ _ _ _ inner _ present unseen _ _ nestedHypothesis laterHypothesis =>
      have reversed : forall last : List String,
          (inner ++ selector :: last).reverse ++ earlier =
            last.reverse ++ selector :: (inner.reverse ++ earlier) := by simp
      rw [List.map_cons, List.cons_append, walk_enter_of_not_mem present unseen,
        nestedHypothesis, walk, laterHypothesis, reversed]

/-- No selector is left twice, and none that was marked before. -/
theorem nodup (visits : rules.Visits selectors marked after left) :
    left.Nodup ∧ forall other, other ∈ left -> other ∉ marked := by
  induction visits with
  | done marked => exact ⟨List.nodup_nil, fun _ member => absurd member List.not_mem_nil⟩
  | skip _ _ inductionHypothesis => exact inductionHypothesis
  | @enter selector _ _ marked between _ inner left _ unseen nested _ nestedHypothesis
      laterHypothesis =>
      have beforeLater : forall other, other ∈ left ->
          other ∉ inner ∧ other ≠ selector ∧ other ∉ marked := by
        intro other member
        have fresh := laterHypothesis.2 other member
        rw [nested.mem_after_iff, List.mem_cons, not_or, not_or] at fresh
        exact ⟨fresh.2, fresh.1.1, fresh.1.2⟩
      have withinNested : forall other, other ∈ inner -> other ≠ selector ∧ other ∉ marked := by
        intro other member
        have fresh := nestedHypothesis.2 other member
        rw [List.mem_cons, not_or] at fresh
        exact fresh
      refine ⟨List.nodup_append.mpr ⟨nestedHypothesis.1, ?_, ?_⟩, ?_⟩
      · exact List.nodup_cons.mpr
          ⟨fun member => (beforeLater selector member).2.1 rfl, laterHypothesis.1⟩
      · intro first firstMember second secondMember
        rcases List.mem_cons.mp secondMember with rfl | secondMember
        · exact (withinNested first firstMember).1
        · exact fun same => (beforeLater second secondMember).1 (same ▸ firstMember)
      · intro other member
        rcases List.mem_append.mp member with member | member
        · exact (withinNested other member).2
        · rcases List.mem_cons.mp member with rfl | member
          · exact unseen
          · exact (beforeLater other member).2.2

/-- What is left has a rule. -/
theorem mem_keys (visits : rules.Visits selectors marked after left) {other : String}
    (member : other ∈ left) : other ∈ Entries.keys rules := by
  induction visits with
  | done marked => exact absurd member List.not_mem_nil
  | skip _ _ inductionHypothesis => exact inductionHypothesis member
  | enter present _ _ _ nestedHypothesis laterHypothesis =>
      rcases List.mem_append.mp member with member | member
      · exact nestedHypothesis member
      · rcases List.mem_cons.mp member with rfl | member
        · exact mem_keys_of_get? present
        · exact laterHypothesis member

/-- What is left can be reached from a selector that was to be visited. -/
theorem exists_reaches (visits : rules.Visits selectors marked after left) {other : String}
    (member : other ∈ left) : ∃ selector, selector ∈ selectors ∧ rules.Reaches selector other := by
  induction visits with
  | done marked => exact absurd member List.not_mem_nil
  | skip _ _ inductionHypothesis =>
      rcases inductionHypothesis member with ⟨selector, listed, reaches⟩
      exact ⟨selector, List.mem_cons_of_mem _ listed, reaches⟩
  | @enter selector _ _ _ _ _ _ _ present _ _ _ nestedHypothesis laterHypothesis =>
      rcases List.mem_append.mp member with member | member
      · rcases nestedHypothesis member with ⟨child, listed, reaches⟩
        have nests := (nests_iff_of_get? present child).mpr listed
        exact ⟨selector, List.mem_cons_self, reaches.head nests⟩
      · rcases List.mem_cons.mp member with rfl | member
        · exact ⟨other, List.mem_cons_self, Relation.ReflTransGen.refl⟩
        · rcases laterHypothesis member with ⟨later, listed, reaches⟩
          exact ⟨later, List.mem_cons_of_mem _ listed, reaches⟩

/-- Of the selectors to be visited, all that have a rule are marked in the end. -/
theorem covers (visits : rules.Visits selectors marked after left) {selector : String}
    (listed : selector ∈ selectors) (present : selector ∈ Entries.keys rules) :
    selector ∈ after := by
  induction visits with
  | done marked => exact absurd listed List.not_mem_nil
  | skip idle later inductionHypothesis =>
      rcases List.mem_cons.mp listed with rfl | listed
      · rcases idle with missing | seen
        · exact absurd present ((Entries.get?_eq_none_iff rules _).mp missing)
        · exact (later.mem_after_iff _).mpr (Or.inl seen)
      · exact inductionHypothesis listed
  | enter _ _ nested later _ laterHypothesis =>
      rcases List.mem_cons.mp listed with rfl | listed
      · have marked := (nested.mem_after_iff _).mpr (Or.inl List.mem_cons_self)
        exact (later.mem_after_iff _).mpr (Or.inl marked)
      · exact laterHypothesis listed

/-- The selectors nested in one that is left are marked in the end, if they have a
rule. -/
theorem closed (visits : rules.Visits selectors marked after left) {parent child : String}
    (member : parent ∈ left) (nests : rules.Nests parent child)
    (present : child ∈ Entries.keys rules) : child ∈ after := by
  induction visits with
  | done marked => exact absurd member List.not_mem_nil
  | skip _ _ inductionHypothesis => exact inductionHypothesis member
  | enter found _ nested later nestedHypothesis laterHypothesis =>
      have kept := fun marked => (later.mem_after_iff child).mpr (Or.inl marked)
      rcases List.mem_append.mp member with member | member
      · exact kept (nestedHypothesis member)
      · rcases List.mem_cons.mp member with rfl | member
        · exact kept (nested.covers ((nests_iff_of_get? found child).mp nests) present)
        · exact laterHypothesis member

/-- A nested selector is left before the one in which it is nested, unless this one
can be reached from it.  What was marked before the visits has been left earlier, or
its own visit is still going on, and then everything to be visited can be reached
from it. -/
theorem child_first (visits : rules.Visits selectors marked after left) (earlier : List String)
    (open_reaches : forall other, other ∈ marked -> other ∈ earlier ∨
      forall selector, selector ∈ selectors -> rules.Reaches other selector)
    {parent child : String} (member : parent ∈ left) (nests : rules.Nests parent child)
    (present : child ∈ Entries.keys rules) (apart : ¬ rules.Reaches child parent) :
    [child, parent].Sublist (earlier ++ left) := by
  induction visits generalizing earlier with
  | done marked => exact absurd member List.not_mem_nil
  | skip _ _ inductionHypothesis =>
      refine inductionHypothesis earlier (fun other marked => ?_) member
      exact (open_reaches other marked).imp id fun reaches selector listed =>
        reaches selector (List.mem_cons_of_mem _ listed)
  | @enter selector rule rest marked between _ inner left found _ nested _ nestedHypothesis
      laterHypothesis =>
      have nestsListed := fun listed => (nests_iff_of_get? found listed).mpr
      have regrouped : earlier ++ (inner ++ selector :: left) =
          (earlier ++ inner) ++ [selector] ++ left := by simp
      rcases List.mem_append.mp member with member | member
      · have selector_open : forall other, other ∈ selector :: marked -> other ∈ earlier ∨
            forall listed, listed ∈ rule.children -> rules.Reaches other listed := by
          intro other marked
          rcases List.mem_cons.mp marked with rfl | marked
          · exact Or.inr fun listed isChild =>
              Relation.ReflTransGen.single (nestsListed listed isChild)
          · exact (open_reaches other marked).imp id fun reaches listed isChild =>
              (reaches selector List.mem_cons_self).tail (nestsListed listed isChild)
        have ordered := nestedHypothesis earlier selector_open member
        rw [← List.append_assoc]
        exact ordered.trans (List.sublist_append_left _ _)
      rcases List.mem_cons.mp member with rfl | member
      · have child_marked := nested.covers ((nests_iff_of_get? found child).mp nests) present
        have leftBefore : child ∈ earlier ++ inner := by
          rcases (nested.mem_after_iff child).mp child_marked with marked | inside
          · rcases List.mem_cons.mp marked with rfl | marked
            · exact absurd Relation.ReflTransGen.refl apart
            · rcases open_reaches child marked with before | reaches
              · exact List.mem_append_left _ before
              · exact absurd (reaches parent List.mem_cons_self) apart
          · exact List.mem_append_right _ inside
        have ordered := (List.singleton_sublist.mpr leftBefore).append (List.Sublist.refl [parent])
        rw [regrouped]
        exact ordered.trans (List.sublist_append_left _ _)
      · rw [regrouped]
        refine laterHypothesis _ (fun other marked => ?_) member
        rcases (nested.mem_after_iff other).mp marked with marked | inside
        · rcases List.mem_cons.mp marked with rfl | marked
          · exact Or.inl (List.mem_append_right _ (List.mem_singleton_self other))
          · refine (open_reaches other marked).imp (fun before => ?_) fun reaches later listed =>
              reaches later (List.mem_cons_of_mem _ listed)
            exact List.mem_append_left _ (List.mem_append_left _ before)
        · exact Or.inl (List.mem_append_left _ (List.mem_append_right _ inside))

end Visits

/-! ## Every visit ends -/

theorem length_unmarked_le (rules : Rules) {marked after : List String}
    (grown : marked ⊆ after) : (rules.unmarked after).length ≤ (rules.unmarked marked).length := by
  refine (List.monotone_filter_right _ fun selector unmarked => ?_).length_le
  simp only [Bool.not_eq_true', List.contains_eq_mem, decide_eq_false_iff_not] at unmarked ⊢
  exact fun member => unmarked (grown member)

/-- Every visit comes to its end: each rule that is entered leaves fewer unmarked. -/
theorem exists_visits (rules : Rules) : forall selectors marked : List String,
    ∃ after left, rules.Visits selectors marked after left
  | [], marked => ⟨marked, [], .done marked⟩
  | selector :: rest, marked => by
      by_cases seen : selector ∈ marked
      · rcases exists_visits rules rest marked with ⟨after, left, later⟩
        exact ⟨after, left, .skip (Or.inr seen) later⟩
      cases found : rules.get? selector with
      | none =>
          rcases exists_visits rules rest marked with ⟨after, left, later⟩
          exact ⟨after, left, .skip (Or.inl found) later⟩
      | some rule =>
          have entered : (rules.unmarked (selector :: marked)).length <
              (rules.unmarked marked).length :=
            length_unmarked_cons_lt (mem_keys_of_get? found) seen
          rcases exists_visits rules rule.children (selector :: marked) with
            ⟨between, inner, nested⟩
          have fewer : (rules.unmarked between).length < (rules.unmarked marked).length := by
            refine Nat.lt_of_le_of_lt (rules.length_unmarked_le fun other member => ?_) entered
            exact (nested.mem_after_iff other).mpr (Or.inl member)
          rcases exists_visits rules rest between with ⟨after, left, later⟩
          exact ⟨after, inner ++ selector :: left, .enter found seen nested later⟩
termination_by selectors marked => ((rules.unmarked marked).length, selectors.length)
decreasing_by
  · exact Prod.Lex.right _ (Nat.lt_succ_self _)
  · exact Prod.Lex.right _ (Nat.lt_succ_self _)
  · exact Prod.Lex.left _ _ entered
  · exact Prod.Lex.left _ _ fewer

/-- The visit of a selector leaves what the walk lists. -/
theorem exists_visits_order (rules : Rules) (selector : String) :
    ∃ after, rules.Visits [selector] [] after (rules.order selector) := by
  rcases rules.exists_visits [selector] [] with ⟨after, left, visits⟩
  have walked : rules.order selector = walk rules [] after (left.reverse ++ []) :=
    visits.walk_eq [] []
  rw [walk, List.append_nil, List.reverse_reverse] at walked
  exact ⟨after, walked ▸ visits⟩

/-! ## The order of blocks -/

theorem nodup_order (rules : Rules) (selector : String) : (rules.order selector).Nodup := by
  rcases rules.exists_visits_order selector with ⟨_, visits⟩
  exact visits.nodup.1

/-- Listed are the selectors that can be reached and have a rule. -/
theorem mem_order_iff (rules : Rules) (selector other : String) :
    other ∈ rules.order selector ↔ rules.Reaches selector other ∧ other ∈ Entries.keys rules := by
  rcases rules.exists_visits_order selector with ⟨after, visits⟩
  have left_of_marked : forall {name}, name ∈ after -> name ∈ rules.order selector := by
    intro name marked
    exact ((visits.mem_after_iff name).mp marked).resolve_left List.not_mem_nil
  constructor
  · intro member
    rcases visits.exists_reaches member with ⟨start, listed, reaches⟩
    rw [List.mem_singleton] at listed
    exact ⟨listed ▸ reaches, visits.mem_keys member⟩
  · rintro ⟨reaches, present⟩
    induction reaches with
    | refl => exact left_of_marked (visits.covers List.mem_cons_self present)
    | tail _ nests inductionHypothesis =>
        exact left_of_marked
          (visits.closed (inductionHypothesis (mem_keys_of_nests nests)) nests present)

/-- Nested selectors come first, except along a circle. -/
theorem child_first_in_order (rules : Rules) {selector parent child : String}
    (member : parent ∈ rules.order selector) (nests : rules.Nests parent child)
    (present : child ∈ Entries.keys rules) (apart : ¬ rules.Reaches child parent) :
    [child, parent].Sublist (rules.order selector) := by
  rcases rules.exists_visits_order selector with ⟨_, visits⟩
  exact visits.child_first [] (fun _ marked => absurd marked List.not_mem_nil) member nests
    present apart

theorem mem_headers_iff (rules : Rules) (selector header : String) :
    header ∈ rules.headers selector ↔ rules.Reaches selector header ∧
      ∃ declaration, declaration ∈ rules.declarationsOf header ∧ declaration.2.css? ≠ none := by
  rw [headers, List.mem_filter, mem_order_iff, decide_eq_true_eq, lines_ne_nil_iff]
  constructor
  · exact fun ⟨⟨reaches, _⟩, written⟩ => ⟨reaches, written⟩
  · rintro ⟨reaches, declaration, declared, written⟩
    have present := mem_keys_of_declared (List.mem_map_of_mem declared)
    exact ⟨⟨reaches, present⟩, declaration, declared, written⟩

/-- The visit of a selector comes to its end, whatever shares a nested selector and
whatever is nested in a circle.  Blocks are written for the selectors that can be
reached and have a declaration with a text, for each of them once and for no other.
And the block of a nested selector comes before that of the selector in which it is
nested, unless this one can be reached from it again. -/
theorem blocks_of_reached_selectors (rules : Rules) (selector : String) :
    let headers := rules.headers selector
    (∃ after, rules.Visits [selector] [] after (rules.order selector)) ∧
    rules.css selector = String.join (headers.map fun header =>
      blockText (header, String.join (rules.lines header))) ∧
    headers.Nodup ∧
    (forall header, header ∈ headers ↔ rules.Reaches selector header ∧
      ∃ declaration, declaration ∈ rules.declarationsOf header ∧ declaration.2.css? ≠ none) ∧
    (forall parent child, parent ∈ headers -> child ∈ headers -> rules.Nests parent child ->
      ¬ rules.Reaches child parent -> [child, parent].Sublist headers) := by
  intro headers
  refine ⟨rules.exists_visits_order selector, rules.css_eq_headers selector,
    (rules.nodup_order selector).filter _, rules.mem_headers_iff selector, ?_⟩
  intro parent child parentWritten childWritten nests apart
  have parentLeft := List.mem_filter.mp parentWritten
  have childLeft := List.mem_filter.mp childWritten
  have present := ((rules.mem_order_iff selector child).mp childLeft.1).2
  have written : [child, parent].filter (fun header => rules.lines header ≠ []) =
      [child, parent] := by
    rw [List.filter_eq_self]
    intro header member
    rcases List.mem_pair.mp member with rfl | rfl
    · exact childLeft.2
    · exact parentLeft.2
  rw [← written]
  exact (rules.child_first_in_order parentLeft.1 nests present apart).filter _

/-- `.a` and `.a, .b` are nested in each other.  The state of `.a` is not part of this
circle, and so its block comes before that of `.a`. -/
theorem state_before_its_circle :
    let rules := flatten PropertySet.empty [] ".a"
      [("color", .text "red"), ("&:hover", .book [("color", .text "blue")]),
        (".a, .b", .book [(".a", .book [("margin", .text "0")])])]
    rules.Nests ".a" ".a, .b" ∧ rules.Nests ".a, .b" ".a" ∧
      ¬ rules.Reaches ".a:hover" ".a" ∧ [".a:hover", ".a"].Sublist (rules.headers ".a") := by
  intro rules
  have nests : rules.Nests ".a" ".a:hover" := by decide +kernel
  have apart : ¬ rules.Reaches ".a:hover" ".a" := by
    intro reaches
    have childless : (rules.ruleOf ".a:hover").children = [] := by decide +kernel
    rcases Relation.ReflTransGen.cases_head reaches with same | ⟨child, nested, _⟩
    · exact absurd same (by decide)
    · rw [Nests, childless] at nested
      exact absurd nested List.not_mem_nil
  rcases blocks_of_reached_selectors rules ".a" with ⟨_, _, _, written, ordered⟩
  have parentWritten := (written ".a").mpr
    ⟨Relation.ReflTransGen.refl, ("color", .text "red"), Entries.mem_of_get?_eq_some rfl, by decide⟩
  have childWritten := (written ".a:hover").mpr
    ⟨Relation.ReflTransGen.single nests, ("color", .text "blue"), Entries.mem_of_get?_eq_some rfl, by decide⟩
  exact ⟨by decide +kernel, by decide +kernel, apart,
    ordered ".a" ".a:hover" parentWritten childWritten nests apart⟩

end Rules
end ThemedStyles
