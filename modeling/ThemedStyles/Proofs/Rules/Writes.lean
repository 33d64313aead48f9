import ThemedStyles.Proofs.Rules.Views

namespace ThemedStyles
namespace Rules

/-!
# Flattening as a list of writes

Flattening walks down a tree, but what it does to rules is one list of writes, in
the order of the document.  The list depends on the body and on its selector only,
never on the rules that are there already.

Bodies may meet in one selector, so a property can be declared several times and the
last declaration stays.  When a body is flattened a second time, an early declaration
first brings back a value that a later one has replaced; the later one then replaces
it again.  In the end nothing has changed, neither the order of the rules nor that of
declarations and nested selectors within a rule.
-/

/-- One change that flattening makes to rules. -/
inductive Write where
  | reach (selector : String)
  | adopt (parent child : String)
  | declare (selector property : String) (value : Value)

def write (rules : Rules) : Write -> Rules
  | .reach selector => rules.reach selector
  | .adopt parent child => rules.adopt parent child
  | .declare selector property value => rules.declare selector property value

def writeAll (rules : Rules) (writes : List Write) : Rules := writes.foldl write rules

mutual

/-- The writes for one entry of the body of a selector. -/
def writesOf (known : PropertySet) (selector key : String) : Value -> List Write
  | .absent => []
  | .text content => [.declare selector key (.text content)]
  | .number value => [.declare selector key (.number value)]
  | .book body =>
      if known.knows key then [.declare selector key (.book body)]
      else
        let child := Key.selector key selector
        .adopt selector child :: .reach child :: writes known child body

/-- The writes for the body of a selector. -/
def writes (known : PropertySet) (selector : String) : List (String × Value) -> List Write
  | [] => []
  | (key, value) :: rest => writesOf known selector key value ++ writes known selector rest

end

theorem writeAll_cons (rules : Rules) (w : Write) (rest : List Write) :
    rules.writeAll (w :: rest) = (rules.write w).writeAll rest := rfl

theorem writeAll_append (rules : Rules) (first rest : List Write) :
    rules.writeAll (first ++ rest) = (rules.writeAll first).writeAll rest :=
  List.foldl_append

mutual

theorem collectEntry_eq_writeAll (known : PropertySet) (selector key : String) :
    forall (value : Value) (rules : Rules),
      collectEntry known selector key value rules =
        rules.writeAll (writesOf known selector key value)
  | .absent, rules => by rw [collectEntry, writesOf]; rfl
  | .text content, rules => by rw [collectEntry, writesOf]; rfl
  | .number value, rules => by rw [collectEntry, writesOf]; rfl
  | .book body, rules => by
      rw [collectEntry, writesOf]
      split
      · rfl
      · rw [writeAll_cons, writeAll_cons, write, write]
        exact collectEntries_eq_writeAll known _ body _

theorem collectEntries_eq_writeAll (known : PropertySet) (selector : String) :
    forall (entries : List (String × Value)) (rules : Rules),
      collectEntries known selector entries rules =
        rules.writeAll (writes known selector entries)
  | [], rules => by rw [collectEntries, writes]; rfl
  | (key, value) :: rest, rules => by
      rw [collectEntries, writes, writeAll_append, collectEntry_eq_writeAll,
        collectEntries_eq_writeAll]

end

theorem flatten_eq_writeAll (known : PropertySet) (rules : Rules) (selector : String)
    (body : Book) :
    flatten known rules selector body =
      rules.writeAll (.reach selector :: writes known selector body) :=
  collectEntries_eq_writeAll known selector body (rules.reach selector)

/-! ## What writes keep -/

section Kept

variable {rules : Rules}

theorem mem_keys_write {selector : String} (member : selector ∈ Entries.keys rules) (w : Write) :
    selector ∈ Entries.keys (rules.write w) := by
  cases w with
  | reach other => simp [write, reach, member]
  | declare other property value => simp [write, declare, member]
  | adopt parent child =>
      rw [write, adopt]
      split
      · exact member
      · simp [member]

theorem nodup_keys_write (distinct : (Entries.keys rules).Nodup) (w : Write) :
    (Entries.keys (rules.write w)).Nodup := by
  cases w with
  | reach selector => exact Entries.nodup_keys_put _ _ _ distinct
  | declare selector property value => exact Entries.nodup_keys_put _ _ _ distinct
  | adopt parent child =>
      rw [write, adopt]
      split
      · exact distinct
      · exact Entries.nodup_keys_put _ _ _ distinct

theorem nests_write {parent child : String} (nests : rules.Nests parent child) (w : Write) :
    (rules.write w).Nests parent child := by
  cases w with
  | reach other => simp [write, nests]
  | declare other property value => simp [write, nests]
  | adopt other nested => simp [write, nests]

theorem declared_write {selector property : String}
    (declared : property ∈ Entries.keys (rules.declarationsOf selector)) (w : Write) :
    property ∈ Entries.keys ((rules.write w).declarationsOf selector) := by
  cases w with
  | reach other => simpa [write] using declared
  | adopt parent child => simpa [write] using declared
  | declare other name value =>
      rw [write, declarationsOf_declare]
      split
      · rename_i same
        rw [same] at declared
        simp [declared]
      · exact declared

/-- What every single write keeps is kept by all of them. -/
theorem writeAll_keeps (holds : Rules -> Prop) {writes : List Write}
    (step : forall w, w ∈ writes -> forall rules : Rules, holds rules -> holds (rules.write w))
    (start : holds rules) : holds (rules.writeAll writes) := by
  induction writes generalizing rules with
  | nil => exact start
  | cons w rest inductionHypothesis =>
      exact inductionHypothesis (fun later member => step later (List.mem_cons_of_mem _ member))
        (step w List.mem_cons_self rules start)

theorem reaches_writeAll {first last : String} (reaches : rules.Reaches first last)
    (writes : List Write) : (rules.writeAll writes).Reaches first last := by
  have kept : rules.Nests ≤ (rules.writeAll writes).Nests := by
    intro parent child nests
    exact writeAll_keeps (fun rules => rules.Nests parent child)
      (fun w _ _ before => nests_write before w) nests
  exact Relation.ReflTransGen.mono kept first last reaches

theorem reaches_write {first last : String} (reaches : rules.Reaches first last) (w : Write) :
    (rules.write w).Reaches first last :=
  reaches_writeAll reaches [w]

end Kept

/-! ## Writes made again -/

/-- Does the second write declare the same property of the same selector? -/
def Write.ReplacedBy : Write -> Write -> Prop
  | .declare selector property _, .declare other name _ => selector = other ∧ property = name
  | _, _ => False

/-- Do the rules look as they do right after the write? -/
def Shows (rules : Rules) : Write -> Prop
  | .reach selector => selector ∈ Entries.keys rules
  | .adopt parent child => child = parent ∨ rules.Nests parent child
  | .declare selector property value =>
      Entries.get? (rules.declarationsOf selector) property = some value

section Again

variable {rules : Rules}

theorem shows_write (rules : Rules) (w : Write) : (rules.write w).Shows w := by
  cases w with
  | reach selector => simp [Shows, write, reach]
  | adopt parent child =>
      refine (Decidable.em (child = parent)).imp id fun apart => ?_
      simp [write, apart]
  | declare selector property value => simp [Shows, write]

/-- A write that shows already changes nothing. -/
theorem write_eq_self {w : Write} (shown : rules.Shows w) : rules.write w = rules := by
  cases w with
  | reach selector => exact Entries.adjust_eq_self shown rfl
  | adopt parent child =>
      rw [write, adopt]
      split
      · rfl
      · rename_i apart
        have nests := shown.resolve_left apart
        exact Entries.adjust_eq_self (mem_keys_of_nests nests)
          (if_pos (List.contains_iff_mem.mpr nests))
  | declare selector property value =>
      have declared : property ∈ Entries.keys (rules.declarationsOf selector) := by
        rw [← Entries.get?_isSome_iff, show Entries.get? _ _ = _ from shown]
        rfl
      rw [write, declare]
      refine Entries.adjust_eq_self (mem_keys_of_declared declared) ?_
      exact congrArg (Rule.mk · _) (Entries.put_of_get?_eq_some shown)

/-- Only a declaration of the same property of the same selector replaces a value. -/
theorem shows_write_of_shows {w later : Write} (shown : rules.Shows w)
    (apart : ¬ w.ReplacedBy later) : (rules.write later).Shows w := by
  cases w with
  | reach selector => exact mem_keys_write shown later
  | adopt parent child => exact shown.imp id fun nests => nests_write nests later
  | declare selector property value =>
      cases later with
      | reach other => simpa [Shows, write] using shown
      | adopt parent child => simpa [Shows, write] using shown
      | declare other name replacing =>
          rw [Shows, write, declarationsOf_declare]
          split
          · rename_i same
            subst same
            have differs : property ≠ name := fun equal => apart ⟨rfl, equal⟩
            simpa [Shows, differs] using shown
          · exact shown

/-- A declaration of a property that is declared already may be exchanged with any
write that does not replace it. -/
theorem declare_write_comm {selector property : String} {value : Value} {later : Write}
    (declared : property ∈ Entries.keys (rules.declarationsOf selector))
    (apart : ¬ (Write.declare selector property value).ReplacedBy later) :
    (rules.declare selector property value).write later =
      (rules.write later).declare selector property value := by
  have member := mem_keys_of_declared declared
  cases later with
  | reach other => exact Entries.adjust_comm member fun _ => rfl
  | adopt parent child =>
      simp only [write, adopt]
      split
      · rfl
      · exact Entries.adjust_comm member fun _ => Rule.adopt_declare _ _ _ _
  | declare other name replacing =>
      simp only [write, declare]
      refine Entries.adjust_comm member fun same => ?_
      subst same
      have differs : property ≠ name := fun equal => apart ⟨rfl, equal⟩
      exact congrArg (Rule.mk · _) (Entries.put_put_comm _ differs declared value replacing)

theorem declare_declare_self (rules : Rules) (selector property : String) (first second : Value) :
    (rules.declare selector property first).declare selector property second =
      rules.declare selector property second := by
  rw [declare, declare, Entries.adjust_adjust_self, declare, Entries.adjust, Entries.adjust]
  refine congrArg (Entries.put rules selector) ?_
  exact congrArg (Rule.mk · _) (Entries.put_put_self _ _ _ _)

/-- A declaration that is replaced later on leaves no trace, if the property was
declared before and so has its place already. -/
theorem writeAll_declare_of_replaced {selector property : String} {value : Value}
    (declared : property ∈ Entries.keys (rules.declarationsOf selector)) {writes : List Write}
    (replaced : ∃ later, later ∈ writes ∧
      (Write.declare selector property value).ReplacedBy later) :
    (rules.declare selector property value).writeAll writes = rules.writeAll writes := by
  induction writes generalizing rules with
  | nil =>
      rcases replaced with ⟨later, member, _⟩
      exact absurd member List.not_mem_nil
  | cons w rest inductionHypothesis =>
      by_cases here : (Write.declare selector property value).ReplacedBy w
      · have overwritten : (rules.declare selector property value).write w = rules.write w := by
          cases w with
          | reach other => exact here.elim
          | adopt parent child => exact here.elim
          | declare other name replacing =>
              rcases here with ⟨rfl, rfl⟩
              exact declare_declare_self rules selector property value replacing
        exact congrArg (writeAll · rest) overwritten
      · have later : ∃ later, later ∈ rest ∧
            (Write.declare selector property value).ReplacedBy later := by
          rcases replaced with ⟨later, member, replaces⟩
          rcases List.mem_cons.mp member with rfl | member
          · exact absurd replaces here
          · exact ⟨later, member, replaces⟩
        have exchanged := declare_write_comm declared here
        exact (congrArg (writeAll · rest) exchanged).trans
          (inductionHypothesis (declared_write declared w) later)

/-- Behind all writes, the first of them may be made again before the others are. -/
theorem writeAll_write_writeAll (rules : Rules) (w : Write) (rest : List Write) :
    (((rules.write w).writeAll rest).write w).writeAll rest =
      ((rules.write w).writeAll rest).writeAll rest := by
  by_cases replaced : ∃ later, later ∈ rest ∧ w.ReplacedBy later
  · cases w with
    | reach selector => exact absurd replaced.choose_spec.2 id
    | adopt parent child => exact absurd replaced.choose_spec.2 id
    | declare selector property value =>
        have declared : property ∈ Entries.keys
            ((rules.write (.declare selector property value)).declarationsOf selector) := by
          simp [write]
        have still : property ∈ Entries.keys (declarationsOf (writeAll _ rest) selector) :=
          writeAll_keeps (fun rules => property ∈ Entries.keys (rules.declarationsOf selector))
            (fun w _ _ before => declared_write before w) declared
        exact writeAll_declare_of_replaced still replaced
  · have shown : ((rules.write w).writeAll rest).Shows w :=
      writeAll_keeps (fun rules => rules.Shows w)
        (fun later member _ before => shows_write_of_shows before
          fun replaces => replaced ⟨later, member, replaces⟩) (shows_write rules w)
    rw [write_eq_self shown]

/-- Making the same writes again changes nothing. -/
theorem writeAll_writeAll (rules : Rules) (writes : List Write) :
    (rules.writeAll writes).writeAll writes = rules.writeAll writes := by
  induction writes generalizing rules with
  | nil => rfl
  | cons w rest inductionHypothesis =>
      exact (writeAll_write_writeAll rules w rest).trans (inductionHypothesis (rules.write w))

end Again

/-- Flattening a body twice gives the same rules as flattening it once, whatever
rules there were before: the same selectors in the same order, each with the same
declarations and the same nested selectors in the same order. -/
theorem flatten_flatten (known : PropertySet) (rules : Rules) (selector : String) (body : Book) :
    flatten known (flatten known rules selector body) selector body =
      flatten known rules selector body := by
  rw [flatten_eq_writeAll, flatten_eq_writeAll]
  exact writeAll_writeAll rules _

end Rules
end ThemedStyles
