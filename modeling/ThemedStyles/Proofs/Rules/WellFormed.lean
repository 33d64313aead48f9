import ThemedStyles.Proofs.Rules.Nesting
import ThemedStyles.Proofs.Rules.Visits
import ThemedStyles.Proofs.Rules.Writes

namespace ThemedStyles

/-!
# Well-formed rules

Bodies may be flattened one after the other into the same rules, each under a selector
of its own, a root.  They may meet in a selector, nest it in themselves, or lead back to
a root.  Whatever they do, the rules keep a form: no selector is nested in itself or
noted twice, every nested selector has a rule, only values that can be written are
declared, and every rule can be reached from a root.  Writing relies on this form: its
walk knows the rules of the roots, and all others through them only.

A single write does not keep the form.  A nested selector is noted in the rule of its
parent before it has a rule, and until it is reached the parent names a selector that is
missing.  The step that keeps the form is to note a selector and to reach it; its body
is collected only after that.
-/

/-- Nothing stands twice in the rule of a selector, the selector is not nested in
itself, and each value is one that its property may have. -/
structure Rule.WellFormed (known : PropertySet) (selector : String) (rule : Rule) : Prop where
  properties_nodup : (Entries.keys rule.declarations).Nodup
  children_nodup : rule.children.Nodup
  not_nested : selector ∉ rule.children
  not_absent : forall property value, (property, value) ∈ rule.declarations -> value ≠ .absent
  compound_known : forall property body, (property, Value.book body) ∈ rule.declarations ->
    known.knows property = true

namespace Rule.WellFormed

variable {known : PropertySet} {selector : String} {rule : Rule}

theorem empty : Rule.empty.WellFormed known selector where
  properties_nodup := List.nodup_nil
  children_nodup := List.nodup_nil
  not_nested := List.not_mem_nil
  not_absent _ _ member := absurd member List.not_mem_nil
  compound_known _ _ member := absurd member List.not_mem_nil

theorem adopt (wellFormed : rule.WellFormed known selector) {child : String}
    (apart : child ≠ selector) : (rule.adopt child).WellFormed known selector where
  properties_nodup := by simpa using wellFormed.properties_nodup
  children_nodup := by
    unfold Rule.adopt
    split
    · exact wellFormed.children_nodup
    · rename_i fresh
      rw [List.contains_iff_mem] at fresh
      have appended := wellFormed.children_nodup.concat fresh
      rw [List.concat_eq_append] at appended
      exact appended
  not_nested := by simp [wellFormed.not_nested, Ne.symm apart]
  not_absent := by simpa using wellFormed.not_absent
  compound_known := by simpa using wellFormed.compound_known

theorem declare (wellFormed : rule.WellFormed known selector) {property : String} {value : Value}
    (present : value ≠ .absent)
    (compound : forall body, value = .book body -> known.knows property = true) :
    (rule.declare property value).WellFormed known selector where
  properties_nodup := Entries.nodup_keys_put _ _ _ wellFormed.properties_nodup
  children_nodup := wellFormed.children_nodup
  not_nested := wellFormed.not_nested
  not_absent := by
    intro name declared member
    rcases Entries.mem_of_mem_put member with same | old
    · rw [(Prod.mk.inj same).2]
      exact present
    · exact wellFormed.not_absent name declared old
  compound_known := by
    intro name body member
    rcases Entries.mem_of_mem_put member with same | old
    · rw [(Prod.mk.inj same).1]
      exact compound body (Prod.mk.inj same).2.symm
    · exact wellFormed.compound_known name body old

end Rule.WellFormed

namespace Rules

/-- Each selector has one rule, which is well formed; the roots and all nested selectors
have a rule; and there is no rule that cannot be reached from a root. -/
structure WellFormed (known : PropertySet) (roots : List String) (rules : Rules) : Prop where
  selectors_nodup : (Entries.keys rules).Nodup
  rule : forall selector, (rules.ruleOf selector).WellFormed known selector
  root_present : forall root, root ∈ roots -> root ∈ Entries.keys rules
  child_present : forall parent child, rules.Nests parent child -> child ∈ Entries.keys rules
  reached : forall selector, selector ∈ Entries.keys rules ->
    ∃ root, root ∈ roots ∧ rules.Reaches root selector

variable {known : PropertySet} {roots : List String} {rules : Rules}

theorem wellFormed_nil : WellFormed known [] [] where
  selectors_nodup := List.nodup_nil
  rule _ := Rule.WellFormed.empty
  root_present _ member := absurd member List.not_mem_nil
  child_present _ _ nests := absurd nests List.not_mem_nil
  reached _ member := absurd member List.not_mem_nil

/-! ## Steps -/

/-- A selector that is reached from outside becomes a root. -/
theorem WellFormed.reach_root (wellFormed : rules.WellFormed known roots) (selector : String) :
    (rules.reach selector).WellFormed known (roots ++ [selector]) where
  selectors_nodup := nodup_keys_write wellFormed.selectors_nodup (.reach selector)
  rule other := by simpa using wellFormed.rule other
  root_present root listed := by
    rw [mem_keys_reach]
    rcases List.mem_append.mp listed with old | new
    · exact Or.inr (wellFormed.root_present root old)
    · exact Or.inl (List.mem_singleton.mp new)
  child_present parent child nests := by
    rw [nests_reach_iff] at nests
    exact mem_keys_write (wellFormed.child_present parent child nests) (.reach selector)
  reached other member := by
    rcases (mem_keys_reach rules selector other).mp member with rfl | old
    · exact ⟨other, List.mem_append_right _ List.mem_cons_self, Relation.ReflTransGen.refl⟩
    · rcases wellFormed.reached other old with ⟨root, listed, reaches⟩
      exact ⟨root, List.mem_append_left _ listed, reaches_write reaches (.reach selector)⟩

theorem mem_keys_adopt_reach {parent : String} (present : parent ∈ Entries.keys rules)
    (child other : String) :
    other ∈ Entries.keys ((rules.adopt parent child).reach child) ↔
      other = child ∨ other ∈ Entries.keys rules := by
  rw [mem_keys_reach, mem_keys_adopt present]

theorem reaches_adopt_reach {first last : String} (reaches : rules.Reaches first last)
    (parent child : String) : ((rules.adopt parent child).reach child).Reaches first last :=
  reaches_write (reaches_write reaches (.adopt parent child)) (.reach child)

theorem reaches_adopt (rules : Rules) (parent child : String) :
    (rules.adopt parent child).Reaches parent child := by
  rcases shows_write rules (.adopt parent child) with same | nested
  · rw [same]
    exact Relation.ReflTransGen.refl
  · exact Relation.ReflTransGen.single nested

/-- A nested selector is noted and reached at once.  It may be the parent itself, or have
a rule already. -/
theorem WellFormed.nest (wellFormed : rules.WellFormed known roots) {parent : String}
    (present : parent ∈ Entries.keys rules) (child : String) :
    ((rules.adopt parent child).reach child).WellFormed known roots where
  selectors_nodup := nodup_keys_write
    (nodup_keys_write wellFormed.selectors_nodup (.adopt parent child)) (.reach child)
  rule other := by
    rw [ruleOf_reach, ruleOf_adopt]
    split
    · rename_i noted
      rw [noted.1]
      exact (wellFormed.rule parent).adopt noted.2
    · exact wellFormed.rule other
  root_present root listed :=
    (mem_keys_adopt_reach present child root).mpr (Or.inr (wellFormed.root_present root listed))
  child_present first second nests := by
    rw [nests_reach_iff, nests_adopt_iff] at nests
    rw [mem_keys_adopt_reach present]
    rcases nests with old | ⟨_, new, _⟩
    · exact Or.inr (wellFormed.child_present first second old)
    · exact Or.inl new
  reached other member := by
    rcases (mem_keys_adopt_reach present child other).mp member with rfl | old
    · have parent_reached := wellFormed.reached parent present
      rcases parent_reached with ⟨root, listed, reaches⟩
      have below := reaches_write (reaches_adopt rules parent other) (.reach other)
      exact ⟨root, listed, (reaches_adopt_reach reaches parent other).trans below⟩
    · rcases wellFormed.reached other old with ⟨root, listed, reaches⟩
      exact ⟨root, listed, reaches_adopt_reach reaches parent child⟩

theorem WellFormed.declare (wellFormed : rules.WellFormed known roots) {selector : String}
    (present : selector ∈ Entries.keys rules) {property : String} {value : Value}
    (written : value ≠ .absent)
    (compound : forall body, value = .book body -> known.knows property = true) :
    (rules.declare selector property value).WellFormed known roots where
  selectors_nodup := nodup_keys_write wellFormed.selectors_nodup (.declare selector property value)
  rule other := by
    rw [ruleOf_declare]
    split
    · rename_i same
      rw [same]
      exact (wellFormed.rule selector).declare written compound
    · exact wellFormed.rule other
  root_present root listed :=
    mem_keys_write (wellFormed.root_present root listed) (.declare selector property value)
  child_present parent child nests := by
    rw [nests_declare_iff] at nests
    exact mem_keys_write (wellFormed.child_present parent child nests)
      (.declare selector property value)
  reached other member := by
    rcases wellFormed.reached other ((mem_keys_declare present _ _ _).mp member) with
      ⟨root, listed, reaches⟩
    exact ⟨root, listed, reaches_write reaches (.declare selector property value)⟩

/-! ## Bodies -/

mutual

theorem wellFormed_collectEntry (selector key : String) : forall (value : Value) (rules : Rules),
    selector ∈ Entries.keys rules -> rules.WellFormed known roots ->
    (collectEntry known selector key value rules).WellFormed known roots
  | .absent, rules, _, wellFormed => by
      rw [collectEntry]
      exact wellFormed
  | .text content, rules, present, wellFormed => by
      rw [collectEntry]
      exact wellFormed.declare present Value.noConfusion fun _ same => Value.noConfusion same
  | .number value, rules, present, wellFormed => by
      rw [collectEntry]
      exact wellFormed.declare present Value.noConfusion fun _ same => Value.noConfusion same
  | .book body, rules, present, wellFormed => by
      rw [collectEntry]
      split
      · rename_i knows
        exact wellFormed.declare present Value.noConfusion fun _ _ => knows
      · have reached := (mem_keys_reach (rules.adopt selector (Key.selector key selector))
          (Key.selector key selector) _).mpr (Or.inl rfl)
        exact wellFormed_collectEntries (Key.selector key selector) body _ reached
          (wellFormed.nest present (Key.selector key selector))

/-- The body of a selector with a rule keeps rules well formed, with the same roots. -/
theorem wellFormed_collectEntries (selector : String) :
    forall (entries : List (String × Value)) (rules : Rules),
    selector ∈ Entries.keys rules -> rules.WellFormed known roots ->
    (collectEntries known selector entries rules).WellFormed known roots
  | [], rules, _, wellFormed => by
      rw [collectEntries]
      exact wellFormed
  | (key, value) :: rest, rules, present, wellFormed => by
      have kept := (mem_keys_collectEntry known selector key value rules present selector).mpr
        (Or.inl present)
      rw [collectEntries]
      exact wellFormed_collectEntries selector rest _ kept
        (wellFormed_collectEntry selector key value rules present wellFormed)

end

theorem WellFormed.flatten_root (wellFormed : rules.WellFormed known roots) (selector : String)
    (body : Book) : (flatten known rules selector body).WellFormed known (roots ++ [selector]) := by
  have reached := (mem_keys_reach rules selector selector).mpr (Or.inl rfl)
  exact wellFormed_collectEntries selector body _ reached (wellFormed.reach_root selector)

/-! ## What writing finds -/

section Written

variable (wellFormed : rules.WellFormed known roots)

include wellFormed

/-- The walk from a selector with a rule passes over no nested selector for want of one. -/
theorem WellFormed.mem_order_iff_reaches {selector : String}
    (present : selector ∈ Entries.keys rules) (other : String) :
    other ∈ rules.order selector ↔ rules.Reaches selector other := by
  rw [mem_order_iff]
  refine and_iff_left_of_imp fun reaches => ?_
  cases reaches with
  | refl => exact present
  | tail _ nests => exact wellFormed.child_present _ _ nests

/-- A selector with a declaration that has a text is written below some root. -/
theorem WellFormed.exists_root_of_written_iff (selector : String) :
    (∃ root, root ∈ roots ∧ selector ∈ rules.headers root) ↔
      ∃ declaration, declaration ∈ rules.declarationsOf selector ∧ declaration.2.css? ≠ none := by
  simp only [mem_headers_iff]
  constructor
  · rintro ⟨_, _, _, written⟩
    exact written
  · rintro ⟨declaration, declared, written⟩
    have present := mem_keys_of_declared (List.mem_map_of_mem declared)
    rcases wellFormed.reached selector present with ⟨root, listed, reaches⟩
    exact ⟨root, listed, reaches, declaration, declared, written⟩

end Written

end Rules
end ThemedStyles
