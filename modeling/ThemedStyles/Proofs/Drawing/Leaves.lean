import ThemedStyles.Drawing

namespace ThemedStyles

/-!
# Drawn tables leaf by leaf

Drawing makes a book of every table that stands inside of another one, and works on
these books on the way back.  There the shared declarations of the outer table come
before all that is in a body already, and classes under one key have been put together
before the outer table sees them.

One may as well go through a table once and list what it comes down to.  A leaf is an
entry that is not drawn any further, together with the shared declarations of all the
tables that it stands in.  Putting the leaves one after the other gives the drawn book,
so that the last leaf under a key decides its body and the first one its place.

The two agree because putting entries is associative, which needs books that repeat no
key: of a repeated key among shared declarations, the last value would count in one
table, and the first one would be replaced in another.  Books that are read repeat no
key, since a repeated key replaces its predecessor there.
-/

namespace Value

/-! ## Books that repeat no key -/

mutual

/-- Does no book in a value repeat a key? -/
def distinct : Value -> Bool
  | book entries => (Entries.keys entries).Nodup && allDistinct entries
  | _ => true

def allDistinct : List (String × Value) -> Bool
  | [] => true
  | (_, value) :: rest => value.distinct && allDistinct rest

end

theorem allDistinct_iff (entries : List (String × Value)) :
    allDistinct entries = true ↔ forall entry, entry ∈ entries -> entry.2.distinct = true := by
  induction entries with
  | nil => simp [allDistinct]
  | cons entry rest inductionHypothesis =>
      simp only [allDistinct, Bool.and_eq_true, inductionHypothesis, List.forall_mem_cons]

theorem distinct_book_iff (entries : List (String × Value)) :
    (book entries).distinct = true ↔
      (Entries.keys entries).Nodup ∧
        forall entry, entry ∈ entries -> entry.2.distinct = true := by
  rw [distinct, Bool.and_eq_true, decide_eq_true_eq, allDistinct_iff]

mutual

/-- Once every repeated key has replaced its predecessor, no key is repeated. -/
theorem distinct_collapsed : forall value : Value, value.collapsed.distinct = true
  | text _ => rfl
  | number _ => rfl
  | absent => rfl
  | book entries => by
      have values := (allDistinct_iff _).mp (allDistinct_collapsedEntries entries)
      rw [collapsed, distinct_book_iff]
      exact ⟨Entries.nodup_keys_ofPairs _,
        fun entry member => values entry (Entries.mem_of_mem_ofPairs member)⟩

theorem allDistinct_collapsedEntries : forall entries : List (String × Value),
    allDistinct (collapsedEntries entries) = true
  | [] => rfl
  | (key, value) :: rest => by
      rw [collapsedEntries, allDistinct, Bool.and_eq_true]
      exact ⟨distinct_collapsed value, allDistinct_collapsedEntries rest⟩

end

end Value

/-! ## Books put together -/

namespace Book

/-- Books put into another one in turn may be put together first. -/
theorem foldl_putAll_eq (base : Book) (books : List Book) :
    books.foldl Entries.putAll base = base.putAll (merged books) := by
  induction books generalizing base with
  | nil => rfl
  | cons book rest inductionHypothesis =>
      have together : merged (book :: rest) = (Entries.ofPairs book).putAll (merged rest) :=
        inductionHypothesis (Entries.ofPairs book)
      rw [List.foldl_cons, inductionHypothesis, together,
        Entries.putAll_putAll base (Entries.nodup_keys_ofPairs book), Entries.putAll_ofPairs]

theorem merged_append (first rest : List Book) :
    merged (first ++ rest) = (merged first).putAll (merged rest) := by
  rw [merged, List.foldl_append]
  exact foldl_putAll_eq (merged first) rest

theorem nodup_keys_merged (books : List Book) : (merged books).keys.Nodup := by
  have general : forall base : Book, base.keys.Nodup ->
      (books.foldl Entries.putAll base).keys.Nodup := by
    induction books with
    | nil => exact fun _ distinct => distinct
    | cons book rest inductionHypothesis =>
        exact fun base distinct =>
          inductionHypothesis _ (Entries.nodup_keys_putAll base book distinct)
  exact general [] List.nodup_nil

end Book

namespace Drawing

/-! ## Leaves -/

/-- The target that the values of the innermost tables are assigned to. -/
def Target.innermost : Target -> Target
  | nested inner => inner.innermost
  | target => target

/-- A value that is assigned to properties in the body of a class. -/
structure Leaf where
  /-- The key of the class. -/
  key : String
  /-- The shared declarations of all tables around the value, the outermost first. -/
  shared : List Book
  properties : List String
  value : Value

namespace Leaf

/-- The shared declarations, put together from the outermost inwards, and then the
value under every property. -/
def body (leaf : Leaf) : Book :=
  (Book.merged leaf.shared).putAll (leaf.properties.map fun property => (property, leaf.value))

def entry (leaf : Leaf) : String × Value := (leaf.key, .book leaf.body)

/-- The leaf with further tables around it. -/
def within (leaf : Leaf) (outer : List Book) : Leaf := { leaf with shared := outer ++ leaf.shared }

end Leaf

/-- The shared declarations of a table, if these are a book. -/
def sharedBook? (table : Book) : Option Book := (table.get? "*").bind Value.book?

/-- The leaves of a table drawn under a key inside of tables with shared declarations, in
the order of the table.  Shared declarations and absent values are passed over.  Of the
other entries, one that is a table of its own gives the leaves of that table, and any
other one is a leaf. -/
def leaves (key : String) (around : List Book) (table : Book) : Target -> List Leaf
  | .nested inner =>
      (table.filter fun entry => entry.1 != "*" && !entry.2.isAbsent).flatMap fun entry =>
        match entry.2 with
        | .book sub => leaves (key ++ entry.1) (around ++ (sharedBook? table).toList) sub inner
        | value =>
            [⟨key ++ entry.1, around ++ (sharedBook? table).toList, inner.innermost.names key,
              value⟩]
  | target =>
      (table.filter fun entry => entry.1 != "*" && !entry.2.isAbsent).map fun entry =>
        ⟨key ++ entry.1, around ++ (sharedBook? table).toList, target.names key, entry.2⟩

/-! ## Entries that are tables -/

/-- The inner target and table of a value that is drawn further. -/
def Target.inner? : Target -> Value -> Option (Target × Book)
  | nested inner, .book sub => some (inner, sub)
  | _, _ => none

theorem Target.inner?_eq_some {target inner : Target} {value : Value} {sub : Book}
    (found : target.inner? value = some (inner, sub)) :
    target = .nested inner ∧ value = .book sub := by
  cases target <;> cases value <;> cases found
  exact ⟨rfl, rfl⟩

/-- What holds of a target as soon as it holds of the targets of its inner tables holds
of all targets. -/
theorem Target.inner_induction {motive : Target -> Prop}
    (step : forall target,
      (forall inner value sub, target.inner? value = some (inner, sub) -> motive inner) ->
      motive target) : forall target, motive target
  | .nested inner => by
      apply step
      intro other value sub found
      cases (Target.inner?_eq_some found).1
      exact inner.inner_induction step
  | .ofKey | .one _ | .many _ => by
      apply step
      intro inner value sub found
      cases (Target.inner?_eq_some found).1

section Tables

variable (key : String) (around : List Book) (table : Book) (target : Target)

/-- The leaves that an entry comes down to. -/
def leavesOf (entry : String × Value) : List Leaf :=
  match target.inner? entry.2 with
  | some (inner, sub) => leaves (key ++ entry.1) around sub inner
  | none => [⟨key ++ entry.1, around, target.innermost.names key, entry.2⟩]

/-- The classes that an entry is drawn to. -/
def drawnOf (entry : String × Value) : Book :=
  match target.inner? entry.2 with
  | some (inner, sub) => (draw (key ++ entry.1) sub inner).map (enclosed table)
  | none => [(key ++ entry.1, .book (assigned key target table entry.2))]

theorem leaves_eq :
    leaves key around table target = (table.filter isDrawn).flatMap
      (leavesOf key (around ++ (sharedBook? table).toList) target) := by
  cases target with
  | nested inner =>
      apply congrArg (table.filter isDrawn).flatMap
      funext entry
      rcases entry with ⟨suffix, value⟩
      cases value <;> rfl
  | _ => exact List.map_eq_flatMap

theorem draw_eq :
    draw key table target =
      Entries.ofPairs ((table.filter isDrawn).flatMap (drawnOf key table target)) := by
  rw [Entries.ofPairs, ← Entries.foldl_putAll]
  cases target with
  | nested inner =>
      rw [draw]
      congr
      funext book entry
      rcases entry with ⟨suffix, value⟩
      cases value <;> rfl
  | _ => rfl

theorem names_innermost : forall target : Target, target.innermost.names key = target.names key
  | .ofKey | .one _ | .many _ => rfl
  | .nested inner => names_innermost inner

end Tables

section Tables

variable {key : String} {table : Book} {target : Target}

theorem leaves_within (outer around : List Book) (target : Target) (key : String) (table : Book) :
    leaves key (outer ++ around) table target =
      (leaves key around table target).map fun leaf => leaf.within outer := by
  induction target using Target.inner_induction generalizing key around table with
  | step target inductionHypothesis =>
      rw [leaves_eq, leaves_eq, List.map_flatMap, List.append_assoc]
      congr
      funext entry
      rw [leavesOf, leavesOf]
      split
      · rename_i inner sub found
        exact inductionHypothesis inner entry.2 sub found _ _ _
      · rfl

/-! ## Drawing -/

theorem merged_sharedBook? (distinct : (Value.book table).distinct = true) :
    Book.merged (sharedBook? table).toList = shared table := by
  rw [shared, show sharedSuffix = "*" from rfl, ← sharedBook?]
  cases found : sharedBook? table with
  | none => rfl
  | some book =>
      rcases Option.bind_eq_some_iff.mp found with ⟨value, present, isBook⟩
      have member := Entries.mem_of_get?_eq_some present
      have once := ((Value.distinct_book_iff table).mp distinct).2 _ member
      cases value with
      | book _ =>
          cases isBook
          exact Entries.ofPairs_of_nodup ((Value.distinct_book_iff book).mp once).1
      | _ => cases isBook

/-- A drawn leaf gets the shared declarations of a table around it. -/
theorem enclosed_entry (distinct : (Value.book table).distinct = true) (leaf : Leaf) :
    enclosed table leaf.entry = (leaf.within (sharedBook? table).toList).entry := by
  have body_eq : withShared table leaf.body = (leaf.within (sharedBook? table).toList).body := by
    rw [withShared, Leaf.body, Leaf.body, Leaf.within, Book.merged_append,
      merged_sharedBook? distinct, Entries.putAll_putAll _ (Book.nodup_keys_merged leaf.shared)]
  exact congrArg (fun body => (leaf.key, Value.book body)) body_eq

theorem entry_leaf (distinct : (Value.book table).distinct = true) (name : String) (value : Value) :
    (Leaf.mk name (sharedBook? table).toList (target.innermost.names key) value).entry =
      (name, .book (assigned key target table value)) := by
  rw [Leaf.entry, Leaf.body, merged_sharedBook? distinct, names_innermost, assigned,
    Entries.putAll, List.foldl_map]
  rfl

/-- The drawn book is what comes of putting the leaves in their order. -/
theorem draw_eq_leaves (distinct : (Value.book table).distinct = true) :
    draw key table target = Entries.ofPairs ((leaves key [] table target).map Leaf.entry) := by
  induction target using Target.inner_induction generalizing key table with
  | step target inductionHypothesis =>
      rw [draw_eq, leaves_eq, List.nil_append, List.map_flatMap]
      apply Entries.putAll_flatMap_congr
      intro entry member base
      have listed : entry ∈ table := (List.mem_filter.mp member).1
      rw [drawnOf, leavesOf]
      split
      · rename_i inner sub found
        have isBook : entry.2 = .book sub := (Target.inner?_eq_some found).2
        have once : (Value.book sub).distinct = true :=
          isBook ▸ ((Value.distinct_book_iff table).mp distinct).2 entry listed
        have keeps : forall pair, (enclosed table pair).1 = pair.1 := by
          intro pair
          rw [enclosed]
          split <;> rfl
        have inside := leaves_within (sharedBook? table).toList [] inner (key ++ entry.1) sub
        rw [List.append_nil] at inside
        rw [inductionHypothesis inner entry.2 sub found once, Entries.map_ofPairs keeps,
          Entries.putAll_ofPairs, inside, List.map_map, List.map_map]
        congr 2
        funext leaf
        exact enclosed_entry distinct leaf
      · rw [List.map_singleton, entry_leaf distinct]

end Tables

/-- A table is drawn leaf by leaf.  The keys come in the order in which leaves have them
first, and the last leaf under a key decides the body. -/
theorem drawn_leaf_by_leaf (key : String) (table : Book) (target : Target)
    (distinct : (Value.book table).distinct = true) :
    draw key table target = Entries.ofPairs ((leaves key [] table target).map Leaf.entry) ∧
    (draw key table target).keys = ((leaves key [] table target).map Leaf.key).eraseDups ∧
    forall before leaf after, leaves key [] table target = before ++ leaf :: after ->
      leaf.key ∉ after.map Leaf.key ->
      (draw key table target).get? leaf.key = some (.book leaf.body) := by
  have drawn : draw key table target =
      Entries.ofPairs ((leaves key [] table target).map Leaf.entry) := draw_eq_leaves distinct
  refine ⟨drawn, ?order, ?bodies⟩
  case order =>
    rw [drawn, Entries.keys_ofPairs, Entries.keys, List.map_map]
    rfl
  case bodies =>
    intro before leaf after split last
    have away : leaf.key ∉ Entries.keys (after.map Leaf.entry) := by
      rw [Entries.keys, List.map_map]
      exact last
    rw [drawn, split, List.map_append, List.map_cons]
    exact Entries.get?_ofPairs_of_last away

/-- Spacing in two directions.  Of two values that come out as `padHorizontalSmall` the
later one counts, in the place of the first, behind the shared declarations of its own
table only. -/
theorem horizontal_and_vertical_padding :
    let table : Book :=
      [("*", .book [("boxSizing", "border-box"), ("padding", "0")]),
       ("Horizontal", .book [("*", .book [("padding", "1px")]), ("", "16px"), ("Small", "8px")]),
       ("Vertical", .absent),
       ("HorizontalSmall", "4px")]
    let drawn := draw "pad" table (.nested (.many ["paddingLeft", "paddingRight"]))
    (Value.book table).distinct = true ∧
      drawn.keys = ["padHorizontal", "padHorizontalSmall"] ∧
      drawn.get? "padHorizontal" = some (.book [("boxSizing", "border-box"), ("padding", "1px"),
        ("paddingLeft", "16px"), ("paddingRight", "16px")]) ∧
      drawn.get? "padHorizontalSmall" = some (.book [("boxSizing", "border-box"),
        ("padding", "0"), ("paddingLeft", "4px"), ("paddingRight", "4px")]) := by
  intro table drawn
  have distinct : (Value.book table).distinct = true := by decide
  obtain ⟨_, order, bodies⟩ :=
    drawn_leaf_by_leaf "pad" table (.nested (.many ["paddingLeft", "paddingRight"])) distinct
  refine ⟨distinct, order.trans (by decide), ?_, ?_⟩
  · exact bodies [] _ _ rfl (by decide)
  · exact bodies [_, _] _ [] rfl (by decide)

end Drawing
end ThemedStyles
