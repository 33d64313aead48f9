import ThemedStyles.Proofs.Compilation.Newcomers
import ThemedStyles.Proofs.Rules.Nesting
import ThemedStyles.Proofs.Selectors.Identifiers

namespace ThemedStyles

/-!
# Rules stay below their scope

A theme must not style what lies outside of it, so every entry of every selector
that is compiled under a scope has to begin with the scope.  That is no matter
of the scope alone: a key whose second entry has no marker, or that leaves a
bracket open, escapes from any scope.

Here it is shown for the keys that are written with care: identifiers, and keys
in which every entry begins with the one marker that the key carries.  A
selector lies within a scope when it is balanced, carries no marker, and begins
with the scope in every entry.  Such keys lead from selectors within a scope to
selectors within the scope, and nesting does nothing else.
-/

namespace Key

/-- A key in which every entry begins with the marker, the only one it carries. -/
structure MarkedBy (marker : Char) (key : List Char) : Prop where
  isMarker : marker ∈ markers
  first : key.head? = some marker
  balanced : Selector.Balanced key
  only : forall char, char ∈ key -> char ∈ markers -> char = marker
  everywhere : forall entry, entry ∈ Selector.entries key -> entry.head? = some marker

instance (marker : Char) (key : List Char) : Decidable (MarkedBy marker key) :=
  decidable_of_iff (marker ∈ markers ∧ key.head? = some marker ∧ Selector.Balanced key ∧
      (key.all fun char => char ∈ markers -> char = marker) = true ∧
      (forall entry, entry ∈ Selector.entries key -> entry.head? = some marker))
    ⟨fun ⟨isMarker, first, balanced, only, everywhere⟩ => ⟨isMarker, first, balanced,
      fun char member => of_decide_eq_true (List.all_eq_true.mp only char member), everywhere⟩,
    fun marked => ⟨marked.isMarker, marked.first, marked.balanced,
      List.all_eq_true.mpr fun char member => decide_eq_true (marked.only char member),
      marked.everywhere⟩⟩

/-- A key that leads out of no scope. -/
def StaysInScope (key : List Char) : Prop :=
  isIdentifier key = true ∨ ∃ marker, MarkedBy marker key

instance (key : List Char) : Decidable (StaysInScope key) :=
  decidable_of_iff (isIdentifier key = true ∨
      (markers.any fun marker => MarkedBy marker key) = true)
    (or_congr Iff.rfl (by
      rw [List.any_eq_true]
      exact exists_congr fun marker => ⟨fun found => of_decide_eq_true found.2,
        fun marked => ⟨marked.isMarker, decide_eq_true marked⟩⟩))

end Key

namespace Selector

/-- A single selector under which a book can be compiled. -/
structure IsScope (scope : List Char) : Prop where
  nonempty : scope ≠ []
  trimmed : Text.trim scope = scope
  isEntry : IsEntry scope
  unmarked : forall char, char ∈ scope -> char ∉ Key.markers

instance (scope : List Char) : Decidable (IsScope scope) :=
  decidable_of_iff (scope ≠ [] ∧ Text.trim scope = scope ∧ IsEntry scope ∧
      (scope.all fun char => char ∉ Key.markers) = true)
    ⟨fun ⟨nonempty, trimmed, isEntry, unmarked⟩ => ⟨nonempty, trimmed, isEntry,
      fun char member => of_decide_eq_true (List.all_eq_true.mp unmarked char member)⟩,
    fun isScope => ⟨isScope.nonempty, isScope.trimmed, isScope.isEntry,
      List.all_eq_true.mpr fun char member => decide_eq_true (isScope.unmarked char member)⟩⟩

/-- A selector whose rules apply below the scope only. -/
structure Within (scope selector : List Char) : Prop where
  begins : scope <+: selector
  balanced : Balanced selector
  unmarked : forall char, char ∈ selector -> char ∉ Key.markers
  everywhere : forall entry, entry ∈ entries selector -> scope <+: entry

section

variable {scope : List Char}

/-- An entry needs to begin with the scope and to carry no marker. -/
theorem Within.of_isEntry (isScope : IsScope scope) {selector : List Char}
    (isEntry : IsEntry selector) (begins : scope <+: selector)
    (unmarked : forall char, char ∈ selector -> char ∉ Key.markers) : Within scope selector := by
  refine ⟨begins, isEntry.balanced, unmarked, ?_⟩
  intro entry member
  rw [isEntry.entries, List.mem_singleton] at member
  rcases begins with ⟨rest, rfl⟩
  rw [member]
  exact Text.prefix_trim [] (by simp) isScope.trimmed isScope.nonempty rest

theorem IsScope.within (isScope : IsScope scope) : Within scope scope :=
  Within.of_isEntry isScope isScope.isEntry (List.prefix_refl scope) isScope.unmarked

theorem Within.ne_nil (isScope : IsScope scope) {selector : List Char}
    (within : Within scope selector) : selector ≠ [] :=
  fun empty => isScope.nonempty (List.prefix_nil.mp (empty ▸ within.begins))

/-- A list of selectors within the scope lies within the scope. -/
theorem Within.joined {parts : List (List Char)} (nonempty : parts ≠ [])
    (within : forall part, part ∈ parts -> Within scope part) : Within scope (joined parts) := by
  refine ⟨?_, balanced_joined fun part member => (within part member).balanced, ?_, ?_⟩
  · rcases List.exists_cons_of_ne_nil nonempty with ⟨first, rest, rfl⟩
    exact (within first List.mem_cons_self).begins.trans (prefix_joined first rest)
  · intro char member
    rcases mem_of_mem_intercalate member with between | ⟨part, present, member⟩
    · rw [List.mem_cons, List.mem_singleton] at between
      rcases between with rfl | rfl <;> decide
    · exact (within part present).unmarked char member
  · intro entry member
    rw [entries_joined nonempty fun part present => (within part present).balanced] at member
    rcases List.mem_flatMap.mp member with ⟨part, present, member⟩
    exact (within part present).everywhere entry member

/-- An entry of a selector within the scope does as a parent of its own. -/
theorem Within.of_mem_entries (isScope : IsScope scope) {selector entry : List Char}
    (within : Within scope selector) (member : entry ∈ entries selector) : Within scope entry :=
  Within.of_isEntry isScope (within.balanced.isEntry_of_mem member)
    (within.everywhere entry member)
    fun char inside => within.unmarked char (mem_of_mem_entries member inside)

end

end Selector

/-! ## Keys lead from within the scope to within the scope -/

namespace Key

open Selector

variable {scope key : List Char}

/-- An identifier lies within the scope if it is written out in full. -/
theorem within_of_prefix (isScope : IsScope scope) (identifier : isIdentifier key = true)
    (begins : scope <+: key) : Within scope key :=
  Within.of_isEntry isScope (isEntry_of_neutral fun _ member =>
    not_mem_delimiters_of_inIdentifier (inIdentifier_of_mem identifier member)) begins
    fun _ member => not_mem_markers_of_inIdentifier (inIdentifier_of_mem identifier member)

/-- The class of an identifier, below an entry within the scope. -/
theorem within_below_class (isScope : IsScope scope) (identifier : isIdentifier key = true)
    {entry : List Char} (isEntry : IsEntry entry) (within : Within scope entry) :
    Within scope (below entry ('.' :: Text.dashedChars key)) := by
  have shape : below entry ('.' :: Text.dashedChars key) =
      entry ++ ([' ', '.'] ++ Text.dashedChars key) :=
    if_neg (by simpa using within.ne_nil isScope)
  have added : forall char, char ∈ [' ', '.'] ++ Text.dashedChars key ->
      char ∉ delimiters ∧ char ∉ markers := by
    intro char member
    rcases List.mem_append.mp member with dot | member
    · rw [List.mem_cons, List.mem_singleton] at dot
      rcases dot with rfl | rfl <;> decide
    · have inside := inIdentifier_dashedChars identifier member
      exact ⟨not_mem_delimiters_of_inIdentifier inside, not_mem_markers_of_inIdentifier inside⟩
  rw [shape]
  refine Within.of_isEntry isScope
    (isEntry.append (isEntry_of_neutral fun char member => (added char member).1))
    (within.begins.trans (List.prefix_append _ _)) ?_
  intro char member
  rcases List.mem_append.mp member with member | member
  · exact within.unmarked char member
  · exact (added char member).2

/-- A key whose entries begin with its marker, over an entry within the scope. -/
theorem within_substituted (isScope : IsScope scope) {marker : Char} (marked : MarkedBy marker key)
    {entry suffix : List Char} (isEntry : IsEntry entry) (within : Within scope entry)
    (light : forall char, char ∈ suffix -> char = ' ' ∨ char = '.') :
    Within scope (substituted marker (entry ++ suffix) key) := by
  have neutral := not_mem_delimiters_of_mem_markers marked.isMarker
  have text : IsEntry (entry ++ suffix) := isEntry.append (isEntry_of_neutral fun char member => by
    rcases light char member with rfl | rfl <;> decide)
  have unmarked : forall char, char ∈ entry ++ suffix -> char ∉ markers := by
    intro char member
    rcases List.mem_append.mp member with member | member
    · exact within.unmarked char member
    · rcases light char member with rfl | rfl <;> decide
  rcases within.begins with ⟨rest, rest_eq⟩
  rw [← rest_eq, List.append_assoc] at text unmarked ⊢
  refine ⟨?_, balanced_substituted neutral text marked.balanced, ?_, ?_⟩
  · rcases List.head?_eq_some_iff.mp marked.first with ⟨tail, tail_eq⟩
    rw [tail_eq, substituted_cons_self, List.append_assoc]
    exact List.prefix_append scope _
  · intro char member
    rcases mem_substituted member with inText | ⟨inKey, different⟩
    · exact unmarked char inText
    · exact fun isMarker => different (marked.only char inKey isMarker)
  · intro part member
    exact prefix_of_mem_entries_substituted marked.isMarker isScope.trimmed isScope.nonempty text
      marked.everywhere member

theorem within_underEntry (isScope : IsScope scope) (stays : StaysInScope key)
    {entry : List Char} (isEntry : IsEntry entry) (within : Within scope entry) :
    Within scope (underEntry key entry) := by
  rcases stays with identifier | ⟨marker, marked⟩
  · rw [underEntry, kind_of_isIdentifier key identifier]
    dsimp only
    split
    · rename_i writtenOut
      rw [Bool.and_eq_true, List.isPrefixOf_iff_prefix] at writtenOut
      exact within_of_prefix isScope identifier (within.begins.trans writtenOut.2)
    · exact within_below_class isScope identifier isEntry within
  · rcases underEntry_of_marked marked.isMarker marked.first (within.ne_nil isScope) with
      ⟨suffix, light, selector_eq⟩
    rw [selector_eq]
    exact within_substituted isScope marked isEntry within light

/-- A key that stays in its scope leads from a selector within a scope to one
within the same scope.  This is the step of the containment of nested bodies.  A list
is distributed over its entries.  A parent that is no list is an entry as it stands,
with the blanks at its ends; only a bare `&` takes a list whole. -/
theorem within_selectorChars (isScope : IsScope scope) (stays : StaysInScope key)
    {parent : List Char} (within : Within scope parent) :
    Within scope (selectorChars key parent) := by
  have entryWithin : forall entry, entry ∈ entries parent -> Within scope (underEntry key entry) :=
    fun entry member => within_underEntry isScope stays (within.balanced.isEntry_of_mem member)
      (Within.of_mem_entries isScope within member)
  unfold selectorChars
  dsimp only
  split
  · rename_i writtenOut
    rw [isWrittenOut, Bool.and_eq_true, beq_iff_eq, Option.any_eq_true] at writtenOut
    rcases writtenOut with ⟨plain, first, first_eq, begins⟩
    rw [Bool.and_eq_true, List.isPrefixOf_iff_prefix] at begins
    have started := (within.everywhere first (List.mem_of_mem_head? first_eq)).trans begins.2
    rcases stays with identifier | ⟨marker, marked⟩
    · exact within_of_prefix isScope identifier started
    · exact absurd plain (kind_of_marked marked.isMarker marked.first)
  · split
    · refine Within.joined (by simpa using entries_ne_nil parent) fun part member => ?_
      rcases List.mem_map.mp member with ⟨entry, present, rfl⟩
      exact entryWithin entry present
    · rename_i undivided
      rw [Bool.and_eq_true, decide_eq_true_eq, bne_iff_ne, not_and_or, not_ne_iff] at undivided
      rcases undivided with single | rfl
      · have isEntry := within.balanced.isEntry (not_lt.mp single)
        exact within_underEntry isScope stays isEntry within
      · have bare : underEntry ['&'] parent = parent := List.append_nil parent
        rw [bare]
        exact within

theorem within_selector {scope key parent : String} (isScope : IsScope scope.toList)
    (stays : StaysInScope key.toList) (within : Within scope.toList parent.toList) :
    Within scope.toList (selector key parent).toList := by
  rw [selector, String.toList_ofList]
  exact within_selectorChars isScope stays within

end Key

/-! ## Rules of a book -/

namespace Book

/-- The keys of a book that become selectors: those of its bodies, and within
the bodies those of nested bodies at any depth. -/
def selectorKeys (known : PropertySet) (book : Book) : List String :=
  book.flatMap fun entry =>
    match entry.2.book? with
    | some body => entry.1 :: Rules.nestingKeys known body
    | none => []

theorem selectorKeys_of_mem_candidates (known : PropertySet) {book : Book} {scope : String}
    {candidate : Candidate} (member : candidate ∈ book.candidates scope) :
    candidate.scope = scope ∧
      candidate.key :: Rules.nestingKeys known candidate.body ⊆ book.selectorKeys known := by
  rcases List.mem_filterMap.mp member with ⟨entry, present, candidate_eq⟩
  rcases Option.map_eq_some_iff.mp candidate_eq with ⟨body, body_eq, rfl⟩
  refine ⟨rfl, fun key inside => List.mem_flatMap.mpr ⟨entry, present, ?_⟩⟩
  rw [body_eq]
  exact inside

/-- If all its keys stay in their scope, no rule of a book leaves the scope
under which the book is compiled: the selectors of all its rules, nested ones
included, carry no marker, and each of their entries begins with the scope.
What a compiler writes are the rules of those candidates that are new to it. -/
theorem selectors_stay_in_scope (known : PropertySet) (book : Book) (scope : String)
    (isScope : Selector.IsScope scope.toList)
    (stay : forall key, key ∈ book.selectorKeys known -> Key.StaysInScope key.toList) :
    forall candidate, candidate ∈ book.candidates scope ->
    forall selector, selector ∈ Entries.keys (candidate.rules known) ->
      (forall char, char ∈ selector.toList -> char ∉ Key.markers) ∧
      (forall entry, entry ∈ Selector.entries selector.toList -> scope.toList <+: entry) := by
  intro candidate member selector present
  rcases selectorKeys_of_mem_candidates known member with ⟨scope_eq, keys⟩
  have top : Selector.Within scope.toList candidate.selector.toList := by
    rw [Candidate.selector, scope_eq]
    exact Key.within_selector isScope (stay _ (keys List.mem_cons_self)) isScope.within
  have within := Rules.keys_flatten_preserve known
    (fun selector => Selector.Within scope.toList selector.toList)
    (fun nested inside parent parentWithin =>
      Key.within_selector isScope (stay nested (keys (List.mem_cons_of_mem _ inside))) parentWithin)
    (fun other old => absurd old List.not_mem_nil) top selector present
  exact ⟨within.unmarked, within.everywhere⟩

/-- Two raw classes, a state of both, and a class below that state. -/
theorem icon_stays_below_light :
    let body : Book := [("&:is(:hover, :focus)", .book [("icon", .book [])])]
    let candidate : Candidate := ⟨"!Button, !Input", ".light", body⟩
    let selector :=
      ".light .Button:is(:hover, :focus) .icon, .light .Input:is(:hover, :focus) .icon"
    selector ∈ Entries.keys (candidate.rules PropertySet.empty) ∧
      (forall char, char ∈ selector.toList -> char ∉ Key.markers) ∧
      (forall entry, entry ∈ Selector.entries selector.toList -> ".light".toList <+: entry) := by
  intro body candidate selector
  have reached : selector ∈ Entries.keys (candidate.rules PropertySet.empty) := by decide +kernel
  exact ⟨reached, selectors_stay_in_scope PropertySet.empty [(candidate.key, .book body)] ".light"
    (by decide +kernel) (by decide +kernel) candidate List.mem_cons_self selector reached⟩

/-- A second entry without a marker of its own would leave the scope. -/
example : Selector.entries (Key.selectorChars "!Button, Input".toList ".light".toList) =
    [".light .Button".toList, "Input".toList] := by decide +kernel

end Book
end ThemedStyles
