import Mathlib.Data.List.Forall2
import ThemedStyles.Proofs.Selectors.Identifiers

namespace ThemedStyles

/-!
# The class that a selector is about

An identifier registers a class, and its rules are to apply to elements of that
class.  So every entry of its selector has to end with the class, whatever the
scope is: empty, an element, a list, or a text whose brackets do not match.

A scope can be taken for the beginning of the key, and then the key counts as a
selector written out in full.  That decides about the whole selector where it is
the first entry of the scope with which the key begins, and about one entry
where it is a later one.  It is the only exception.
-/

namespace Text

theorem dropWhile_of_unbroken {text : List Char}
    (unbroken : forall char, char ∈ text -> isBlank char = false) :
    text.dropWhile isBlank = text := by
  cases text with
  | nil => rfl
  | cons char rest => rw [List.dropWhile_cons, if_neg (by simp [unbroken char List.mem_cons_self])]

/-- Where a text ends without a blank, trimming drops its first blanks only. -/
theorem trim_append_of_unbroken (rest : List Char) {finish : List Char} (nonempty : finish ≠ [])
    (unbroken : forall char, char ∈ finish -> isBlank char = false) :
    trim (rest ++ finish) = rest.dropWhile isBlank ++ finish := by
  have front : (rest ++ finish).dropWhile isBlank = rest.dropWhile isBlank ++ finish := by
    rw [List.dropWhile_append, dropWhile_of_unbroken unbroken]
    split
    · rename_i empty
      rw [List.isEmpty_iff.mp empty, List.nil_append]
    · rfl
  have back : finish.reverse.dropWhile isBlank = finish.reverse :=
    dropWhile_of_unbroken fun char member => unbroken char (List.mem_reverse.mp member)
  rw [trim, front, List.reverse_append, List.dropWhile_append, back, if_neg (by simp [nonempty]),
    List.reverse_append, List.reverse_reverse, List.reverse_reverse]

theorem trim_of_unbroken {text : List Char}
    (unbroken : forall char, char ∈ text -> isBlank char = false) : trim text = text := by
  by_cases nonempty : text = []
  · rw [nonempty]
    rfl
  · exact trim_append_of_unbroken [] nonempty unbroken

end Text

namespace Selector

/-! ## Pieces of any text

The pieces of a text are recognised by what they are, also where its brackets do
not match: all but the last close what they open, and none is cut.  A closing
bracket without an opening one is not barred here, since the cuts pass over it. -/

/-- Pieces into which some text is cut, the first one from a depth on. -/
inductive IsCut : Nat -> List (List Char) -> Prop where
  | last {depth behind : Nat} {piece : List Char}
      (whole : depthBehind? [','] depth piece = some behind) : IsCut depth [piece]
  | cons {depth : Nat} {piece : List Char} {pieces : List (List Char)}
      (closed : depthBehind? [','] depth piece = some 0) (later : IsCut 0 pieces) :
      IsCut depth (piece :: pieces)

namespace IsCut

variable {depth : Nat} {pieces : List (List Char)}

theorem ne_nil (cut : IsCut depth pieces) : pieces ≠ [] := by
  cases cut <;> exact List.cons_ne_nil _ _

theorem grow {char : Char} (whole : ¬ (char = ',' ∧ depth = 0))
    (cut : IsCut (depthAfter depth char) pieces) :
    IsCut depth (pieces.modifyHead (char :: ·)) := by
  have step : forall piece, depthBehind? [','] depth (char :: piece) =
      depthBehind? [','] (depthAfter depth char) piece := by
    intro piece
    rw [depthBehind?, if_neg fun barred => whole ⟨List.mem_singleton.mp barred.2, barred.1⟩]
  cases cut with
  | last scanned => exact .last ((step _).trans scanned)
  | cons closed later => exact .cons ((step _).trans closed) later

/-- A change of every piece that keeps its brackets keeps the cuts. -/
theorem map {change : List Char -> List Char}
    (keeps : forall piece depth, depthBehind? [','] depth (change piece) =
      depthBehind? [','] depth piece)
    (cut : IsCut depth pieces) : IsCut depth (pieces.map change) := by
  induction cut with
  | last whole => exact .last ((keeps _ _).trans whole)
  | cons closed _ inductionHypothesis => exact .cons ((keeps _ _).trans closed) inductionHypothesis

/-- Pieces of a text may be joined to a list, and are its entries. -/
theorem entries_joined (cut : IsCut 0 pieces) : entries (joined pieces) = pieces.map Text.trim := by
  generalize start : 0 = depth at cut
  induction cut with
  | last whole =>
      subst start
      rw [joined, List.intercalate_singleton, entries, cutAtCommas_of_whole (by simp) whole]
  | @cons depth piece pieces closed later inductionHypothesis =>
      subst start
      have single : entries piece = [Text.trim piece] := by
        rw [entries, cutAtCommas_of_whole (by simp) closed, List.map_singleton]
      rw [joined_cons piece later.ne_nil, entries_append_comma closed, single,
        inductionHypothesis rfl, List.singleton_append, List.map_cons]

end IsCut

theorem isCut_cutAtCommas (depth : Nat) (text : List Char) :
    IsCut depth (cutAtCommas depth text) := by
  induction text generalizing depth with
  | nil => exact .last rfl
  | cons char text inductionHypothesis =>
      by_cases cut : char = ',' ∧ depth = 0
      · rw [cut.1, cut.2, cutAtCommas_cons_of_cut]
        exact .cons rfl (inductionHypothesis 0)
      · rw [cutAtCommas_cons cut]
        exact (inductionHypothesis _).grow cut

end Selector

/-! ## Identifiers under any scope -/

namespace Key

open Selector

/-- Does the key begin with the parent, so that it counts as written out? -/
def BeginsWith (key parent : List Char) : Prop := parent ≠ [] ∧ parent <+: key

instance (key parent : List Char) : Decidable (BeginsWith key parent) :=
  inferInstanceAs (Decidable (parent ≠ [] ∧ parent <+: key))

theorem isWrittenOut_iff (key : List Char) (parents : List (List Char)) :
    isWrittenOut key parents = true ↔
      kind key = .plain ∧ ∃ first, parents.head? = some first ∧ BeginsWith key first := by
  simp [isWrittenOut, Option.any_eq_true, BeginsWith]

theorem underEntry_of_writtenOut {key parent : List Char} (plain : kind key = .plain)
    (begins : BeginsWith key parent) : underEntry key parent = key := by
  rw [underEntry, plain]
  exact if_pos (by simpa [BeginsWith] using begins)

section Identifier

variable {key : List Char}

theorem underEntry_of_beginsWith (identifier : isIdentifier key = true) {parent : List Char}
    (begins : BeginsWith key parent) : underEntry key parent = key :=
  underEntry_of_writtenOut (kind_of_isIdentifier key identifier) begins

theorem underEntry_of_not_beginsWith (identifier : isIdentifier key = true) {parent : List Char}
    (apart : ¬ BeginsWith key parent) :
    underEntry key parent = below parent ('.' :: Text.dashedChars key) := by
  rw [underEntry, kind_of_isIdentifier key identifier]
  exact if_neg (by simpa [BeginsWith] using apart)

theorem isBlank_of_mem_class (identifier : isIdentifier key = true) {char : Char}
    (member : char ∈ '.' :: Text.dashedChars key) : Text.isBlank char = false := by
  rcases List.mem_cons.mp member with rfl | member
  · decide
  · exact isBlank_of_inIdentifier (inIdentifier_dashedChars identifier member)

theorem below_eq_append (parent selector : List Char) :
    ∃ blanks, (forall char, char ∈ blanks -> char = ' ') ∧
      below parent selector = (parent ++ blanks) ++ selector := by
  unfold below
  split
  · rename_i empty
    rw [List.isEmpty_iff.mp empty]
    exact ⟨[], by simp, rfl⟩
  · exact ⟨[' '], by simp, by simp⟩

/-- An identifier takes up the brackets of its parent and adds none. -/
theorem depthBehind?_underEntry (identifier : isIdentifier key = true) (parent : List Char)
    (depth : Nat) :
    depthBehind? [','] depth (underEntry key parent) = depthBehind? [','] depth parent := by
  have delimits : [','] ⊆ delimiters := by simp [delimiters]
  by_cases begins : BeginsWith key parent
  · have neutral : forall char, char ∈ key -> char ∉ delimiters := fun char member =>
      not_mem_delimiters_of_inIdentifier (inIdentifier_of_mem identifier member)
    rw [underEntry_of_beginsWith identifier begins,
      depthBehind?_of_neutral delimits neutral depth,
      depthBehind?_of_neutral delimits (fun char member => neutral char
        (begins.2.subset member)) depth]
  · have neutral : forall char, char ∈ '.' :: Text.dashedChars key -> char ∉ delimiters := by
      intro char member
      rcases List.mem_cons.mp member with rfl | member
      · decide
      · exact not_mem_delimiters_of_inIdentifier (inIdentifier_dashedChars identifier member)
    rcases below_eq_append parent ('.' :: Text.dashedChars key) with ⟨blanks, blank, split⟩
    have neutralBlanks : forall char, char ∈ blanks -> char ∉ delimiters := by
      intro char member
      rw [blank char member]
      decide
    rw [underEntry_of_not_beginsWith identifier begins, split,
      depthBehind?_append_neutral delimits _ neutral,
      depthBehind?_append_neutral delimits _ neutralBlanks]

/-- What becomes of a key with this class under one entry of a scope. -/
def EndsInClass (key name parent entry : List Char) : Prop :=
  if BeginsWith key parent then entry = key else '.' :: name <:+ entry

theorem endsInClass_trim_underEntry (identifier : isIdentifier key = true)
    (parent : List Char) :
    EndsInClass key (Text.dashedChars key) parent (Text.trim (underEntry key parent)) := by
  unfold EndsInClass
  split
  · rename_i begins
    rw [underEntry_of_beginsWith identifier begins]
    exact Text.trim_of_unbroken fun char member =>
      isBlank_of_inIdentifier (inIdentifier_of_mem identifier member)
  · rename_i apart
    rcases below_eq_append parent ('.' :: Text.dashedChars key) with ⟨blanks, _, split⟩
    rw [underEntry_of_not_beginsWith identifier apart, split,
      Text.trim_append_of_unbroken _ (List.cons_ne_nil _ _)
        fun _ member => isBlank_of_mem_class identifier member]
    exact List.suffix_append _ _

/-- The entries of a list of selectors, one below each entry of a scope. -/
theorem entries_joined_underEntry (identifier : isIdentifier key = true) (scope : List Char) :
    entries (joined ((entries scope).map (underEntry key))) =
      (entries scope).map fun parent => Text.trim (underEntry key parent) := by
  have keeps : forall piece depth, depthBehind? [','] depth (underEntry key (Text.trim piece)) =
      depthBehind? [','] depth piece := by
    intro piece depth
    rw [depthBehind?_underEntry identifier, depthBehind?_trim (by simp [delimiters])]
  have cut := (isCut_cutAtCommas 0 scope).map keeps
  have parents : entries scope = (cutAtCommas 0 scope).map Text.trim := rfl
  have taken := cut.entries_joined
  rw [List.map_map] at taken
  rw [parents, List.map_map, List.map_map]
  exact taken

/-- A scope that is no list is taken with the blanks at its ends. -/
theorem entries_underEntry (identifier : isIdentifier key = true) {scope : List Char}
    (single : (entries scope).length ≤ 1) :
    entries scope = [Text.trim scope] ∧
      entries (underEntry key scope) = [Text.trim (underEntry key scope)] := by
  have whole := cutAtCommas_of_single single
  have cut := isCut_cutAtCommas 0 scope
  rw [whole] at cut
  have below := (cut.map (depthBehind?_underEntry identifier)).entries_joined
  rw [List.map_singleton, joined, List.intercalate_singleton] at below
  exact ⟨by rw [entries, whole, List.map_singleton], below⟩

theorem forall₂_endsInClass (identifier : isIdentifier key = true) {scope : List Char}
    (apart : isWrittenOut key (entries scope) = false) :
    List.Forall₂ (EndsInClass key (Text.dashedChars key)) (entries scope)
      (entries (selectorChars key scope)) := by
  unfold selectorChars
  rw [if_neg (by simp [apart])]
  split
  · rw [entries_joined_underEntry identifier, List.forall₂_map_right_iff, List.forall₂_same]
    exact fun parent _ => endsInClass_trim_underEntry identifier parent
  · rename_i undivided
    have notBare : key ≠ ['&'] := by
      rintro rfl
      exact absurd identifier (by decide)
    have single : (entries scope).length ≤ 1 := by
      simpa [notBare] using undivided
    rcases entries_underEntry identifier single with ⟨parents, selectors⟩
    have trimmedApart : ¬ BeginsWith key (Text.trim scope) := by
      intro begins
      have writtenOut := (isWrittenOut_iff key (entries scope)).mpr
        ⟨kind_of_isIdentifier key identifier, Text.trim scope, by rw [parents, List.head?_cons],
          begins⟩
      rw [apart] at writtenOut
      exact Bool.noConfusion writtenOut
    have scopeApart : ¬ BeginsWith key scope := by
      intro begins
      have nothing_trimmed : Text.trim scope = scope := Text.trim_of_unbroken fun char member =>
        isBlank_of_inIdentifier (inIdentifier_of_mem identifier (begins.2.subset member))
      exact trimmedApart (nothing_trimmed.symm ▸ begins)
    have ends := endsInClass_trim_underEntry identifier scope
    rw [EndsInClass, if_neg scopeApart] at ends
    rw [parents, selectors]
    refine .cons ?_ .nil
    rw [EndsInClass, if_neg trimmedApart]
    exact ends

theorem suffix_of_forall₂_endsInClass {name : List Char} {parents selectors : List (List Char)}
    (ends : List.Forall₂ (EndsInClass key name) parents selectors)
    (apart : forall parent, parent ∈ parents -> ¬ BeginsWith key parent) :
    forall entry, entry ∈ selectors -> '.' :: name <:+ entry := by
  induction ends with
  | nil => exact fun _ member => absurd member List.not_mem_nil
  | cons here _ inductionHypothesis =>
      intro entry member
      rw [EndsInClass, if_neg (apart _ List.mem_cons_self)] at here
      rcases List.mem_cons.mp member with rfl | member
      · exact here
      · have later := fun parent inside => apart parent (List.mem_cons_of_mem _ inside)
        exact inductionHypothesis later entry member

end Identifier

/-- A key that registers a class denotes a selector about that class.  Unless the
key begins with the first entry of the scope, the selector has one entry for each
entry of the scope.  It ends with the class, except for the entries with which
the key begins; there the key stands alone, and where the first entry is one of
these, the key is the whole selector. -/
theorem selector_ends_in_registered_class (key scope name : String)
    (registers : className? key = some name) :
    let parents := entries scope.toList
    let result := entries (selector key scope).toList
    ((forall parent, parent ∈ parents -> ¬ BeginsWith key.toList parent) ->
      forall entry, entry ∈ result -> '.' :: name.toList <:+ entry) ∧
    ((forall first, parents.head? = some first -> ¬ BeginsWith key.toList first) ->
      List.Forall₂ (EndsInClass key.toList name.toList) parents result) ∧
    (forall first, parents.head? = some first -> BeginsWith key.toList first ->
      selector key scope = key) := by
  intro parents result
  obtain ⟨identifier, rfl⟩ : isIdentifier key.toList = true ∧ Text.dashed key = name := by
    unfold className? at registers
    split at registers
    · rename_i identifier
      exact ⟨identifier, Option.some.inj registers⟩
    · exact absurd registers (by simp)
  have class_eq : (Text.dashed key).toList = Text.dashedChars key.toList := String.toList_ofList
  have result_eq : result = entries (selectorChars key.toList scope.toList) :=
    congrArg entries String.toList_ofList
  have paired : (forall first, parents.head? = some first -> ¬ BeginsWith key.toList first) ->
      List.Forall₂ (EndsInClass key.toList (Text.dashed key).toList) parents result := by
    intro apart
    have unwritten : isWrittenOut key.toList parents = false := by
      rw [← Bool.not_eq_true, isWrittenOut_iff]
      rintro ⟨_, first, first_eq, begins⟩
      exact apart first first_eq begins
    rw [class_eq, result_eq]
    exact forall₂_endsInClass identifier unwritten
  refine ⟨?_, paired, ?_⟩
  · intro apart
    have ends := paired fun first first_eq => apart first (List.mem_of_mem_head? first_eq)
    exact suffix_of_forall₂_endsInClass ends apart
  · intro first first_eq begins
    have writtenOut := (isWrittenOut_iff key.toList parents).mpr
      ⟨kind_of_isIdentifier _ identifier, first, first_eq, begins⟩
    rw [selector, selectorChars, if_pos writtenOut, String.ofList_toList]

/-- A theme, and a list whose second entry the key begins with. -/
theorem heading_below_scopes :
    className? "h3" = some "h-3" ∧
      (forall entry, entry ∈ entries (selector "h3" ".light").toList ->
        ".h-3".toList <:+ entry) ∧
      List.Forall₂ (EndsInClass "h3".toList "h-3".toList) [".light".toList, "h".toList]
        (entries (selector "h3" ".light, h").toList) ∧
      selector "h3" "h, .light" = "h3" := by
  have registers : className? "h3" = some "h-3" := by decide +kernel
  exact ⟨registers,
    (selector_ends_in_registered_class "h3" ".light" "h-3" registers).1 (by decide +kernel),
    (selector_ends_in_registered_class "h3" ".light, h" "h-3" registers).2.1 (by decide +kernel),
    (selector_ends_in_registered_class "h3" "h, .light" "h-3" registers).2.2 ['h']
      (by decide +kernel) (by decide +kernel)⟩

/-- Under an element with which it begins, a key that registers a class denotes
an element and not that class. -/
theorem element_scope_hides_class :
    className? "h3" = some "h-3" ∧
      ¬ forall entry, entry ∈ entries (selector "h3" "h").toList -> ".h-3".toList <:+ entry := by
  decide +kernel

end Key
end ThemedStyles
