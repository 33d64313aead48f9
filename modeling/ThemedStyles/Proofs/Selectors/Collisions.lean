import ThemedStyles.Proofs.Selectors.Suffixes
import ThemedStyles.Proofs.Text.Casing

namespace ThemedStyles
namespace Key

open Selector

/-!
# Identifiers that share a selector

Under a scope that is empty or begins with a dot, no identifier counts as written
out, and its class stands at a fixed place of its selector: behind the scope, or
behind the first entry of a list.  A comma ends it at the latest.  So identifiers
with one selector have one class, and where the class tells the identifiers
apart, so does the selector.

A scope that begins otherwise can be taken for the beginning of an identifier,
which then is its own selector.
-/

/-- An empty scope, or one that begins with a dot.  It may be a list. -/
def IsDotted (scope : List Char) : Prop := scope = [] ∨ scope.head? = some '.'

instance (scope : List Char) : Decidable (IsDotted scope) :=
  inferInstanceAs (Decidable (scope = [] ∨ scope.head? = some '.'))

theorem not_beginsWith_of_dot {key parent : List Char} (identifier : isIdentifier key = true)
    (dot : ['.'] <+: parent) : ¬ BeginsWith key parent := fun begins =>
  dot_not_mem_of_isIdentifier identifier ((dot.trans begins.2).subset List.mem_cons_self)

theorem not_isWrittenOut_of_dot {key first : List Char} (identifier : isIdentifier key = true)
    (dot : first = [] ∨ ['.'] <+: first) (others : List (List Char)) :
    ¬ isWrittenOut key (first :: others) = true := by
  rw [isWrittenOut_iff]
  rintro ⟨_, parent, parent_eq, begins⟩
  cases parent_eq
  rcases dot with empty | dot
  · exact begins.1 empty
  · exact not_beginsWith_of_dot identifier dot begins

/-- The first entry of a scope that begins with a dot begins with it, too. -/
theorem entries_of_dot {scope : List Char} (dot : scope.head? = some '.') :
    ∃ first others, entries scope = first :: others ∧ ['.'] <+: first := by
  rcases List.head?_eq_some_iff.mp dot with ⟨rest, rfl⟩
  have whole : ¬ ('.' = ',' ∧ (0 : Nat) = 0) := by decide
  cases pieces_eq : cutAtCommas 0 rest with
  | nil => exact absurd pieces_eq (cutAtCommas_ne_nil 0 rest)
  | cons piece pieces =>
      have cut : cutAtCommas 0 ('.' :: rest) = ('.' :: piece) :: pieces := by
        rw [cutAtCommas_cons whole, show depthAfter 0 '.' = 0 from rfl, pieces_eq,
          List.modifyHead_cons]
      rw [entries, cut]
      exact ⟨_, _, rfl, Text.prefix_trim [] (by simp) (by decide) (by simp) piece⟩

/-- The class of an identifier stands at a fixed place of its selector, and a comma
ends it at the latest. -/
theorem exists_front {scope : List Char} (dotted : IsDotted scope) :
    ∃ front, forall key, isIdentifier key = true -> ∃ rest,
      selectorChars key scope = front ++ '.' :: (Text.dashedChars key ++ rest) ∧
        (rest = [] ∨ rest.head? = some ',') := by
  rcases dotted with rfl | dot
  · refine ⟨[], fun key identifier => ⟨[], ?_, Or.inl rfl⟩⟩
    have unwritten : ¬ isWrittenOut key [[]] = true :=
      not_isWrittenOut_of_dot identifier (Or.inl rfl) []
    have apart : ¬ BeginsWith key [] := fun begins => begins.1 rfl
    rw [selectorChars, show entries [] = [[]] from rfl, if_neg unwritten, if_neg (by simp),
      underEntry_of_not_beginsWith identifier apart, List.append_nil]
    rfl
  · rcases entries_of_dot dot with ⟨first, others, parents, dotFirst⟩
    cases others with
    | nil =>
        refine ⟨scope ++ [' '], fun key identifier => ⟨[], ?_, Or.inl rfl⟩⟩
        have unwritten := not_isWrittenOut_of_dot identifier (Or.inr dotFirst) []
        rcases List.head?_eq_some_iff.mp dot with ⟨tail, rfl⟩
        have apart : ¬ BeginsWith key ('.' :: tail) :=
          not_beginsWith_of_dot identifier (List.prefix_append ['.'] tail)
        rw [selectorChars, parents, if_neg unwritten, if_neg (by simp),
          underEntry_of_not_beginsWith identifier apart, below, if_neg (by simp)]
        simp
    | cons second others =>
        refine ⟨first ++ [' '], fun key identifier =>
          ⟨',' :: ' ' :: joined ((second :: others).map (underEntry key)), ?_, Or.inr rfl⟩⟩
        have unwritten := not_isWrittenOut_of_dot identifier (Or.inr dotFirst) (second :: others)
        have apart := not_beginsWith_of_dot identifier dotFirst
        have named : key ≠ ['&'] := by
          rintro rfl
          exact absurd identifier (by decide)
        have present : ¬ first.isEmpty = true := by
          rw [List.isEmpty_iff]
          rintro rfl
          exact absurd dotFirst (by decide)
        rw [selectorChars, parents, if_neg unwritten, if_pos (by simp [named]), List.map_cons,
          joined_cons _ (by simp), underEntry_of_not_beginsWith identifier apart, below,
          if_neg present]
        simp

/-- Identifiers with one selector have one class. -/
theorem dashedChars_eq_of_selectorChars_eq {scope first second : List Char}
    (dotted : IsDotted scope) (firstIdentifier : isIdentifier first = true)
    (secondIdentifier : isIdentifier second = true)
    (same : selectorChars first scope = selectorChars second scope) :
    Text.dashedChars first = Text.dashedChars second := by
  have read : forall key, isIdentifier key = true -> forall rest : List Char,
      (rest = [] ∨ rest.head? = some ',') ->
        (Text.dashedChars key ++ rest).takeWhile (· != ',') = Text.dashedChars key := by
    intro key identifier rest ended
    have undivided : forall char, char ∈ Text.dashedChars key -> (char != ',') = true := by
      intro char member
      refine bne_iff_ne.mpr ?_
      rintro rfl
      exact absurd (inIdentifier_dashedChars identifier member) (by decide)
    rw [List.takeWhile_append_of_pos undivided]
    rcases ended with rfl | comma
    · simp
    · rcases List.head?_eq_some_iff.mp comma with ⟨tail, rfl⟩
      simp
  rcases exists_front dotted with ⟨front, shape⟩
  rcases shape first firstIdentifier with ⟨firstRest, firstShape, firstEnd⟩
  rcases shape second secondIdentifier with ⟨secondRest, secondShape, secondEnd⟩
  rw [firstShape, secondShape, List.append_cancel_left_eq, List.cons.injEq] at same
  rw [← read first firstIdentifier firstRest firstEnd, same.2,
    read second secondIdentifier secondRest secondEnd]

/-- Identifiers that can be read off their classes do not share a selector. -/
theorem eq_of_selector_eq {first second scope : String} (dotted : IsDotted scope.toList)
    (firstIdentifier : isIdentifier first.toList = true)
    (secondIdentifier : isIdentifier second.toList = true)
    (firstNormal : Text.IsCamelNormal first.toList)
    (secondNormal : Text.IsCamelNormal second.toList)
    (same : selector first scope = selector second scope) : first = second := by
  have classes := dashedChars_eq_of_selectorChars_eq dotted firstIdentifier secondIdentifier
    (String.ofList_injective same)
  have keys := congrArg Text.camelChars classes
  rw [Text.camelChars_dashedChars firstNormal, Text.camelChars_dashedChars secondNormal] at keys
  exact String.toList_inj.mp keys

end Key
end ThemedStyles
