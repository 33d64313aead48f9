import ThemedStyles.Entries

namespace ThemedStyles

/-!
# The ledger of applied generators

A generator is compiled once for a theme.  The ledger notes which generator was
applied to which theme name, and the selectors that were compiled by it.
Switching themes changes nothing in it; only an invalidation strikes out the
notes of a theme name.

Main statements: a note changes what is seen of one pair, an invalidation what
is seen of one theme name, and neither notes a name twice.
-/

/-- Compiled selectors by theme name and generator id. -/
structure Ledger where
  applied : Entries (Entries (List String))

namespace Ledger

/-- The ledger without any note. -/
def empty : Ledger := ⟨[]⟩

/-- The notes of a theme name. -/
def notes (ledger : Ledger) (theme : String) : Entries (List String) :=
  (ledger.applied.get? theme).getD []

/-- Was the generator applied to the theme since its last invalidation? -/
def isApplied (ledger : Ledger) (theme generator : String) : Bool :=
  (ledger.notes theme).has generator

/-- The selectors noted for a pair of a theme and a generator, none for a pair
that is not noted. -/
def listed (ledger : Ledger) (theme generator : String) : List String :=
  ((ledger.notes theme).get? generator).getD []

/-- Note that a generator was applied to a theme and compiled these selectors,
in addition to those noted already. -/
def mark (ledger : Ledger) (theme generator : String) (selectors : List String) : Ledger :=
  ⟨ledger.applied.adjust theme [] fun notes => notes.adjust generator [] (· ++ selectors)⟩

/-- The selectors compiled for a theme by any generator. -/
def selectors (ledger : Ledger) (theme : String) : List String :=
  (ledger.notes theme).values.flatten

/-- Strike out the notes of a theme.  The answer lists its selectors, and there
is none if nothing was noted. -/
def invalidate (ledger : Ledger) (theme : String) : Ledger × Option (List String) :=
  if ledger.applied.has theme then
    (⟨ledger.applied.erase theme⟩, some (ledger.selectors theme))
  else (ledger, none)

/-- The number of pairs of a theme and a generator applied to it. -/
def size (ledger : Ledger) : Nat := ledger.applied.values.flatten.length

/-! ## What a note and an invalidation change -/

theorem notes_mark (ledger : Ledger) (theme generator other : String) (selectors : List String) :
    (ledger.mark theme generator selectors).notes other =
      if other = theme then
        (ledger.notes theme).put generator (ledger.listed theme generator ++ selectors)
      else ledger.notes other := by
  by_cases same : other = theme <;> simp [notes, mark, same, listed, Entries.adjust]

theorem listed_mark (ledger : Ledger) (theme generator other id : String)
    (selectors : List String) :
    (ledger.mark theme generator selectors).listed other id =
      if other = theme ∧ id = generator then ledger.listed theme generator ++ selectors
      else ledger.listed other id := by
  unfold listed
  rw [notes_mark]
  by_cases sameTheme : other = theme
  · by_cases sameId : id = generator <;> simp [sameTheme, sameId, listed]
  · simp [sameTheme]

theorem isApplied_mark (ledger : Ledger) (theme generator other id : String)
    (selectors : List String) :
    (ledger.mark theme generator selectors).isApplied other id =
      (decide (other = theme ∧ id = generator) || ledger.isApplied other id) := by
  unfold isApplied Entries.has
  rw [notes_mark]
  by_cases sameTheme : other = theme
  · by_cases sameId : id = generator <;> simp [sameTheme, sameId]
  · simp [sameTheme]

/-- Notes on different themes may be made in either order. -/
theorem listed_mark_comm (ledger : Ledger) {theme other : String} (different : theme ≠ other)
    (generator id : String) (selectors more : List String) (name tag : String) :
    ((ledger.mark theme generator selectors).mark other id more).listed name tag =
      ((ledger.mark other id more).mark theme generator selectors).listed name tag := by
  simp only [listed_mark]
  by_cases first : name = theme
  · have second : name ≠ other := fun equal => different (first.symm.trans equal)
    simp [first, different]
  · simp [first, Ne.symm different]

/-- A pair that is not noted lists nothing. -/
theorem listed_of_not_isApplied {ledger : Ledger} {theme generator : String}
    (missing : ledger.isApplied theme generator = false) : ledger.listed theme generator = [] := by
  have absent : (ledger.notes theme).get? generator = none :=
    Option.not_isSome_iff_eq_none.mp (Bool.not_eq_true _ ▸ missing)
  rw [listed, absent]
  rfl

/-- A theme of which no pair is noted has no notes. -/
theorem notes_eq_nil {ledger : Ledger} {theme : String}
    (unnoted : forall generator, ledger.isApplied theme generator = false) :
    ledger.notes theme = [] := by
  cases notes : ledger.notes theme with
  | nil => rfl
  | cons entry rest =>
      have noted : ledger.isApplied theme entry.1 = true := by
        rw [isApplied, notes, Entries.has, Entries.get?, if_pos rfl]
        rfl
      rw [unnoted] at noted
      cases noted

/-- A pair that is noted for the first time lists what it is noted with. -/
theorem listed_mark_of_not_isApplied {ledger : Ledger} {theme generator : String}
    (first : ledger.isApplied theme generator = false) (selectors : List String)
    (other id : String) :
    (ledger.mark theme generator selectors).listed other id =
      if (other, id) = (theme, generator) then selectors else ledger.listed other id := by
  rw [listed_mark, listed_of_not_isApplied first, List.nil_append]
  simp only [Prod.mk.injEq]

/-- No theme name, and no generator id under a theme name, is noted twice. -/
structure Distinct (ledger : Ledger) : Prop where
  themes : ledger.applied.keys.Nodup
  generators : forall theme, (ledger.notes theme).keys.Nodup

theorem distinct_empty : Distinct empty := ⟨List.nodup_nil, fun _ => List.nodup_nil⟩

theorem Distinct.mark {ledger : Ledger} (distinct : ledger.Distinct) (theme generator : String)
    (selectors : List String) : (ledger.mark theme generator selectors).Distinct where
  themes := Entries.nodup_keys_put _ _ _ distinct.themes
  generators other := by
    rw [notes_mark]
    split
    · exact Entries.nodup_keys_put _ _ _ (distinct.generators theme)
    · exact distinct.generators other

/-- An invalidation strikes out one theme name, if it was noted at all. -/
theorem notes_invalidate {ledger : Ledger} (distinct : ledger.Distinct)
    (theme other : String) :
    (ledger.invalidate theme).1.notes other = if other = theme then [] else ledger.notes other := by
  unfold invalidate
  split
  · unfold notes
    rw [Entries.get?_erase _ _ _ distinct.themes]
    split <;> rfl
  · rename_i missing
    split
    · rename_i same
      have absent : ledger.applied.get? theme = none :=
        Option.not_isSome_iff_eq_none.mp missing
      rw [same, notes, absent]
      rfl
    · rfl

theorem Distinct.invalidate {ledger : Ledger} (distinct : ledger.Distinct) (theme : String) :
    (ledger.invalidate theme).1.Distinct where
  themes := by
    unfold Ledger.invalidate
    split
    · exact Entries.nodup_keys_erase _ _ distinct.themes
    · exact distinct.themes
  generators other := by
    rw [notes_invalidate distinct]
    split
    · exact List.nodup_nil
    · exact distinct.generators other

theorem listed_invalidate {ledger : Ledger} (distinct : ledger.Distinct)
    (theme other id : String) :
    (ledger.invalidate theme).1.listed other id =
      if other = theme then [] else ledger.listed other id := by
  unfold listed
  rw [notes_invalidate distinct]
  split <;> rfl

theorem isApplied_invalidate {ledger : Ledger} (distinct : ledger.Distinct)
    (theme other id : String) :
    (ledger.invalidate theme).1.isApplied other id =
      (decide (other ≠ theme) && ledger.isApplied other id) := by
  unfold isApplied
  rw [notes_invalidate distinct]
  by_cases same : other = theme <;> simp [same, Entries.has]

/-- The selectors of a theme are those listed for it with any generator. -/
theorem mem_selectors_iff {ledger : Ledger} (distinct : ledger.Distinct) (theme selector : String) :
    selector ∈ ledger.selectors theme ↔ ∃ generator, selector ∈ ledger.listed theme generator := by
  unfold selectors
  rw [List.mem_flatten]
  constructor
  · rintro ⟨noted, member, inside⟩
    rcases (Entries.mem_values_iff _ _ (distinct.generators theme)).mp member with
      ⟨generator, found⟩
    exact ⟨generator, by rw [listed, found]; exact inside⟩
  · rintro ⟨generator, inside⟩
    unfold listed at inside
    cases found : (ledger.notes theme).get? generator with
    | none =>
        rw [found] at inside
        exact absurd inside List.not_mem_nil
    | some noted =>
        rw [found] at inside
        exact ⟨noted,
          (Entries.mem_values_iff _ _ (distinct.generators theme)).mpr ⟨generator, found⟩, inside⟩

theorem mem_selectors_mark_iff {ledger : Ledger} (distinct : ledger.Distinct)
    (theme generator other selector : String) (selectors : List String) :
    selector ∈ (ledger.mark theme generator selectors).selectors other ↔
      selector ∈ ledger.selectors other ∨ (other = theme ∧ selector ∈ selectors) := by
  rw [mem_selectors_iff (distinct.mark theme generator selectors), mem_selectors_iff distinct]
  simp only [listed_mark]
  constructor
  · rintro ⟨id, inside⟩
    split at inside
    · rename_i same
      rcases List.mem_append.mp inside with older | added
      · exact Or.inl ⟨generator, same.1 ▸ older⟩
      · exact Or.inr ⟨same.1, added⟩
    · exact Or.inl ⟨id, inside⟩
  · rintro (⟨id, inside⟩ | ⟨same, added⟩)
    · refine ⟨id, ?_⟩
      split
      · rename_i both
        exact List.mem_append_left _ (both.1 ▸ both.2 ▸ inside)
      · exact inside
    · exact ⟨generator, by rw [if_pos ⟨same, rfl⟩]; exact List.mem_append_right _ added⟩

theorem mem_selectors_invalidate_iff {ledger : Ledger} (distinct : ledger.Distinct)
    (theme other selector : String) :
    selector ∈ (ledger.invalidate theme).1.selectors other ↔
      selector ∈ ledger.selectors other ∧ other ≠ theme := by
  rw [mem_selectors_iff (distinct.invalidate theme), mem_selectors_iff distinct]
  simp only [listed_invalidate distinct]
  by_cases same : other = theme <;> simp [same]

end Ledger
end ThemedStyles
