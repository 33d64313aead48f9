import ThemedStyles.Proofs.Themes.Frame

namespace ThemedStyles

/-!
# Generators under patches

A generator has no document, so that a theme read from a patched document has none
at all.  It takes each generator from the theme that was patched, at the same
position of the same list, and only where the bounds are still the same.

Over a run of patches this means that a generator lasts as long as the bounds at
its position do.  Bounds are compared with those right before each patch, and so a
generator that was lost stays lost, even if a later patch restores its bounds.
-/

namespace Octave

/-- The generator of the octave at a position, if there is one. -/
def generatorAt (octaves : List Octave) (position : Nat) : Option StepGenerator :=
  octaves[position]?.bind generator

/-- The bounds of the octave at a position, `none` behind the end of the list. -/
def boundsAt (octaves : List Octave) (position : Nat) : Option (Option Nat × Option Nat) :=
  octaves[position]?.map fun octave => (octave.min, octave.length)

theorem boundsAt_adoptingAll (octaves olders : List Octave) (position : Nat) :
    boundsAt (adoptingAll octaves olders) position = boundsAt octaves position := by
  fun_induction adoptingAll octaves olders generalizing position with
  | case1 octave octaves older olders inductionHypothesis =>
      cases position with
      | zero =>
          simp only [boundsAt, List.getElem?_cons_zero, Option.map_some, adopting]
          split <;> rfl
      | succ position => exact inductionHypothesis position
  | case2 octaves => rfl
  | case3 older olders => rfl

/-- Octaves without generators take those of the older octaves that stand at the
same positions and have the same bounds. -/
theorem generatorAt_adoptingAll {octaves : List Octave}
    (plain : forall octave, octave ∈ octaves -> octave.generator = none) (olders : List Octave)
    (position : Nat) :
    generatorAt (adoptingAll octaves olders) position =
      if boundsAt octaves position = boundsAt olders position then generatorAt olders position
      else none := by
  fun_induction adoptingAll octaves olders generalizing position with
  | case1 octave octaves older olders inductionHypothesis =>
      cases position with
      | zero =>
          have lacking : octave.generator = none := plain octave List.mem_cons_self
          simp [generatorAt, boundsAt, adopting, lacking, apply_ite generator]
      | succ position =>
          exact inductionHypothesis (fun other member => plain other (List.mem_cons_of_mem _ member))
            position
  | case2 octaves =>
      have nothing_to_keep : generatorAt octaves position = none := by
        rw [generatorAt, Option.bind_eq_none_iff]
        exact fun octave found => plain octave (List.mem_of_getElem? found)
      rw [nothing_to_keep]
      split <;> rfl
  | case3 older olders =>
      have behind : boundsAt [] position = none := rfl
      rw [behind]
      split
      · rename_i short
        have missing : (older :: olders)[position]? = none := Option.map_eq_none_iff.mp short.symm
        rw [generatorAt, generatorAt, missing]
        rfl
      · rfl

/-! ## Octaves that are read -/

theorem generator_of_ofJson? {json : Json} {octave : Octave} (read : ofJson? json = some octave) :
    octave.generator = none := by
  simp only [ofJson?, Option.bind_eq_bind, Option.bind_eq_some_iff, Option.some.injEq] at read
  obtain ⟨_, _, _, _, _, _, rfl⟩ := read
  rfl

theorem generator_of_mapM_ofJson? {items : List Json} {octaves : List Octave}
    (read : items.mapM ofJson? = some octaves) :
    forall octave, octave ∈ octaves -> octave.generator = none := by
  induction items generalizing octaves with
  | nil =>
      cases read
      exact fun _ member => absurd member List.not_mem_nil
  | cons item rest inductionHypothesis =>
      simp only [List.mapM_cons, Option.bind_eq_bind, Option.bind_eq_some_iff, Option.pure_def,
        Option.some.injEq] at read
      obtain ⟨first, firstRead, others, othersRead, rfl⟩ := read
      rw [List.forall_mem_cons]
      exact ⟨generator_of_ofJson? firstRead, inductionHypothesis othersRead⟩

theorem generator_of_listField? {fields : Entries Json} {name : String} {octaves : List Octave}
    (read : listField? fields name = some octaves) :
    forall octave, octave ∈ octaves -> octave.generator = none := by
  rw [listField?] at read
  split at read
  · rename_i json _
    cases json with
    | list items => exact generator_of_mapM_ofJson? read
    | _ => cases read
  · cases read
    exact fun _ member => absurd member List.not_mem_nil

end Octave

namespace Theme

open Octave (generatorAt boundsAt)

variable {theme merged changed : Theme} {patch json : Json} {path : List String}
  {octaves : Theme -> List Octave}

theorem generator_of_read (member : (path, octaves) ∈ octaveParts)
    (read : Codec.theme.read json = some changed) :
    forall octave, octave ∈ octaves changed -> octave.generator = none := by
  rcases Codec.theme_described.read.mp read with ⟨entries, _, parts⟩
  simp only [Codec.themeFields, List.forall_mem_cons, RecordField.look_required,
    RecordField.look_octaves] at parts
  obtain ⟨palette, spacing, typography, _⟩ := parts
  obtain ⟨_, _, paletteRead⟩ := Option.bind_eq_some_iff.mp palette
  obtain ⟨_, _, typographyRead⟩ := Option.bind_eq_some_iff.mp typography
  rcases Codec.palette_described.read.mp paletteRead with ⟨_, _, colours⟩
  rcases Codec.typography_described.read.mp typographyRead with ⟨_, _, sizes⟩
  simp only [octaveParts, List.mem_cons, List.not_mem_nil, Prod.mk.injEq, or_false] at member
  rcases member with ⟨rfl, rfl⟩ | ⟨rfl, rfl⟩ | ⟨rfl, rfl⟩
  · exact Octave.generator_of_listField?
      (colours (.octaves "color" Palette.octaves) (by simp [Codec.paletteFields]))
  · exact Octave.generator_of_listField? spacing
  · exact Octave.generator_of_listField?
      (sizes (.octaves "fontSize" Typography.octaves) (by simp [Codec.typographyFields]))

/-- A patch keeps the generators whose bounds it keeps, and makes none. -/
theorem generatorAt_of_patched? (member : (path, octaves) ∈ octaveParts)
    (patched : theme.patched? patch = some merged) (position : Nat) :
    generatorAt (octaves merged) position =
      if boundsAt (octaves merged) position = boundsAt (octaves theme) position then
        generatorAt (octaves theme) position
      else none := by
  rcases patched?_eq_some_iff.mp patched with ⟨changed, read, rfl⟩
  rw [octaves_adopting member, Octave.boundsAt_adoptingAll]
  exact Octave.generatorAt_adoptingAll (generator_of_read member read) _ _

/-! ## Runs of patches -/

/-- The themes that patches make one after the other, `none` as soon as one of the
patches fails. -/
def stages? (theme : Theme) : (patches : List Json) -> Option (List Theme)
  | [] => some []
  | patch :: rest => do
      let next ← theme.patched? patch
      let later ← next.stages? rest
      some (next :: later)

theorem stages?_cons_eq_some_iff {patches : List Json} {stages : List Theme} :
    theme.stages? (patch :: patches) = some stages ↔
      ∃ next later, theme.patched? patch = some next ∧ next.stages? patches = some later ∧
        stages = next :: later := by
  simp only [stages?, Option.bind_eq_bind, Option.bind_eq_some_iff, Option.some.injEq,
    exists_and_left]
  simp only [eq_comm]

/-- Over a run, a generator is kept if its bounds are the same after every patch.  What is
lost at the first patch is lost for the rest of the run. -/
theorem generatorAt_of_stages? (member : (path, octaves) ∈ octaveParts) {patches : List Json}
    {stages : List Theme} (made : theme.stages? patches = some stages) (position : Nat) :
    generatorAt (octaves (stages.getLastD theme)) position =
      if forall stage, stage ∈ stages ->
          boundsAt (octaves stage) position = boundsAt (octaves theme) position then
        generatorAt (octaves theme) position
      else none := by
  induction patches generalizing theme stages with
  | nil =>
      cases made
      rw [if_pos fun _ inside => absurd inside List.not_mem_nil]
      rfl
  | cons patch rest inductionHypothesis =>
      rcases stages?_cons_eq_some_iff.mp made with ⟨next, later, patched, laterMade, rfl⟩
      rw [List.getLastD_cons, inductionHypothesis laterMade,
        generatorAt_of_patched? member patched position]
      simp only [List.forall_mem_cons]
      by_cases same : boundsAt (octaves next) position = boundsAt (octaves theme) position
      · simp only [same, if_true, true_and]
      · simp only [same, if_false, false_and, ite_self]

/-- After any run of patches that all succeed, the octave at a position has a
generator exactly if the octave there had it in the beginning and its bounds are
the same after every patch, and then the generator is that of the beginning.  No
further patch, at any point, puts a generator where that generator was not. -/
theorem generators_last_with_bounds {theme : Theme} {patches : List Json} {stages : List Theme}
    (made : theme.stages? patches = some stages) :
    let last := stages.getLastD theme
    forall path octaves, (path, octaves) ∈ octaveParts -> forall position generator,
      (generatorAt (octaves last) position = some generator ↔
        generatorAt (octaves theme) position = some generator ∧
          forall stage, stage ∈ stages ->
            boundsAt (octaves stage) position = boundsAt (octaves theme) position) ∧
      (forall patch next, last.patched? patch = some next ->
        generatorAt (octaves next) position = some generator ->
          generatorAt (octaves last) position = some generator) := by
  intro last path octaves member position generator
  constructor
  · rw [generatorAt_of_stages? member made, Option.ite_none_right_eq_some, and_comm]
  · intro patch next patched present
    rw [generatorAt_of_patched? member patched, Option.ite_none_right_eq_some] at present
    exact present.2

/-- Two generators, one of which is lost as its bounds change and does not come back
with them. -/
theorem restored_bounds_without_generator :
    let first : StepGenerator := ⟨7, fun index => (toString index, "1px")⟩
    let second : StepGenerator := ⟨8, fun index => (toString index, "2px")⟩
    let theme : Theme := { light with spacing := [⟨first, some 1, some 4⟩, ⟨second, none, some 2⟩] }
    let spacing (items : List Json) : Json := .object [("spacingOct", .list items)]
    let kept : Json := .list [.integer 1, .integer 4]
    let patches : List Json :=
      [spacing [kept, .object [("length", .integer 3)], .object []], .null,
       spacing [kept, .object [("length", .integer 2), ("min", .null)]]]
    ∃ stages, theme.stages? patches = some stages ∧
      generatorAt (stages.getLastD theme).spacing 0 = some first ∧
      boundsAt (stages.getLastD theme).spacing 1 = boundsAt theme.spacing 1 ∧
      generatorAt (stages.getLastD theme).spacing 1 = none := by
  intro first second theme spacing kept patches
  have checked : (theme.stages? patches).any (fun stages =>
      stages.all (fun stage => boundsAt stage.spacing 0 == some (some 1, some 4)) &&
        stages.any (fun stage => boundsAt stage.spacing 1 == some (none, some 3)) &&
        boundsAt (stages.getLastD theme).spacing 1 == some (none, some 2)) = true := by
    decide +kernel
  cases made : theme.stages? patches with
  | none =>
      rw [made] at checked
      cases checked
  | some stages =>
      rw [made, Option.any_some] at checked
      simp only [Bool.and_eq_true, List.all_eq_true, List.any_eq_true, beq_iff_eq] at checked
      obtain ⟨⟨same, changed, inside, differs⟩, restored⟩ := checked
      have law := fun position generator => (generators_last_with_bounds made ["spacingOct"]
        (fun theme => theme.spacing) (by simp [octaveParts]) position generator).1
      refine ⟨stages, rfl, (law 0 first).mpr ⟨rfl, same⟩, restored, ?_⟩
      refine Option.eq_none_iff_forall_ne_some.mpr fun generator present => ?_
      have kept := ((law 1 generator).mp present).2 changed inside
      rw [differs] at kept
      cases kept

end Theme
end ThemedStyles
