import ThemedStyles.Proofs.Themes.Forms

namespace ThemedStyles

/-!
# Patched themes

A theme is patched through its document, which is read again afterwards.  The
document of a theme with finite numbers holds everything but the generators of
its octaves, and these are put back where the bounds have stayed.  So an empty
patch changes nothing at all.

A patch that has been applied changes nothing any more.  The theme that it has
made is read from its document part by part, and every part either is what the
patch has in its place or was not touched by it.
-/

namespace Codec

open RecordField (required)

/-! ## Reading what was written -/

theorem shades_read_write (value : Shades) : shades.read (shades.write value) = some value := by
  refine shades_described.read_write ?_
  simp [shadesFields, required, text, Json.string?]

theorem textColours_read_write (value : TextColours) :
    textColours.read (textColours.write value) = some value := by
  refine textColours_described.read_write ?_
  simp [textColoursFields, required, text, Json.string?]

theorem surfaces_read_write (value : Surfaces) :
    surfaces.read (surfaces.write value) = some value := by
  refine surfaces_described.read_write ?_
  simp [surfacesFields, required, text, Json.string?]

theorem word_read_write {value : Nat} (small : value < Nat.pow 2 32) :
    word.read (word.write value) = some value :=
  (Json.natBelow?_integer _ value).trans (if_pos small)

theorem octaves_read_write {value : List Octave}
    (sized : forall octave, octave ∈ value -> octave.InRange) :
    octaves.read (octaves.write value) = some (value.map Octave.bare) :=
  Octave.listOf?_listToJson_eq_some_iff.mpr ⟨sized, rfl⟩

theorem book_read_write {value : Book} (finite : Value.areFinite value = true) :
    book.read (book.write value) = some value := by
  refine book_ofJson?_eq_some_iff.mpr ((Value.ofJson?_toJson (.book value)).trans ?_)
  rw [Value.stored, Value.storedEntries_of_areFinite _ finite]

end Codec

/-! ## Sound themes -/

/-- The bodies of the variants of text. -/
def Typography.bodies (typography : Typography) : List Book :=
  [typography.h1, typography.h2, typography.h3, typography.h4, typography.h5, typography.h6,
   typography.subtitle2, typography.caption]

namespace Theme

/-- Are all numbers in the bodies finite? -/
def isFinite (theme : Theme) : Bool := theme.typography.bodies.all Value.areFinite

/-- Do the whole numbers fit their words?  The size of the root font has 32 bits, and
the bounds of octaves have 64. -/
structure InRange (theme : Theme) : Prop where
  size : theme.typography.htmlFontSize < Nat.pow 2 32
  colours : forall octave, octave ∈ theme.palette.octaves -> octave.InRange
  spacing : forall octave, octave ∈ theme.spacing -> octave.InRange
  sizes : forall octave, octave ∈ theme.typography.octaves -> octave.InRange

/-- The theme without its generators. -/
def bare (theme : Theme) : Theme :=
  { palette := { theme.palette with octaves := theme.palette.octaves.map Octave.bare }
    spacing := theme.spacing.map Octave.bare
    typography := { theme.typography with octaves := theme.typography.octaves.map Octave.bare } }

end Theme

namespace Codec

open RecordField (required)

theorem palette_read_write {value : Palette}
    (sized : forall octave, octave ∈ value.octaves -> octave.InRange) :
    palette.read (palette.write value) =
      some { value with octaves := value.octaves.map Octave.bare } := by
  refine palette_described.read_write ?_
  simp only [paletteFields, required, RecordField.octaves, List.forall_mem_cons,
    octaves_read_write sized, shades_read_write, textColours_read_write, surfaces_read_write]
  simp [text, Json.string?]

theorem typography_read_write {value : Typography} (small : value.htmlFontSize < Nat.pow 2 32)
    (sized : forall octave, octave ∈ value.octaves -> octave.InRange)
    (finite : value.bodies.all Value.areFinite = true) :
    typography.read (typography.write value) =
      some { value with octaves := value.octaves.map Octave.bare } := by
  refine typography_described.read_write ?_
  simp only [Typography.bodies, List.all_cons, List.all_nil, Bool.and_true,
    Bool.and_eq_true] at finite
  simp [typographyFields, required, RecordField.octaves, octaves_read_write sized,
    word_read_write small, book_read_write, finite, text, Json.string?]

/-- A theme is read from its document without its generators. -/
theorem theme_read_write {value : Theme} (sized : value.InRange)
    (finite : value.isFinite = true) : theme.read (theme.write value) = some value.bare := by
  refine theme_described.read_write ?_
  simp [themeFields, required, RecordField.octaves, Theme.bare, octaves_read_write sized.spacing,
    palette_read_write sized.colours, typography_read_write sized.size sized.sizes finite]

/-! ## Patching twice -/

theorem shades_settles : shades.Settles := by
  refine shades_described.settles ?_
  simp [shadesFields, required, text_flat.settles]

theorem textColours_settles : textColours.Settles := by
  refine textColours_described.settles ?_
  simp [textColoursFields, required, text_flat.settles]

theorem surfaces_settles : surfaces.Settles := by
  refine surfaces_described.settles ?_
  simp [surfacesFields, required, text_flat.settles]

theorem palette_settles : palette.Settles := by
  refine palette_described.settles ?_
  simp [paletteFields, required, RecordField.octaves, text_flat.settles, octaves_flat.settles,
    shades_settles, textColours_settles, surfaces_settles]

theorem typography_settles : typography.Settles := by
  refine typography_described.settles ?_
  simp [typographyFields, required, RecordField.octaves, text_flat.settles, word_flat.settles,
    octaves_flat.settles, book_settles]

theorem theme_settles : theme.Settles := by
  refine theme_described.settles ?_
  simp [themeFields, required, RecordField.octaves, octaves_flat.settles, palette_settles,
    typography_settles]

end Codec

/-! ## Generators -/

namespace Octave

theorem adopting_bare (octave : Octave) : octave.bare.adopting octave = octave := by
  simp [adopting, bare]

theorem adopting_self (octave : Octave) : octave.adopting octave = octave := by
  unfold adopting
  split <;> rfl

theorem adopting_adopting (octave older : Octave) :
    octave.adopting (octave.adopting older) = octave.adopting older := by
  by_cases adopts : octave.generator.isNone && octave.min == older.min &&
      octave.length == older.length
  · have adopted : octave.adopting older = { octave with generator := older.generator } :=
      if_pos adopts
    rw [Bool.and_eq_true, Bool.and_eq_true] at adopts
    rw [adopted]
    simp [adopting, adopts.1.1]
  · have kept : octave.adopting older = octave := if_neg adopts
    rw [kept, adopting_self]

theorem toJson_adopting (octave older : Octave) :
    (octave.adopting older).toJson = octave.toJson := by
  unfold adopting
  split <;> rfl

theorem adoptingAll_map_bare (octaves : List Octave) :
    adoptingAll (octaves.map bare) octaves = octaves := by
  induction octaves with
  | nil => rfl
  | cons octave rest inductionHypothesis =>
      rw [List.map_cons, adoptingAll, adopting_bare, inductionHypothesis]

theorem adoptingAll_self (octaves : List Octave) : adoptingAll octaves octaves = octaves := by
  induction octaves with
  | nil => rfl
  | cons octave rest inductionHypothesis =>
      rw [adoptingAll, adopting_self, inductionHypothesis]

/-- Octaves that have adopted what they can adopt nothing more. -/
theorem adoptingAll_adoptingAll (octaves olders : List Octave) :
    adoptingAll octaves (adoptingAll octaves olders) = adoptingAll octaves olders := by
  fun_induction adoptingAll octaves olders with
  | case1 octave octaves older olders inductionHypothesis =>
      rw [adoptingAll, adopting_adopting, inductionHypothesis]
  | case2 octaves => exact adoptingAll_self octaves
  | case3 older olders => rfl

theorem listToJson_adoptingAll (octaves olders : List Octave) :
    listToJson (adoptingAll octaves olders) = listToJson octaves := by
  have bounds : (adoptingAll octaves olders).map toJson = octaves.map toJson := by
    fun_induction adoptingAll octaves olders with
    | case1 octave octaves older olders inductionHypothesis =>
        rw [List.map_cons, List.map_cons, toJson_adopting, inductionHypothesis]
    | case2 octaves => rfl
    | case3 older olders => rfl
  exact congrArg Json.list bounds

end Octave

namespace Theme

theorem bare_adopting (theme : Theme) : theme.bare.adopting theme = theme := by
  simp only [adopting, bare, Octave.adoptingAll_map_bare]

theorem adopting_adopting (theme older : Theme) :
    theme.adopting (theme.adopting older) = theme.adopting older := by
  simp only [adopting, Octave.adoptingAll_adoptingAll]

/-- Generators have no document. -/
theorem toJson_adopting (theme older : Theme) : (theme.adopting older).toJson = theme.toJson := by
  simp only [toJson, adopting, Palette.toJson, Typography.toJson, Octave.listToJson_adoptingAll]

variable {theme merged : Theme} {patch : Json}

/-- The patched theme is read from the patched document and adopts generators. -/
theorem patched?_eq_some_iff :
    theme.patched? patch = some merged ↔
      ∃ changed, Codec.theme.read ((Codec.theme.write theme).patched patch) = some changed ∧
        changed.adopting theme = merged :=
  Option.map_eq_some_iff

/-- A patch that names nothing changes nothing. -/
theorem patched?_empty (theme : Theme) (sized : theme.InRange) (finite : theme.isFinite = true) :
    theme.patched? (.object []) = some theme ∧ theme.patched? .null = some theme := by
  have read := Codec.theme_read_write sized finite
  constructor
  · exact patched?_eq_some_iff.mpr ⟨theme.bare, read, theme.bare_adopting⟩
  · exact patched?_eq_some_iff.mpr ⟨theme.bare, read, theme.bare_adopting⟩

/-- Nothing changes in a theme that has a generator and an absent value. -/
theorem light_with_generator_patched_empty :
    let octave : Octave := ⟨some ⟨7, fun index => (toString index, "1px")⟩, some 1, some 4⟩
    let body : Book := [("fontWeight", .absent), ("color", .book [("lineHeight", 1.5)])]
    let theme : Theme :=
      { light with spacing := [octave], typography := { light.typography with h1 := body } }
    theme.InRange ∧ theme.isFinite = true ∧
      theme.patched? (.object []) = some theme ∧ theme.patched? .null = some theme := by
  intro octave body theme
  have sized : theme.InRange := by
    constructor <;> simp [theme, octave, light, Octave.builtin, Octave.inRange_iff]
  have finite : theme.isFinite = true := by decide +kernel
  exact ⟨sized, finite, patched?_empty theme sized finite⟩

/-- The same patch once more changes nothing. -/
theorem patched?_again (distinct : patch.distinct = true)
    (patched : theme.patched? patch = some merged) : merged.patched? patch = some merged := by
  rcases patched?_eq_some_iff.mp patched with ⟨changed, read, rfl⟩
  have again := Codec.theme_settles patch distinct theme changed read
  refine patched?_eq_some_iff.mpr ⟨changed, ?_, changed.adopting_adopting theme⟩
  have generators_not_written : (changed.adopting theme).toJson = changed.toJson :=
    changed.toJson_adopting theme
  exact (congrArg (fun form => Codec.theme.read (form.patched patch))
    generators_not_written).trans again

end Theme
end ThemedStyles
