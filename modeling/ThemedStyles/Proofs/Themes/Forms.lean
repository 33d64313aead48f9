import ThemedStyles.Proofs.Style.Documents
import ThemedStyles.Proofs.Themes.Codecs
import ThemedStyles.Theme.Document

namespace ThemedStyles

/-!
# The records of a theme

Each record of a theme is written and read as its list of fields says.  The leaves
are texts, the size of the root font, lists of octaves and, within the bodies of
the typography, style values.
-/

namespace Codec

def text : Codec String := ⟨Json.string?, Json.string⟩

/-- Whole numbers of 32 bits. -/
def word : Codec Nat := ⟨Json.natBelow? (Nat.pow 2 32), fun value => .integer value⟩

def octaves : Codec (List Octave) := ⟨Json.listOf? Octave.ofJson?, Octave.listToJson⟩

def style : Codec Value := ⟨Value.ofJson?, Value.toJson⟩

def book : Codec Book := ⟨Book.ofJson?, Book.toJson⟩

def shades : Codec Shades := ⟨Shades.ofJson?, Shades.toJson⟩

def textColours : Codec TextColours := ⟨TextColours.ofJson?, TextColours.toJson⟩

def surfaces : Codec Surfaces := ⟨Surfaces.ofJson?, Surfaces.toJson⟩

def palette : Codec Palette := ⟨Palette.ofJson?, Palette.toJson⟩

def typography : Codec Typography := ⟨Typography.ofJson?, Typography.toJson⟩

def theme : Codec Theme := ⟨Theme.ofJson?, Theme.toJson⟩

end Codec

/-! ## Texts and numbers -/

theorem Codec.text_flat : Codec.text.Flat where
  leaf _ := rfl
  again := by
    intro value other read
    cases read
    rfl

theorem Json.natBelow?_integer (bound value : Nat) :
    Json.natBelow? bound (.integer value) = if value < bound then some value else none := rfl

theorem Codec.word_flat : Codec.word.Flat where
  leaf _ := rfl
  again := by
    intro value other read
    have below : Json.natBelow? (Nat.pow 2 32) (.integer value) = some other := read
    rw [Json.natBelow?_integer] at below
    split at below <;> cases below
    rfl

/-! ## Octaves -/

namespace Octave

/-- The octave without its generator. -/
def bare (octave : Octave) : Octave := { octave with generator := none }

/-- Do the bounds fit 64 bits? -/
def InRange (octave : Octave) : Prop :=
  forall bound, octave.min = some bound ∨ octave.length = some bound -> bound < Nat.pow 2 64

theorem inRange_iff (octave : Octave) :
    octave.InRange ↔ (forall bound, octave.min = some bound -> bound < Nat.pow 2 64) ∧
      forall bound, octave.length = some bound -> bound < Nat.pow 2 64 := by
  simp only [InRange, or_imp, forall_and]

theorem bound?_integer {value : Nat} {bound : Option Nat} :
    bound? (.integer value) = some bound ↔ value < Nat.pow 2 64 ∧ some value = bound := by
  rw [bound?, Json.natBelow?_integer]
  · split <;> simp [*]
  · nofun

theorem ofJson?_toJson_eq_some_iff {octave other : Octave} :
    ofJson? octave.toJson = some other ↔ octave.InRange ∧ octave.bare = other := by
  rcases octave with ⟨generator, min, length⟩
  rw [inRange_iff]
  cases min <;> cases length <;>
    simp [ofJson?, toJson, Json.record?, Entries.get?, bound?_integer, Option.bind_eq_some_iff,
      bare, and_assoc]

theorem mapM_ofJson?_eq_some_iff {octaves others : List Octave} :
    (octaves.map toJson).mapM ofJson? = some others ↔
      (forall octave, octave ∈ octaves -> octave.InRange) ∧ octaves.map bare = others := by
  induction octaves generalizing others with
  | nil => simp
  | cons octave rest inductionHypothesis =>
      simp only [List.map_cons, List.mapM_cons, Option.bind_eq_bind, Option.bind_eq_some_iff,
        ofJson?_toJson_eq_some_iff, inductionHypothesis, List.forall_mem_cons, Option.pure_def,
        Option.some.injEq]
      constructor
      · rintro ⟨_, ⟨first, rfl⟩, _, ⟨later, rfl⟩, rfl⟩
        exact ⟨⟨first, later⟩, rfl⟩
      · rintro ⟨⟨first, later⟩, rfl⟩
        exact ⟨_, ⟨first, rfl⟩, _, ⟨later, rfl⟩, rfl⟩

/-- A list of octaves is read back when all bounds fit, and then without the
generators. -/
theorem listOf?_listToJson_eq_some_iff {octaves others : List Octave} :
    Json.listOf? ofJson? (listToJson octaves) = some others ↔
      (forall octave, octave ∈ octaves -> octave.InRange) ∧ octaves.map bare = others :=
  mapM_ofJson?_eq_some_iff

theorem listToJson_map_bare (octaves : List Octave) :
    listToJson (octaves.map bare) = listToJson octaves := by
  rw [listToJson, List.map_map]
  rfl

end Octave

namespace Codec

theorem octaves_flat : octaves.Flat where
  leaf _ := rfl
  again := by
    intro value other read
    rw [← (Octave.listOf?_listToJson_eq_some_iff.mp read).2]
    exact Octave.listToJson_map_bare value

/-! ## Bodies -/

theorem book_ofJson?_eq_some_iff {json : Json} {body : Book} :
    Book.ofJson? json = some body ↔ Value.ofJson? json = some (.book body) := by
  rw [Book.ofJson?]
  cases Value.ofJson? json with
  | none => simp
  | some value => cases value <;> simp [Value.book?]

theorem book_settles : book.Settles := by
  intro patch once value changed read
  rw [book, book_ofJson?_eq_some_iff] at read ⊢
  exact Value.settled_of_distinct patch once _ _ read

/-- The document of a value is shown as it is. -/
theorem style_shown_toJson (value : Value) : style.shown value.toJson = some value.toJson :=
  (congrArg (Option.map Value.toJson) value.ofJson?_toJson).trans
    (congrArg some value.toJson_stored)

/-- A body has no leaf in its own place, so that any way to show one will do. -/
theorem book_legible {shown : (path : List String) -> Json -> Option Json}
    (below : forall key rest, shown (key :: rest) = style.shown) : book.Legible shown where
  read := by
    intro json part value path other known read found place
    have each := Value.at?_toJson_of_ofJson? (book_ofJson?_eq_some_iff.mp read) path
    rw [found] at each
    obtain ⟨inner, there, same⟩ := Option.map_eq_some_iff.mp each.symm
    have present : (book.write value).at? path = some inner := there
    refine ⟨by rw [present]; rfl, fun leaf => ?_⟩
    cases path with
    | nil =>
        rw [Json.at?_nil] at place
        cases place
        cases leaf
    | cons key rest => exact present.trans (same.trans (congrFun (below key rest) part).symm)
  written := by
    intro value path leaf other found flat shows
    cases path with
    | nil =>
        rw [Json.at?_nil] at found
        cases found
        cases flat
    | cons key rest =>
        obtain ⟨inner, rfl⟩ := Value.exists_of_at?_toJson found
        rw [below, style_shown_toJson] at shows
        exact (Option.some.inj shows).symm

end Codec

/-! ## Records -/

namespace RecordField

/-- A field that must not be missing. -/
def required {α β : Type} (name : String) (part : α -> β) (codec : Codec β) : RecordField α :=
  ⟨name, part, codec, none⟩

/-- A field of octaves, which are none where it is missing. -/
def octaves {α : Type} (name : String) (part : α -> List Octave) : RecordField α :=
  ⟨name, part, Codec.octaves, some []⟩

theorem look_required {α β : Type} (name : String) (part : α -> β) (codec : Codec β)
    (entries : Entries Json) :
    (required name part codec).look entries = Json.required? entries name codec.read := by
  rw [look, Json.required?]
  cases found : Entries.get? entries name <;> simp [required, found]

theorem look_octaves {α : Type} (name : String) (part : α -> List Octave)
    (entries : Entries Json) :
    (octaves name part).look entries = Octave.listField? entries name := rfl

end RecordField

namespace Codec

open RecordField (required)

def shadesFields : List (RecordField Shades) :=
  [required "light" Shades.light text, required "main" Shades.main text,
   required "dark" Shades.dark text, required "contrastText" Shades.contrastText text]

theorem shades_described : shades.Describes shadesFields where
  names := by decide
  write _ := rfl
  read := by
    intro json value
    simp only [shades, Shades.ofJson?, Option.bind_eq_bind, Option.bind_eq_some_iff, shadesFields,
      List.forall_mem_cons, RecordField.look_required, Option.some.injEq]
    constructor
    · rintro ⟨entries, record, _, light, _, main, _, dark, _, contrastText, rfl⟩
      exact ⟨entries, record, light, main, dark, contrastText, nofun⟩
    · rintro ⟨entries, record, light, main, dark, contrastText, -⟩
      exact ⟨entries, record, _, light, _, main, _, dark, _, contrastText, rfl⟩

def textColoursFields : List (RecordField TextColours) :=
  [required "primary" TextColours.primary text, required "secondary" TextColours.secondary text]

theorem textColours_described : textColours.Describes textColoursFields where
  names := by decide
  write _ := rfl
  read := by
    intro json value
    simp only [textColours, TextColours.ofJson?, Option.bind_eq_bind, Option.bind_eq_some_iff,
      textColoursFields, List.forall_mem_cons, RecordField.look_required, Option.some.injEq]
    constructor
    · rintro ⟨entries, record, _, primary, _, secondary, rfl⟩
      exact ⟨entries, record, primary, secondary, nofun⟩
    · rintro ⟨entries, record, primary, secondary, -⟩
      exact ⟨entries, record, _, primary, _, secondary, rfl⟩

def surfacesFields : List (RecordField Surfaces) :=
  [required "paper" Surfaces.paper text, required "default" Surfaces.page text]

theorem surfaces_described : surfaces.Describes surfacesFields where
  names := by decide
  write _ := rfl
  read := by
    intro json value
    simp only [surfaces, Surfaces.ofJson?, Option.bind_eq_bind, Option.bind_eq_some_iff,
      surfacesFields, List.forall_mem_cons, RecordField.look_required, Option.some.injEq]
    constructor
    · rintro ⟨entries, record, _, paper, _, page, rfl⟩
      exact ⟨entries, record, paper, page, nofun⟩
    · rintro ⟨entries, record, paper, page, -⟩
      exact ⟨entries, record, _, paper, _, page, rfl⟩

def paletteFields : List (RecordField Palette) :=
  [.octaves "color" Palette.octaves, required "type" Palette.mode text,
   required "primary" Palette.primary shades, required "secondary" Palette.secondary shades,
   required "success" Palette.success shades, required "warning" Palette.warning shades,
   required "error" Palette.error shades, required "info" Palette.info shades,
   required "divider" Palette.divider text, required "text" Palette.text textColours,
   required "background" Palette.surfaces surfaces]

theorem palette_described : palette.Describes paletteFields where
  names := by decide
  write _ := rfl
  read := by
    intro json value
    simp only [palette, Palette.ofJson?, Option.bind_eq_bind, Option.bind_eq_some_iff,
      paletteFields, List.forall_mem_cons, RecordField.look_required, RecordField.look_octaves,
      Option.some.injEq]
    constructor
    · rintro ⟨entries, record, _, octaves, _, mode, _, primary, _, secondary, _, success, _,
        warning, _, error, _, info, _, divider, _, text, _, surfaces, rfl⟩
      exact ⟨entries, record, octaves, mode, primary, secondary, success, warning, error, info,
        divider, text, surfaces, nofun⟩
    · rintro ⟨entries, record, octaves, mode, primary, secondary, success, warning, error, info,
        divider, text, surfaces, -⟩
      exact ⟨entries, record, _, octaves, _, mode, _, primary, _, secondary, _, success, _,
        warning, _, error, _, info, _, divider, _, text, _, surfaces, rfl⟩

def typographyFields : List (RecordField Typography) :=
  [required "htmlFontSize" Typography.htmlFontSize word,
   required "fontFamily" Typography.fontFamily text, .octaves "fontSize" Typography.octaves,
   required "h1" Typography.h1 book, required "h2" Typography.h2 book,
   required "h3" Typography.h3 book, required "h4" Typography.h4 book,
   required "h5" Typography.h5 book, required "h6" Typography.h6 book,
   required "subtitle2" Typography.subtitle2 book, required "caption" Typography.caption book]

theorem typography_described : typography.Describes typographyFields where
  names := by decide
  write _ := rfl
  read := by
    intro json value
    simp only [typography, Typography.ofJson?, Option.bind_eq_bind, Option.bind_eq_some_iff,
      typographyFields, List.forall_mem_cons, RecordField.look_required, RecordField.look_octaves,
      Option.some.injEq]
    constructor
    · rintro ⟨entries, record, _, size, _, family, _, octaves, _, h1, _, h2, _, h3, _, h4, _, h5,
        _, h6, _, subtitle2, _, caption, rfl⟩
      exact ⟨entries, record, size, family, octaves, h1, h2, h3, h4, h5, h6, subtitle2, caption,
        nofun⟩
    · rintro ⟨entries, record, size, family, octaves, h1, h2, h3, h4, h5, h6, subtitle2, caption,
        -⟩
      exact ⟨entries, record, _, size, _, family, _, octaves, _, h1, _, h2, _, h3, _, h4, _, h5,
        _, h6, _, subtitle2, _, caption, rfl⟩

def themeFields : List (RecordField Theme) :=
  [required "palette" Theme.palette palette, .octaves "spacingOct" Theme.spacing,
   required "typography" Theme.typography typography]

theorem theme_described : theme.Describes themeFields where
  names := by decide
  write _ := rfl
  read := by
    intro json value
    simp only [theme, Theme.ofJson?, Option.bind_eq_bind, Option.bind_eq_some_iff, themeFields,
      List.forall_mem_cons, RecordField.look_required, RecordField.look_octaves, Option.some.injEq]
    constructor
    · rintro ⟨entries, record, _, palette, _, spacing, _, typography, rfl⟩
      exact ⟨entries, record, palette, spacing, typography, nofun⟩
    · rintro ⟨entries, record, palette, spacing, typography, -⟩
      exact ⟨entries, record, _, palette, _, spacing, _, typography, rfl⟩

end Codec
end ThemedStyles
