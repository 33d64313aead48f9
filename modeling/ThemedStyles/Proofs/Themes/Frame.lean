import ThemedStyles.Proofs.Themes.Patches

namespace ThemedStyles

/-!
# The frame of a patch

A patch changes the parts of a theme that it names and no others.  The parts are
those of the document, found at the end of paths; the leaves among them are texts,
numbers, lists of octaves and the values in the bodies.

Where a patch has a value at the end of a path, the patched theme has that value
as it is read: a whole number in a body is rounded to a binary one, and of an
octave only the bounds are read.  Generators are no part of a document, so that
lists of octaves are looked at a second time, as lists.
-/

/-! ## Leaves -/

/-- How the document of a theme shows a leaf that it has at a path. -/
def Theme.shown : (path : List String) -> Json -> Option Json
  | ["palette", "color"] => Codec.octaves.shown
  | ["spacingOct"] => Codec.octaves.shown
  | ["typography", "fontSize"] => Codec.octaves.shown
  | ["typography", "htmlFontSize"] => Codec.word.shown
  | "typography" :: _ :: _ :: _ => Codec.style.shown
  | _ => Codec.text.shown

namespace Codec

open RecordField (required)

theorem shades_legible {shown : (path : List String) -> Json -> Option Json}
    (leaves : forall name, shown [name] = text.shown) : shades.Legible shown := by
  refine shades_described.legible ?_
  simp [shadesFields, required, text_flat.legible, leaves]

theorem textColours_legible {shown : (path : List String) -> Json -> Option Json}
    (leaves : forall name, shown [name] = text.shown) : textColours.Legible shown := by
  refine textColours_described.legible ?_
  simp [textColoursFields, required, text_flat.legible, leaves]

theorem surfaces_legible {shown : (path : List String) -> Json -> Option Json}
    (leaves : forall name, shown [name] = text.shown) : surfaces.Legible shown := by
  refine surfaces_described.legible ?_
  simp [surfacesFields, required, text_flat.legible, leaves]

theorem palette_legible : palette.Legible fun rest => Theme.shown ("palette" :: rest) := by
  refine palette_described.legible ?_
  simp [paletteFields, required, RecordField.octaves, text_flat.legible, octaves_flat.legible,
    shades_legible, textColours_legible, surfaces_legible, Theme.shown]

theorem typography_legible :
    typography.Legible fun rest => Theme.shown ("typography" :: rest) := by
  refine typography_described.legible ?_
  simp [typographyFields, required, RecordField.octaves, text_flat.legible, word_flat.legible,
    octaves_flat.legible, book_legible, Theme.shown]

theorem theme_legible : theme.Legible Theme.shown := by
  refine theme_described.legible ?_
  have spacing : octaves.Legible fun rest => Theme.shown ("spacingOct" :: rest) :=
    octaves_flat.legible rfl
  simp [themeFields, required, RecordField.octaves, spacing, palette_legible, typography_legible]

end Codec

/-! ## The numbers of a patched theme -/

theorem Octave.finite_toJson {octave : Octave} (sized : octave.InRange) :
    octave.toJson.finite = true := by
  rcases octave with ⟨generator, min, length⟩
  rw [inRange_iff] at sized
  cases min <;> cases length <;>
    simp_all [toJson, Json.finite, Json.every, Json.everyField, Json.numberInRange]

namespace Codec

open RecordField (required)

theorem text_finite (value : String) : (text.write value).finite = true := rfl

theorem word_finite {value : Nat} (small : value < Nat.pow 2 32) :
    (word.write value).finite = true := by
  have wider : value < Nat.pow 2 64 := Nat.lt_trans small (by decide)
  exact decide_eq_true wider

theorem octaves_finite {value : List Octave}
    (sized : forall octave, octave ∈ value -> octave.InRange) :
    (octaves.write value).finite = true := by
  refine (Json.everyItem_iff Json.numberInRange _).mpr fun json member => ?_
  obtain ⟨octave, inside, rfl⟩ := List.mem_map.mp member
  exact octave.finite_toJson (sized octave inside)

theorem book_finite (value : Book) : (book.write value).finite = true :=
  Value.finite_toJson (.book value)

theorem shades_finite (value : Shades) : (shades.write value).finite = true := by
  refine shades_described.finite_write ?_
  simp [shadesFields, required, text_finite]

theorem textColours_finite (value : TextColours) : (textColours.write value).finite = true := by
  refine textColours_described.finite_write ?_
  simp [textColoursFields, required, text_finite]

theorem surfaces_finite (value : Surfaces) : (surfaces.write value).finite = true := by
  refine surfaces_described.finite_write ?_
  simp [surfacesFields, required, text_finite]

theorem palette_finite {value : Palette}
    (sized : forall octave, octave ∈ value.octaves -> octave.InRange) :
    (palette.write value).finite = true := by
  refine palette_described.finite_write ?_
  simp [paletteFields, required, RecordField.octaves, text_finite, octaves_finite sized,
    shades_finite, textColours_finite, surfaces_finite]

theorem typography_finite {value : Typography} (small : value.htmlFontSize < Nat.pow 2 32)
    (sized : forall octave, octave ∈ value.octaves -> octave.InRange) :
    (typography.write value).finite = true := by
  refine typography_described.finite_write ?_
  simp [typographyFields, required, RecordField.octaves, text_finite, word_finite small,
    octaves_finite sized, book_finite]

theorem theme_finite {value : Theme} (sized : value.InRange) :
    (theme.write value).finite = true := by
  refine theme_described.finite_write ?_
  simp [themeFields, required, RecordField.octaves, octaves_finite sized.spacing,
    palette_finite sized.colours, typography_finite sized.size sized.sizes]

theorem areFinite_of_read {json : Json} {body : Book} (finite : json.finite = true)
    (read : book.read json = some body) : Value.areFinite body = true :=
  Value.isFinite_of_ofJson? json finite (book_ofJson?_eq_some_iff.mp read)

theorem bodies_areFinite_of_read {json : Json} {value : Typography} (finite : json.finite = true)
    (read : typography.read json = some value) : value.bodies.all Value.areFinite = true := by
  have body : forall name part, required name part book ∈ typographyFields ->
      Value.areFinite (part value) = true := by
    intro name part member
    rcases typography_described.exists_read_part finite read member rfl with
      ⟨inner, innerFinite, partRead⟩
    exact areFinite_of_read innerFinite partRead
  simp only [Typography.bodies, List.all_cons, List.all_nil, Bool.and_true, Bool.and_eq_true]
  refine ⟨body "h1" _ ?_, body "h2" _ ?_, body "h3" _ ?_, body "h4" _ ?_, body "h5" _ ?_,
    body "h6" _ ?_, body "subtitle2" _ ?_, body "caption" _ ?_⟩ <;> simp [typographyFields]

/-- A document with numbers in range is read as a theme with finite numbers. -/
theorem isFinite_of_read {json : Json} {value : Theme} (finite : json.finite = true)
    (read : theme.read json = some value) : value.isFinite = true := by
  have member : required "typography" Theme.typography typography ∈ themeFields := by
    simp [themeFields]
  rcases theme_described.exists_read_part finite read member rfl with
    ⟨inner, innerFinite, partRead⟩
  exact bodies_areFinite_of_read innerFinite partRead

end Codec

namespace Theme

open RecordField (required)

variable {theme merged changed : Theme} {patch json part : Json} {path : List String}

theorem isFinite_of_patched? (sized : theme.InRange) (finite : patch.finite = true)
    (patched : theme.patched? patch = some merged) : merged.isFinite = true := by
  rcases patched?_eq_some_iff.mp patched with ⟨changed, read, rfl⟩
  have bodies_kept : (changed.adopting theme).isFinite = changed.isFinite := rfl
  rw [bodies_kept]
  refine Codec.isFinite_of_read (Json.every_patched (fun _ => rfl) patch _ ?_ finite) read
  exact Codec.theme_finite sized

/-! ## The octaves of a patched theme -/

/-- The lists of octaves, each with its path. -/
def octaveParts : List (List String × (Theme -> List Octave)) :=
  [(["palette", "color"], fun theme => theme.palette.octaves),
   (["spacingOct"], fun theme => theme.spacing),
   (["typography", "fontSize"], fun theme => theme.typography.octaves)]

variable {octaves : Theme -> List Octave}

theorem at?_octaves (member : (path, octaves) ∈ octaveParts) (theme : Theme) :
    theme.toJson.at? path = some (Octave.listToJson (octaves theme)) := by
  simp only [octaveParts, List.mem_cons, List.not_mem_nil, Prod.mk.injEq, or_false] at member
  rcases member with ⟨rfl, rfl⟩ | ⟨rfl, rfl⟩ | ⟨rfl, rfl⟩ <;> rfl

theorem octaves_adopting (member : (path, octaves) ∈ octaveParts) (theme older : Theme) :
    octaves (theme.adopting older) = Octave.adoptingAll (octaves theme) (octaves older) := by
  simp only [octaveParts, List.mem_cons, List.not_mem_nil, Prod.mk.injEq, or_false] at member
  rcases member with ⟨rfl, rfl⟩ | ⟨rfl, rfl⟩ | ⟨rfl, rfl⟩ <;> rfl

theorem octaves_of_read (member : (path, octaves) ∈ octaveParts)
    (read : Codec.theme.read json = some changed) (found : json.at? path = some part) :
    Codec.octaves.read part = some (octaves changed) := by
  simp only [octaveParts, List.mem_cons, List.not_mem_nil, Prod.mk.injEq, or_false] at member
  rcases member with ⟨rfl, rfl⟩ | ⟨rfl, rfl⟩ | ⟨rfl, rfl⟩
  · have palette : required "palette" Theme.palette Codec.palette ∈ Codec.themeFields := by
      simp [Codec.themeFields]
    have colours : .octaves "color" Palette.octaves ∈ Codec.paletteFields := by
      simp [Codec.paletteFields]
    rcases Codec.theme_described.exists_read_at read palette found with ⟨_, inner, below⟩
    exact Codec.palette_described.read_of_at? inner colours below
  · have spacing : .octaves "spacingOct" Theme.spacing ∈ Codec.themeFields := by
      simp [Codec.themeFields]
    exact Codec.theme_described.read_of_at? read spacing found
  · have typography :
        required "typography" Theme.typography Codec.typography ∈ Codec.themeFields := by
      simp [Codec.themeFields]
    have sizes : .octaves "fontSize" Typography.octaves ∈ Codec.typographyFields := by
      simp [Codec.typographyFields]
    rcases Codec.theme_described.exists_read_at read typography found with ⟨_, inner, below⟩
    exact Codec.typography_described.read_of_at? inner sizes below

/-! ## The frame of a patch -/

section Frame

variable {leaf value : Json} (distinct : patch.distinct = true)
  (patched : theme.patched? patch = some merged)

include distinct patched

/-- What was there is there again, unless the patch replaces something above it.
The leaves are what the patch has made of them, as they are read. -/
theorem shown_of_patched? (found : theme.toJson.at? path = some part)
    (kept : patch.keepsAncestors path = true) :
    (merged.toJson.at? path).isSome = true ∧ (part.isObject = false ->
      merged.toJson.at? path =
        Theme.shown path (part.patched ((patch.at? path).getD .null))) := by
  rcases patched?_eq_some_iff.mp patched with ⟨changed, read, rfl⟩
  rw [toJson_adopting]
  exact Codec.theme_legible.read read (Json.at?_patched distinct found kept) found

theorem octaves_of_patched? (member : (path, octaves) ∈ octaveParts)
    (kept : patch.keepsAncestors path = true) :
    ∃ list, Codec.octaves.read ((Octave.listToJson (octaves theme)).patched
        ((patch.at? path).getD .null)) = some list ∧
      octaves merged = Octave.adoptingAll list (octaves theme) := by
  rcases patched?_eq_some_iff.mp patched with ⟨changed, read, rfl⟩
  have place := Json.at?_patched distinct (at?_octaves member theme) kept
  exact ⟨octaves changed, octaves_of_read member read place, octaves_adopting member _ _⟩

theorem spared_leaf (found : theme.toJson.at? path = some leaf) (flat : leaf.isObject = false)
    (spared : patch.spares path = true) : merged.toJson.at? path = some leaf := by
  obtain ⟨kept, empty⟩ := (Json.spares_iff patch path).mp spared
  obtain ⟨present, shows⟩ := shown_of_patched? distinct patched found kept
  rw [empty, Json.patched_null] at shows
  obtain ⟨other, there⟩ := Option.isSome_iff_exists.mp present
  rw [there, Codec.theme_legible.written found flat ((shows flat).symm.trans there)]

theorem replaced_leaf (found : theme.toJson.at? path = some leaf) (flat : leaf.isObject = false)
    (named : patch.at? path = some value) (replaces : value.replaces = true) :
    ∃ other, Theme.shown path value = some other ∧ merged.toJson.at? path = some other := by
  obtain ⟨present, shows⟩ :=
    shown_of_patched? distinct patched found (Json.keepsAncestors_of_at? named)
  rw [named, Option.getD_some, Json.patched_of_replaces _ replaces] at shows
  obtain ⟨other, there⟩ := Option.isSome_iff_exists.mp present
  exact ⟨other, (shows flat).symm.trans there, there⟩

theorem spared_octaves (member : (path, octaves) ∈ octaveParts)
    (spared : patch.spares path = true) : octaves merged = octaves theme := by
  obtain ⟨kept, empty⟩ := (Json.spares_iff patch path).mp spared
  obtain ⟨list, read, adopted⟩ := octaves_of_patched? distinct patched member kept
  rw [empty, Json.patched_null] at read
  rw [adopted, ← (Octave.listOf?_listToJson_eq_some_iff.mp read).2, Octave.adoptingAll_map_bare]

theorem replaced_octaves (member : (path, octaves) ∈ octaveParts)
    (named : patch.at? path = some value) (replaces : value.replaces = true) :
    ∃ list, Codec.octaves.read value = some list ∧
      octaves merged = Octave.adoptingAll list (octaves theme) := by
  obtain ⟨list, read, adopted⟩ :=
    octaves_of_patched? distinct patched member (Json.keepsAncestors_of_at? named)
  rw [named, Option.getD_some, Json.patched_of_replaces _ replaces] at read
  exact ⟨list, read, adopted⟩

end Frame

/-- A patch changes what it names.  Where it stops at a missing key or at null, the
leaf of the theme stays, and a list of octaves keeps its generators.  Where it has
a value in place of a leaf, the theme has that value as it is read.  Whatever was
there is there still, unless the patch replaces something above it.  Numbers in range
stay finite, so that no number of the patched theme is lost in its document. -/
theorem patch_changes_what_it_names {theme merged : Theme} {patch : Json}
    (distinct : patch.distinct = true) (patched : theme.patched? patch = some merged) :
    (theme.InRange -> patch.finite = true -> merged.isFinite = true) ∧
    (forall path leaf, theme.toJson.at? path = some leaf -> leaf.isObject = false ->
      (patch.spares path = true -> merged.toJson.at? path = some leaf) ∧
      (forall value, patch.at? path = some value -> value.replaces = true ->
        ∃ other, Theme.shown path value = some other ∧
          merged.toJson.at? path = some other)) ∧
    (forall path octaves, (path, octaves) ∈ octaveParts ->
      (patch.spares path = true -> octaves merged = octaves theme) ∧
      (forall value, patch.at? path = some value -> value.replaces = true ->
        ∃ list, Codec.octaves.read value = some list ∧
          octaves merged = Octave.adoptingAll list (octaves theme))) ∧
    (forall path, (theme.toJson.at? path).isSome = true ->
      (forall before key after value, path = before ++ key :: after ->
        patch.at? before = some value -> value.replaces = false) ->
      (merged.toJson.at? path).isSome = true) := by
  refine ⟨fun sized finite => isFinite_of_patched? sized finite patched, ?leaves, ?octaves, ?kept⟩
  case leaves =>
    intro path leaf found flat
    exact ⟨spared_leaf distinct patched found flat,
      fun value named replaces => replaced_leaf distinct patched found flat named replaces⟩
  case octaves =>
    intro path octaves member
    exact ⟨spared_octaves distinct patched member,
      fun value named replaces => replaced_octaves distinct patched member named replaces⟩
  case kept =>
    intro path present spared
    obtain ⟨part, found⟩ := Option.isSome_iff_exists.mp present
    exact (shown_of_patched? distinct patched found
      ((Json.keepsAncestors_iff patch path).mpr spared)).1

/-- A nested patch with a null, an unknown key and a new one, on a theme with a
generator. -/
theorem light_patched :
    let octave : Octave := ⟨some ⟨7, fun index => (toString index, "1px")⟩, some 1, some 4⟩
    let theme : Theme := { light with spacing := [octave] }
    let patch : Json := .object
      [("palette", .object [("type", .string "dim"), ("divider", .null)]),
       ("typography", .object
         [("h1", .object [("fontWeight", .integer 200), ("&:hover", .object [])]),
          ("unknown", .list [])])]
    ∃ merged, theme.patched? patch = some merged ∧ merged.isFinite = true ∧
      merged.toJson.at? ["palette", "type"] = some (.string "dim") ∧
      merged.toJson.at? ["palette", "divider"] = some (.string light.palette.divider) ∧
      merged.spacing = [octave] ∧
      (merged.toJson.at? ["typography", "h1", "lineHeight"]).isSome = true := by
  intro octave theme patch
  have sized : theme.InRange := by
    constructor <;> simp [theme, octave, light, Octave.builtin, Octave.inRange_iff]
  have distinct : patch.distinct = true := by decide +kernel
  have finite : patch.finite = true := by decide +kernel
  have succeeds : (theme.patched? patch).isSome = true := by decide +kernel
  obtain ⟨merged, patched⟩ := Option.isSome_iff_exists.mp succeeds
  rcases patch_changes_what_it_names distinct patched with ⟨numbers, leaves, octaves, kept⟩
  refine ⟨merged, patched, numbers sized finite, ?_, ?_, ?_, ?_⟩
  · have leaf := leaves ["palette", "type"] (.string "light") rfl rfl
    obtain ⟨other, shown, there⟩ := leaf.2 _ rfl rfl
    cases shown
    exact there
  · exact (leaves ["palette", "divider"] _ rfl rfl).1 rfl
  · exact (octaves ["spacingOct"] (fun theme => theme.spacing) (by simp [octaveParts])).1 rfl
  · refine kept ["typography", "h1", "lineHeight"] rfl ?_
    exact (Json.keepsAncestors_iff patch _).mp rfl

end Theme
end ThemedStyles
