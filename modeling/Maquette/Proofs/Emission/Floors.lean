import Maquette.Proofs.Emission.Omitted
import Maquette.Proofs.Emission.TypeSizes
import Maquette.Proofs.Property.Floor

/-!
# Floors of sizes and amounts

The sizes of type, the size of an icon, the height of an app bar, the elevation of a card and
the amounts around the content of a button or a card are raised to a floor when a component
is read. The sizes of a heading come from a table. So in the code of a component each of them
is a literal that is at least the floor or stands in the table, unless it is a fraction of
the width that the component defines.
-/

namespace Maquette

open Binary64 (AtLeast)
open Dart (WritesAtLeast writesAtLeast_literal)

/-- The code of a size of type: the fraction of the width that a component defines under this
name, or else fixed code with a property. -/
def Component.IsSizeCode (c : Component) (name : String) (fixed : String → Prop) (code : String) :
    Prop :=
  (∃ fraction, c.fraction? name = .ok (some fraction) ∧ code = FontSize.widthCode fraction) ∨
    (c.fraction? name = .ok none ∧ fixed code)

section Sizes

variable {c : Component} {points : Binary64}

theorem Component.isSizeCode_of_fontSize {fixed : String → Prop} {size : FontSize}
    (hfixed : fixed points.literal) (h : c.fontSize points = .ok size) :
    c.IsSizeCode "fontPercent" fixed size.code := by
  obtain ⟨found, hfound, h⟩ := exists_of_bind_eq_ok h
  cases found with
  | none =>
    obtain rfl := Except.ok.inj h
    exact .inr ⟨hfound, hfixed⟩
  | some fraction =>
    obtain rfl := Except.ok.inj h
    exact .inl ⟨fraction, hfound, rfl⟩

/-- Type of at least twelve points. -/
theorem atLeast_twelve {value : Json} {default : Nat} (hdefault : default < 2 ^ 53)
    (h : value.numberAtLeast (OfNat.ofNat default) 12 = .ok points) : points.AtLeast 12 :=
  Json.atLeast_of_numberAtLeast 12 hdefault (by decide) h

theorem Label.isSizeCode_of_ofComponent {l : Label} (h : ofComponent c = .ok l) :
    c.IsSizeCode "fontPercent" (WritesAtLeast 12) l.caption.size.code := by
  obtain ⟨points, hpoints, hsize⟩ := (readFrom_of_ofComponent h).size
  exact Component.isSizeCode_of_fontSize
    (writesAtLeast_literal (atLeast_twelve (by decide) hpoints)) hsize

namespace Heading

/-- The literals of the fixed sizes of headings. -/
def sizeLiterals : List String := ["32", "28", "24", "20", "18", "16"]

theorem literal_levelSize_mem (name : String) : (levelSize name).literal ∈ sizeLiterals := by
  have hsizes : unknownSize.literal ∈ sizeLiterals ∧
      ∀ level ∈ levelSizes, level.2.literal ∈ sizeLiterals := by decide +kernel
  unfold levelSize
  cases hfound : levelSizes.lookup (Text.key name) with
  | none => exact hsizes.1
  | some size =>
    obtain ⟨before, after, hmem, -⟩ := List.lookup_eq_some_iff.1 hfound
    exact hsizes.2 _ (by rw [hmem]; exact List.mem_append_right _ List.mem_cons_self)

theorem isSizeCode_of_ofComponent {content : Heading} (h : ofComponent c = .ok content) :
    c.IsSizeCode "fontPercent" (· ∈ sizeLiterals) content.caption.size.code := by
  obtain ⟨level, -, hsize⟩ := (readFrom_of_ofComponent h).size
  exact Component.isSizeCode_of_fontSize (literal_levelSize_mem level) hsize

end Heading

namespace Button

theorem isSizeCode_of_ofComponent {b : Button} (h : ofComponent c = .ok b) :
    c.IsSizeCode "fontPercent" (WritesAtLeast 12) b.size.code := by
  obtain ⟨points, hpoints, hsize⟩ := (readFrom_of_ofComponent h).size
  exact Component.isSizeCode_of_fontSize
    (writesAtLeast_literal (atLeast_twelve (by decide) hpoints)) hsize

theorem atLeast_amount {value : Json} {default x : Binary64} (hdefault : default.AtLeast 0)
    (h : amount value default = .ok x) : x.AtLeast 0 := by
  unfold amount at h
  split at h
  · obtain rfl := Except.ok.inj h
    exact hdefault
  · exact Json.atLeast_of_numberAtLeast 0 (by decide) (by decide) h

end Button

end Sizes

/-- The code of insets, uniform or the same on opposite sides, that are written with such
amounts. -/
def Insets.IsCode (amount : String → Prop) (code : String) : Prop :=
  (∃ sides, amount sides ∧ code = "EdgeInsets.all(" ++ sides ++ ")") ∨
    ∃ horizontal vertical, amount horizontal ∧ amount vertical ∧
      code = "EdgeInsets.symmetric(horizontal: " ++ horizontal ++ ", vertical: " ++ vertical ++ ")"

theorem Button.isCode_paddingOf {props : Fields} {insets : Insets}
    (h : paddingOf props = .ok insets) : Insets.IsCode (WritesAtLeast 0) insets.code := by
  have hsixteen : AtLeast 0 16 := (Binary64.atLeast_ofNat (n := 16) (by decide)).mono (by norm_num)
  have htwelve : AtLeast 0 12 := (Binary64.atLeast_ofNat (n := 12) (by decide)).mono (by norm_num)
  have hzero : AtLeast 0 0 := Binary64.atLeast_ofNat (n := 0) (by decide)
  unfold paddingOf at h
  split at h
  · obtain ⟨horizontal, hhorizontal, h⟩ := exists_of_bind_eq_ok h
    obtain ⟨vertical, hvertical, h⟩ := exists_of_bind_eq_ok h
    obtain rfl := Except.ok.inj h
    exact .inr ⟨horizontal.literal, vertical.literal,
      writesAtLeast_literal (atLeast_amount hsixteen hhorizontal),
      writesAtLeast_literal (atLeast_amount htwelve hvertical), rfl⟩
  · obtain ⟨sides, hsides, h⟩ := exists_of_bind_eq_ok h
    obtain rfl := Except.ok.inj h
    exact .inl ⟨sides.literal, writesAtLeast_literal (atLeast_amount hzero hsides), rfl⟩

theorem IconMark.writesAtLeast_size {c : Component} {i : IconMark} (h : ofComponent c = .ok i) :
    WritesAtLeast 16 i.size.literal :=
  writesAtLeast_literal
    (Json.atLeast_of_numberAtLeast 16 (by decide) (by decide) (readFrom_of_ofComponent h).size)

theorem Fields.IsFixedSize.writesAtLeast {props : Fields} {size : FontSize}
    (h : props.IsFixedSize size) : WritesAtLeast 12 size.code := by
  obtain ⟨points, hpoints, rfl⟩ := h
  exact writesAtLeast_literal (atLeast_twelve (by decide) hpoints)

theorem Card.isSizeCode_of_mem_titleOf {c : Component} {title : Option Caption}
    (h : titleOf c = .ok title) :
    ∀ caption ∈ title, c.IsSizeCode "fontPercent" (WritesAtLeast 12) caption.size.code := by
  intro caption hcaption
  obtain ⟨points, hpoints, hsize⟩ := (readFrom_of_titleOf h).isSize_of_mem caption hcaption
  exact Component.isSizeCode_of_fontSize
    (writesAtLeast_literal (atLeast_twelve (by decide) hpoints)) hsize

namespace Header

theorem isSizeCode_titleSizeOf {c : Component} {size : FontSize} (h : titleSizeOf c = .ok size) :
    c.IsSizeCode "titleFontPercent" (WritesAtLeast 12) size.code := by
  have htwelve : AtLeast 12 12 := Binary64.atLeast_ofNat (n := 12) (by decide)
  have hmax {x : Binary64} (hx : x.isFinite = true) : WritesAtLeast 12 (x.max 12).literal :=
    writesAtLeast_literal ((Binary64.atLeast_max hx htwelve.isFinite).mono htwelve.le)
  obtain ⟨found, hfound, h⟩ := exists_of_bind_eq_ok h
  cases found with
  | some fraction =>
    obtain rfl := Except.ok.inj h
    exact .inl ⟨fraction, hfound, rfl⟩
  | none =>
    obtain ⟨titleSize, htitleSize, h⟩ := exists_of_bind_eq_ok h
    cases titleSize with
    | some points =>
      obtain rfl := Except.ok.inj h
      exact .inr ⟨hfound, hmax (Json.isFinite_of_number? htitleSize points rfl)⟩
    | none =>
      obtain ⟨points, hpoints, h⟩ := exists_of_bind_eq_ok h
      obtain rfl := Except.ok.inj h
      have hfinite := Json.isFinite_of_numberOr (Binary64.isFinite_ofNat (by decide)) hpoints
      exact .inr ⟨hfound, hmax hfinite⟩

theorem floors_of_ofComponent {appName : Json} {c : Component} {bar : Header}
    (h : ofComponent appName c = .ok bar) :
    WritesAtLeast 44 bar.height.literal ∧
      c.IsSizeCode "titleFontPercent" (WritesAtLeast 12) bar.titleSize.code := by
  obtain ⟨hsize, hheight⟩ := titleSize_and_height_of_ofComponent h
  exact ⟨writesAtLeast_literal
    (Json.atLeast_of_numberAtLeast 44 (by decide) (by decide) hheight),
    isSizeCode_titleSizeOf hsize⟩

end Header

theorem Document.settings_height_appBar (h : Header) :
    (appBar h).settings "toolbarHeight" = [h.height.literal] := by
  rw [appBar, Dart.Expr.settings, Dart.argumentSettings_append, Dart.argumentSettings_append]
  cases h.showsBack <;> cases h.showsMenu <;> rfl

namespace Widget

theorem settings_elevation_card (content : Card) :
    (card content).expr.settings "elevation" = [content.elevation.literal] := by
  rcases content with ⟨background, elevation, radius, padding, _ | title, _ | body⟩ <;> rfl

theorem settings_padding_card (content : Card) :
    (card content).expr.settings "padding" =
      if content.title.isSome || content.body.isSome then
        ["EdgeInsets.all(" ++ content.padding.literal ++ ")"] else [] := by
  rcases content with ⟨background, elevation, radius, padding, _ | title, _ | body⟩ <;> rfl

theorem settings_size_icon (content : IconMark) :
    (icon content).expr.settings "size" = [content.size.literal] := rfl

end Widget

namespace Emission

/-- The code of a component keeps the floors of its sizes and amounts, whatever values the
component has. -/
structure KeepsFloors (c : Component) (glyphs : List Dart.Glyph) : Prop where
  text : c.typeKey = "text" → ∃ size, Dart.settings "fontSize" glyphs = [size] ∧
    c.IsSizeCode "fontPercent" (WritesAtLeast 12) size
  heading : c.typeKey = "heading" → ∃ size, Dart.settings "fontSize" glyphs = [size] ∧
    c.IsSizeCode "fontPercent" (· ∈ Heading.sizeLiterals) size
  button : c.typeKey = "button" → ∃ size insets, Dart.settings "fontSize" glyphs = [size] ∧
    c.IsSizeCode "fontPercent" (WritesAtLeast 12) size ∧
    Dart.settings "padding" glyphs = [insets] ∧ Insets.IsCode (WritesAtLeast 0) insets
  card : c.typeKey = "card" → ∃ titleSize bodySize : Option String,
    titleSize.isSome = (Json.firstPresent? [c.props.get "title"]).isSome ∧
    bodySize.isSome =
      (Json.firstPresent? (["text", "content", "description"].map c.props.get)).isSome ∧
    Dart.settings "fontSize" glyphs = titleSize.toList ++ bodySize.toList ∧
    (∀ size ∈ titleSize, c.IsSizeCode "fontPercent" (WritesAtLeast 12) size) ∧
    (∀ size ∈ bodySize, WritesAtLeast 12 size) ∧
    (∃ elevation, Dart.settings "elevation" glyphs = [elevation] ∧ WritesAtLeast 0 elevation) ∧
    ∃ padding, WritesAtLeast 0 padding ∧ Dart.settings "padding" glyphs =
      if titleSize.isSome || bodySize.isSome then ["EdgeInsets.all(" ++ padding ++ ")"] else []
  icon : c.typeKey = "icon" → ∃ size, Dart.settings "size" glyphs = [size] ∧ WritesAtLeast 16 size
  container : c.typeKey = "container" → ∃ captionSize : Option String,
    captionSize.isSome = (Json.firstPresent? [c.props.get "text"]).isSome ∧
    Dart.settings "fontSize" glyphs = captionSize.toList ∧
    ∀ size ∈ captionSize, WritesAtLeast 12 size

theorem keepsFloors_of_ofComponent {c : Component} {w : Widget} {glyphs : List Dart.Glyph}
    (hw : Widget.ofComponent c = .ok w)
    (hsettings : ∀ label, label ∉ frameLabels →
      Dart.settings label glyphs = w.expr.settings label) :
    KeepsFloors c glyphs := by
  have hsizes := (hsettings "fontSize" (by decide)).trans w.settings_fontSize_expr
  have hpadding := hsettings "padding" (by decide)
  unfold Widget.ofComponent at hw
  constructor
  · intro htype
    rw [htype] at hw
    obtain ⟨content, hcontent, rfl⟩ := exists_of_map_eq_ok hw
    exact ⟨_, hsizes, Label.isSizeCode_of_ofComponent hcontent⟩
  · intro htype
    rw [htype] at hw
    obtain ⟨content, hcontent, rfl⟩ := exists_of_map_eq_ok hw
    exact ⟨_, hsizes, Heading.isSizeCode_of_ofComponent hcontent⟩
  · intro htype
    rw [htype] at hw
    obtain ⟨content, hcontent, rfl⟩ := exists_of_map_eq_ok hw
    exact ⟨_, _, hsizes, Button.isSizeCode_of_ofComponent hcontent, hpadding,
      Button.isCode_paddingOf (Button.readFrom_of_ofComponent hcontent).padding⟩
  · intro htype
    rw [htype] at hw
    obtain ⟨content, hcontent, rfl⟩ := exists_of_map_eq_ok hw
    have hread := Card.readFrom_of_ofComponent hcontent
    have htitle := Card.readFrom_of_titleOf hread.title
    have hbody := Card.readFrom_of_bodyOf hread.body
    refine ⟨content.title.map fun caption => caption.size.code,
      content.body.map fun caption => caption.size.code, ?_, ?_, ?_, ?_, ?_, ?_, ?_⟩
    · rw [Option.isSome_map, htitle.isSome_eq]
    · rw [Option.isSome_map, hbody.isSome_eq]
      rfl
    · rw [hsizes, Widget.sizes, List.map_map, List.map_append, Option.toList_map, Option.toList_map]
      rfl
    · simpa using Card.isSizeCode_of_mem_titleOf hread.title
    · simpa using fun shown hshown => (hbody.isSize_of_mem shown hshown).writesAtLeast
    · exact ⟨_, (hsettings "elevation" (by decide)).trans (Widget.settings_elevation_card content),
        writesAtLeast_literal
          (Json.atLeast_of_numberAtLeast 0 (by decide) (by decide) hread.elevation)⟩
    · refine ⟨content.padding.literal, writesAtLeast_literal
        (Json.atLeast_of_numberAtLeast 0 (by decide) (by decide) hread.padding), ?_⟩
      rw [hpadding, Widget.settings_padding_card, Option.isSome_map, Option.isSome_map]
  · intro htype
    rw [htype] at hw
    obtain ⟨content, hcontent, rfl⟩ := exists_of_map_eq_ok hw
    exact ⟨_, (hsettings "size" (by decide)).trans (Widget.settings_size_icon content),
      IconMark.writesAtLeast_size hcontent⟩
  · intro htype
    rw [htype] at hw
    obtain ⟨content, hcontent, rfl⟩ := exists_of_map_eq_ok hw
    have hcaption := Box.readFrom_of_captionOf (Box.readFrom_of_ofComponent hcontent).caption
    refine ⟨content.caption.map fun shown => shown.size.code, ?_, ?_, ?_⟩
    · rw [Option.isSome_map, hcaption.isSome_eq]
    · rw [hsizes, Widget.sizes, List.map_map, Option.toList_map]
      rfl
    · simpa using fun shown hshown => (hcaption.isSize_of_mem shown hshown).writesAtLeast

/-- Whatever values a component has, its code keeps the floors of sizes and amounts, and so
does the code of the app bar that it stands for. -/
theorem keeps_floors (c : Component) :
    (∀ level snippet, start.widget c level = .ok (some snippet) →
      ∃ glyphs, Dart.lex snippet = some glyphs ∧ KeepsFloors c glyphs) ∧
    (∀ appName bar column, Header.ofComponent appName c = .ok bar →
      ∃ glyphs height size, Dart.lex ((Document.appBar bar).print column).toList = some glyphs ∧
        Dart.settings "toolbarHeight" glyphs = [height] ∧ WritesAtLeast 44 height ∧
        Dart.settings "fontSize" glyphs = [size] ∧
        c.IsSizeCode "titleFontPercent" (WritesAtLeast 12) size) := by
  constructor
  · intro level snippet hsnippet
    obtain ⟨w, glyphs, hw, hglyphs, hsettings⟩ := exists_settings_eq hsnippet
    exact ⟨glyphs, hglyphs, keepsFloors_of_ofComponent hw hsettings⟩
  · intro appName bar column hbar
    have hclear (label : String) (h : label ∉ frameLabels) (hlabel : label ∉ Document.barLabels) :=
      Dart.Expr.settings_glyphs (Document.clearOf_appBar label h hlabel bar) column
    have hlegible := (Document.appBar bar).legible_print column (Document.tidy_appBar bar)
    obtain ⟨hheight, hsize⟩ := Header.floors_of_ofComponent hbar
    refine ⟨(Document.appBar bar).glyphs column, bar.height.literal, bar.titleSize.code,
      hlegible.lex_eq, ?_, hheight, ?_, hsize⟩
    · rw [hclear "toolbarHeight" (by decide) (by decide), Document.settings_height_appBar]
    · rw [hclear "fontSize" (by decide) (by decide), Document.settings_appBar]

/-- A card with negative and unreadable sizes and amounts. -/
def shrunkCard : Component :=
  .ofFields [
    ("type", .string "Card"),
    ("props", .object [
      ("title", .string "News"), ("titleSize", .string "-3px"), ("text", .string "Rain"),
      ("fontSize", .string "tiny"), ("elevation", .integer (-4)), ("padding", .string "-1e9")])]

/-- An app bar with next to no height, and no size of type. -/
def lowBar : Component :=
  .ofFields [
    ("type", .string "AppBar"),
    ("props", .object [("height", .string "1e-9"), ("titleSize", .integer 0)])]

theorem keeps_floors_shrunkCard :
    (∃ snippet glyphs, start.widget shrunkCard 0 = .ok (some snippet) ∧
      Dart.lex snippet = some glyphs ∧
      ∃ elevation, Dart.settings "elevation" glyphs = [elevation] ∧ WritesAtLeast 0 elevation) ∧
    ∃ bar glyphs height, Header.ofComponent (.string "App") lowBar = .ok bar ∧
      Dart.lex ((Document.appBar bar).print 6).toList = some glyphs ∧
      Dart.settings "toolbarHeight" glyphs = [height] ∧ WritesAtLeast 44 height := by
  constructor
  · have hread : (Widget.ofComponent shrunkCard).isOk = true := by decide +kernel
    obtain ⟨w, hw⟩ := (exists_eq_ok_iff _).2 hread
    have hsnippet := widget_start_of_not_isHeader (c := shrunkCard) (by decide) 0
    rw [hw] at hsnippet
    obtain ⟨glyphs, hglyphs, hfloors⟩ := (keeps_floors shrunkCard).1 0 _ hsnippet
    obtain ⟨-, -, -, -, -, -, -, helevation, -⟩ := hfloors.card (by decide)
    exact ⟨_, glyphs, hsnippet, hglyphs, helevation⟩
  · have hread : (Header.ofComponent (.string "App") lowBar).isOk = true := by decide +kernel
    obtain ⟨bar, hbar⟩ := (exists_eq_ok_iff _).2 hread
    obtain ⟨glyphs, height, -, hglyphs, hheight, hlow, -⟩ :=
      (keeps_floors lowBar).2 (.string "App") bar 6 hbar
    exact ⟨bar, glyphs, height, hbar, hglyphs, hheight, hlow⟩

end Emission

end Maquette
