import Maquette.Proofs.Document.Legible
import Maquette.Proofs.Emission.Snippet
import Maquette.Proofs.Widget.Read

/-!
# Texts that follow the width

A component may define a fraction of the width as its size of type. A text, a heading, a
button and the title of a card are then written with that fraction, whatever sizes they
were given besides, and so is the title of an app bar with its own fraction. The body of
a card and the caption of a container are not: their size stays the one that they were
given, or the default.
-/

namespace Maquette

open Dart (Unlabeled Clear clear_ofList)

namespace Component

variable {c : Component} {fraction : Binary64}

theorem eq_ofWidth_of_fontSize (hfraction : c.fraction? "fontPercent" = .ok (some fraction))
    {points : Binary64} {size : FontSize} (h : c.fontSize points = .ok size) :
    size = .ofWidth fraction := by
  rw [fontSize, hfraction] at h
  exact (Except.ok.inj h).symm

/-- The fixed size of the text that is the first given of several properties, if one of
them is given. -/
def fixedSizes (c : Component) (names : List String) : Except NumberError (List Binary64) :=
  match Json.firstPresent? (names.map c.props.get) with
  | none => .ok []
  | some _ => ((c.props.get "fontSize").numberAtLeast 14 12).map ([·])

/-- A caption that keeps its own size has the fixed size of its text. -/
theorem exists_fixedSizes (names : List String) {color : Color} {caption : Option Caption}
    (h : Caption.ReadFrom (Json.firstPresent? (names.map c.props.get)) c.props.IsFixedSize color
      caption) :
    ∃ fixed, c.fixedSizes names = .ok fixed ∧
      caption.toList.map Caption.size = fixed.map FontSize.fixed := by
  unfold fixedSizes
  cases h with
  | missing hgiven =>
    rw [hgiven]
    exact ⟨[], rfl, rfl⟩
  | shown hgiven hsize =>
    obtain ⟨points, hpoints, rfl⟩ := hsize
    rw [hgiven, hpoints]
    exact ⟨[points], rfl, rfl⟩

end Component

section Sizes

variable {c : Component} {fraction : Binary64}
  (hfraction : c.fraction? "fontPercent" = .ok (some fraction))

include hfraction

theorem Label.size_of_ofComponent {l : Label} (h : ofComponent c = .ok l) :
    l.caption.size = .ofWidth fraction := by
  obtain ⟨points, -, hsize⟩ := (readFrom_of_ofComponent h).size
  exact Component.eq_ofWidth_of_fontSize hfraction hsize

theorem Heading.size_of_ofComponent {content : Heading} (h : ofComponent c = .ok content) :
    content.caption.size = .ofWidth fraction := by
  obtain ⟨level, -, hsize⟩ := (readFrom_of_ofComponent h).size
  exact Component.eq_ofWidth_of_fontSize hfraction hsize

theorem Button.size_of_ofComponent {b : Button} (h : ofComponent c = .ok b) :
    b.size = .ofWidth fraction := by
  obtain ⟨points, -, hsize⟩ := (readFrom_of_ofComponent h).size
  exact Component.eq_ofWidth_of_fontSize hfraction hsize

theorem Card.map_size_titleOf {title : Option Caption} (h : titleOf c = .ok title) :
    title.map Caption.size =
      (Json.firstPresent? [c.props.get "title"]).map fun _ => .ofWidth fraction := by
  cases readFrom_of_titleOf h with
  | missing hgiven =>
    rw [hgiven]
    rfl
  | shown hgiven hsize =>
    obtain ⟨points, -, hsize⟩ := hsize
    rw [hgiven, Component.eq_ofWidth_of_fontSize hfraction hsize]
    rfl

theorem Card.sizes_of_ofComponent {content : Card} (h : ofComponent c = .ok content) :
    ∃ fixed, c.fixedSizes ["text", "content", "description"] = .ok fixed ∧
      (Widget.card content).sizes =
        ((Json.firstPresent? [c.props.get "title"]).toList.map fun _ => .ofWidth fraction) ++
          fixed.map FontSize.fixed := by
  have hread := readFrom_of_ofComponent h
  obtain ⟨fixed, hfixed, hsizes⟩ := Component.exists_fixedSizes ["text", "content", "description"]
    (readFrom_of_bodyOf hread.body)
  have htitles := congrArg Option.toList (map_size_titleOf hfraction hread.title)
  rw [Option.toList_map, Option.toList_map] at htitles
  refine ⟨fixed, hfixed, ?_⟩
  rw [Widget.sizes, List.map_append, hsizes, htitles]

end Sizes

theorem Box.sizes_of_ofComponent {c : Component} {content : Box} (h : ofComponent c = .ok content) :
    ∃ fixed, c.fixedSizes ["text"] = .ok fixed ∧
      (Widget.box content).sizes = fixed.map FontSize.fixed :=
  Component.exists_fixedSizes ["text"] (readFrom_of_captionOf (readFrom_of_ofComponent h).caption)

namespace Header

theorem titleSize_of_ofComponent {appName : Json} {c : Component} {fraction : Binary64}
    (hfraction : c.fraction? "titleFontPercent" = .ok (some fraction)) {bar : Header}
    (h : ofComponent appName c = .ok bar) : bar.titleSize = .ofWidth fraction := by
  have hsize := (titleSize_and_height_of_ofComponent h).1
  rw [titleSizeOf, hfraction] at hsize
  exact (Except.ok.inj hsize).symm

end Header

namespace Document

/-- The labels that an app bar sets to more than code on one line. -/
def barLabels : List String := ["title", "leading", "actions"]

theorem clearOf_appBar (label : String) (h : label ∉ frameLabels) (hbar : label ∉ barLabels)
    (bar : Header) : (appBar bar).ClearOf label := by
  have hcallee : Clear label "AppBar" := clear_ofList (by decide) label
  simp only [barLabels, List.mem_cons, List.not_mem_nil, or_false, not_or] at hbar
  refine ⟨hcallee, Dart.argumentsClearOf_append (Dart.argumentsClearOf_append ?_ ?_) ?_⟩
  · simp only [Dart.ArgumentsClearOf, Dart.Expr.ClearOf, Dart.Expr.code?, Option.isSome_some,
      Unlabeled.clear, Binary64.unlabeled_literal, FontSize.unlabeled_code, Color.unlabeled_code,
      ne_of_notMem_frameLabels h, hbar, implies_true, false_implies, true_and, and_true]
    and_intros
    all_goals first
      | exact clear_ofList (by decide) label
      | decide
  · cases bar.showsBack with
    | false => exact trivial
    | true =>
      simp only [if_true, Dart.ArgumentsClearOf, Dart.Expr.ClearOf, Dart.Expr.code?,
        Option.isSome_some, hbar, implies_true, false_implies, true_and, and_true]
      and_intros
      all_goals first
        | exact clear_ofList (by decide) label
        | decide
  · cases bar.showsMenu with
    | false => exact trivial
    | true =>
      simp only [if_true, Dart.ArgumentsClearOf, Dart.Expr.ClearOf, Dart.ItemsClearOf,
        Dart.Expr.code?, Option.isSome_some, hbar, implies_true, false_implies, true_and, and_true]
      and_intros
      all_goals first
        | exact clear_ofList (by decide) label
        | decide

/-- The code of an app bar sets one size of type, that of its title. -/
theorem settings_appBar (h : Header) : (appBar h).settings "fontSize" = [h.titleSize.code] := by
  rw [appBar, Dart.Expr.settings, Dart.argumentSettings_append, Dart.argumentSettings_append]
  cases h.showsBack <;> cases h.showsMenu <;> rfl

end Document

namespace Emission

/-- With a fraction of the width as its size of type, a component is written with that
fraction and not with the sizes that it was given, the body of a card and the caption of
a container excepted. An app bar is written with its own fraction. -/
theorem settings_fontSize_of_fraction (c : Component) :
    (∀ fraction level snippet, c.fraction? "fontPercent" = .ok (some fraction) →
      start.widget c level = .ok (some snippet) →
      ∃ glyphs, Dart.lex snippet = some glyphs ∧
        (c.typeKey ∈ ["text", "heading", "button"] →
          Dart.settings "fontSize" glyphs = [FontSize.widthCode fraction]) ∧
        (c.typeKey = "card" →
          ∃ fixed, c.fixedSizes ["text", "content", "description"] = .ok fixed ∧
            Dart.settings "fontSize" glyphs =
              ((Json.firstPresent? [c.props.get "title"]).toList.map fun _ =>
                FontSize.widthCode fraction) ++ fixed.map Binary64.literal) ∧
        (c.typeKey = "container" →
          ∃ fixed, c.fixedSizes ["text"] = .ok fixed ∧
            Dart.settings "fontSize" glyphs = fixed.map Binary64.literal)) ∧
    (∀ fraction appName bar column, c.fraction? "titleFontPercent" = .ok (some fraction) →
      Header.ofComponent appName c = .ok bar →
      ∃ glyphs, Dart.lex ((Document.appBar bar).print column).toList = some glyphs ∧
        Dart.settings "fontSize" glyphs = [FontSize.widthCode fraction]) := by
  constructor
  · intro fraction level snippet hfraction hsnippet
    obtain ⟨w, glyphs, hw, hglyphs, hsettings⟩ := exists_settings_eq hsnippet
    have hsizes := (hsettings "fontSize" (by decide)).trans w.settings_fontSize_expr
    unfold Widget.ofComponent at hw
    refine ⟨glyphs, hglyphs, fun htype => ?_, fun htype => ?_, fun htype => ?_⟩
    · simp only [List.mem_cons, List.not_mem_nil, or_false] at htype
      rcases htype with htype | htype | htype
      · rw [htype] at hw
        obtain ⟨content, hcontent, rfl⟩ := exists_of_map_eq_ok hw
        rw [hsizes, Widget.sizes, Label.size_of_ofComponent hfraction hcontent]
        rfl
      · rw [htype] at hw
        obtain ⟨content, hcontent, rfl⟩ := exists_of_map_eq_ok hw
        rw [hsizes, Widget.sizes, Heading.size_of_ofComponent hfraction hcontent]
        rfl
      · rw [htype] at hw
        obtain ⟨content, hcontent, rfl⟩ := exists_of_map_eq_ok hw
        rw [hsizes, Widget.sizes, Button.size_of_ofComponent hfraction hcontent]
        rfl
    · rw [htype] at hw
      obtain ⟨content, hcontent, rfl⟩ := exists_of_map_eq_ok hw
      obtain ⟨fixed, hfixed, hcard⟩ := Card.sizes_of_ofComponent hfraction hcontent
      refine ⟨fixed, hfixed, ?_⟩
      rw [hsizes, hcard, List.map_append, List.map_map, List.map_map]
      rfl
    · rw [htype] at hw
      obtain ⟨content, hcontent, rfl⟩ := exists_of_map_eq_ok hw
      obtain ⟨fixed, hfixed, hbox⟩ := Box.sizes_of_ofComponent hcontent
      refine ⟨fixed, hfixed, ?_⟩
      rw [hsizes, hbox, List.map_map]
      rfl
  · intro fraction appName bar column hfraction hbar
    have hclear := Document.clearOf_appBar "fontSize" (by decide) (by decide) bar
    have hlegible := (Document.appBar bar).legible_print column (Document.tidy_appBar bar)
    refine ⟨(Document.appBar bar).glyphs column, hlegible.lex_eq, ?_⟩
    rw [Dart.Expr.settings_glyphs hclear, Document.settings_appBar,
      Header.titleSize_of_ofComponent hfraction hbar]
    rfl

/-- A card with a title and a body, the whole width as its size of type. -/
def newsCard : Component :=
  .ofFields [
    ("type", .string "Card"),
    ("props", .object [("title", .string "News"), ("text", .string "Rain")]),
    ("responsive", .object [("fontPercent", .integer 1)])]

/-- An app bar with the whole width as the size of its title. -/
def wideBar : Component :=
  .ofFields [
    ("type", .string "AppBar"),
    ("props", .object [("titleSize", .integer 20)]),
    ("responsive", .object [("titleFontPercent", .integer 1)])]

theorem exists_widget_newsCard : ∃ snippet, start.widget newsCard 0 = .ok (some snippet) := by
  have hread : (Widget.ofComponent newsCard).isOk = true := by decide +kernel
  obtain ⟨w, hw⟩ := (exists_eq_ok_iff _).2 hread
  rw [widget_start_of_not_isHeader (by decide), hw]
  exact ⟨_, rfl⟩

theorem fraction?_newsCard : newsCard.fraction? "fontPercent" = .ok (some 1) :=
  eq_ok_of_toOption (by decide +kernel)

theorem widthCode_one : FontSize.widthCode 1 = "MediaQuery.of(context).size.width * 1" := by
  decide +kernel

theorem settings_fontSize_newsCard :
    (∃ snippet glyphs, start.widget newsCard 0 = .ok (some snippet) ∧
      Dart.lex snippet = some glyphs ∧
      Dart.settings "fontSize" glyphs = ["MediaQuery.of(context).size.width * 1", "14"]) ∧
    (∃ bar glyphs, Header.ofComponent (.string "App") wideBar = .ok bar ∧
      Dart.lex ((Document.appBar bar).print 6).toList = some glyphs ∧
      Dart.settings "fontSize" glyphs = ["MediaQuery.of(context).size.width * 1"]) := by
  constructor
  · obtain ⟨snippet, hsnippet⟩ := exists_widget_newsCard
    obtain ⟨glyphs, hglyphs, -, hcard, -⟩ :=
      (settings_fontSize_of_fraction newsCard).1 1 0 snippet fraction?_newsCard hsnippet
    obtain ⟨fixed, hfixed, hsettings⟩ := hcard (by decide)
    have hfourteen : ((newsCard.fixedSizes ["text", "content", "description"]).map fun fixed =>
        fixed.map Binary64.literal).toOption = some ["14"] := by decide +kernel
    rw [hfixed] at hfourteen
    have hbody : fixed.map Binary64.literal = ["14"] := Option.some.inj hfourteen
    refine ⟨snippet, glyphs, hsnippet, hglyphs, ?_⟩
    rw [hsettings, hbody, widthCode_one]
    rfl
  · have hread : (Header.ofComponent (.string "App") wideBar).isOk = true := by decide +kernel
    obtain ⟨bar, hbar⟩ := (exists_eq_ok_iff _).2 hread
    obtain ⟨glyphs, hglyphs, hsettings⟩ :=
      (settings_fontSize_of_fraction wideBar).2 1 (.string "App") bar 6
        (eq_ok_of_toOption (by decide +kernel)) hbar
    rw [widthCode_one] at hsettings
    exact ⟨bar, glyphs, hbar, hglyphs, hsettings⟩

/-- The body of a card is written with fourteen points, although the card defines a
fraction of the width. -/
theorem fixed_mem_settings_newsCard :
    ∃ fraction snippet glyphs, newsCard.fraction? "fontPercent" = .ok (some fraction) ∧
      start.widget newsCard 0 = .ok (some snippet) ∧ Dart.lex snippet = some glyphs ∧
      "14" ∈ Dart.settings "fontSize" glyphs ∧ "14" ≠ FontSize.widthCode fraction := by
  obtain ⟨snippet, hsnippet⟩ := exists_widget_newsCard
  obtain ⟨w, glyphs, hw, hglyphs, hsettings⟩ := exists_settings_eq hsnippet
  have hsizes := (hsettings "fontSize" (by decide)).trans w.settings_fontSize_expr
  have hfourteen : ((Widget.ofComponent newsCard).map fun w => w.sizes.map FontSize.code).toOption =
      some ["MediaQuery.of(context).size.width * 1", "14"] := by decide +kernel
  rw [hw] at hfourteen
  have hread : w.sizes.map FontSize.code = ["MediaQuery.of(context).size.width * 1", "14"] :=
    Option.some.inj hfourteen
  refine ⟨1, snippet, glyphs, fraction?_newsCard, hsnippet, hglyphs, ?_, ?_⟩
  · rw [hsizes, hread]
    exact List.mem_cons_of_mem _ List.mem_cons_self
  · rw [widthCode_one]
    decide

end Emission

end Maquette
