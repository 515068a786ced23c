import Maquette.Proofs.Dart.Source
import Maquette.Proofs.Json.Characters
import Maquette.Proofs.Json.RoundTrip
import Maquette.Proofs.Package.Config
import Maquette.Proofs.Text.Margin
import Maquette.Proofs.Text.Pieces

/-!
# The embedded configuration

One file of a package has the configuration as a literal in code. The file is a fixed
text but for two places: the name of the app in a comment, which is one line because
its words are, and the configuration between triple quotes. The configuration begins
and ends with a brace and has no carriage return, which is all that the literal needs
to have the configuration as its value.
-/

namespace Maquette

namespace Text

theorem mem_of_mem_intersperse {between l : List Char} :
    ∀ {parts : List (List Char)}, l ∈ parts.intersperse between → l = between ∨ l ∈ parts
  | [], h => by cases h
  | [part], h => .inr h
  | part :: next :: parts, h => by
    rw [List.intersperse_cons_cons] at h
    rcases List.mem_cons.1 h with rfl | h
    · exact .inr List.mem_cons_self
    · rcases List.mem_cons.1 h with rfl | h
      · exact .inl rfl
      · rcases mem_of_mem_intersperse h with rfl | hmem
        · exact .inl rfl
        · exact .inr (List.mem_cons_of_mem _ hmem)

end Text

namespace Package

/-- The name in a comment is on one line, also for lines of a text file. -/
theorem isLineBoundary_of_mem_oneLine {text : String} {c : Char} (h : c ∈ (oneLine text).toList) :
    Text.isLineBoundary c = false := by
  rw [oneLine, String.toList_ofList] at h
  obtain ⟨part, hpart, hc⟩ := List.mem_flatten.1 h
  rcases Text.mem_of_mem_intersperse hpart with rfl | hword
  · rw [List.mem_singleton.1 hc]
    decide
  · have hblank := (Text.of_mem_pieces (List.mem_filter.1 hword).1 hc).2
    rw [Bool.eq_false_iff]
    intro hline
    rw [Text.isBlank_of_isLineBoundary hline] at hblank
    cases hblank

/-- The configuration file is in braces, and has no carriage return. -/
theorem configFile_shape (p : Package) :
    p.configFile.toList.head? = some '\x7b' ∧ p.configFile.toList.getLast? ≠ some '\'' ∧
      '\r' ∉ p.configFile.toList := by
  have htext : ∃ middle, p.configFile.toList = '\x7b' :: '\n' :: (middle ++ ['\n', '\x7d']) := by
    have h (field : String × Json) (fields : Fields) :=
      Json.prettyAt_object 0 field fields []
    exact ⟨_, (List.append_nil _).symm.trans (h _ _)⟩
  refine ⟨?_, ?_, ?_⟩
  · obtain ⟨middle, hmiddle⟩ := htext
    rw [hmiddle]
    rfl
  · obtain ⟨middle, hmiddle⟩ := htext
    have hlast : '\x7b' :: '\n' :: (middle ++ ['\n', '\x7d']) =
        '\x7b' :: '\n' :: (middle ++ ['\n']) ++ ['\x7d'] := by simp
    rw [hmiddle, hlast, List.getLast?_concat]
    decide
  · intro hmem
    have hplain := List.all_eq_true.1 (Json.all_isPlainChar_prettyAt p.config.toJson 0) '\r' hmem
    exact absurd hplain (by decide)

/-- The two slots of the file, between the fixed texts. -/
theorem render_data {first second third : String} {context : Fields} {one two : String}
    (hone : Template.slotText false context "comment_name" = one)
    (htwo : Template.slotText false context "config_json" = two) :
    Template.render false [.text first, .slot "comment_name", .text second, .slot "config_json",
      .text third] context = .ok (first ++ (one ++ (second ++ (two ++ (third ++ ""))))) := by
  simp only [Template.render, hone, htwo]
  rfl

/-- The code between the comment of the file and the literal. -/
def dataBefore : List Char :=
  "import ".toList ++ '\'' :: ("dart:convert".toList ++ '\'' ::
    ";\n\nclass ScreensData \x7b\n  static const String appConfigJson = ".toList)

theorem dataBefore_append (rest : List Char) :
    dataBefore ++ rest = "import ".toList ++ '\'' :: ("dart:convert".toList ++ '\'' ::
      (";\n\nclass ScreensData \x7b\n  static const String appConfigJson = ".toList ++ rest)) := by
  -- for any three texts: to compute with these ones takes long
  have h (import_ quoted declaration : List Char) :
      import_ ++ '\'' :: (quoted ++ '\'' :: declaration) ++ rest =
        import_ ++ '\'' :: (quoted ++ '\'' :: (declaration ++ rest)) := by simp
  unfold dataBefore
  exact h _ _ _

/-- The glyphs of that code. -/
def dataHead : List Dart.Glyph :=
  Dart.chars "import ".toList ++ .literal "dart:convert".toList ::
    Dart.chars ";\n\nclass ScreensData \x7b\n  static const String appConfigJson = ".toList

theorem scanSource_dataBefore {rest : List Char} {after : List Dart.Glyph}
    (h : Dart.scanSource .code rest = some after) :
    Dart.scanSource .code (dataBefore ++ rest) = some (dataHead ++ after) := by
  have hquoted (more : List Char) :
      Dart.scanSource .code ('\'' :: ("dart:convert".toList ++ '\'' :: more)) =
        Dart.scanSource (.quoted []) ("dart:convert".toList ++ '\'' :: more) := rfl
  rw [dataBefore_append, Dart.scanSource_ordinary (by decide), hquoted, Dart.scanSource_quoted (by decide),
    Dart.scanSource_ordinary (by decide), h]
  simp [dataHead]

/-- The glyphs behind a literal, in front of the quotes that close it. -/
def closed? : List Char → Option (List Dart.Glyph)
  | '\'' :: '\'' :: '\'' :: after => Dart.lexSource after
  | _ => none

theorem exists_of_closed? {s : List Char} {tail : List Dart.Glyph} (h : closed? s = some tail) :
    ∃ after, s = '\'' :: '\'' :: '\'' :: after ∧ Dart.lexSource after = some tail := by
  unfold closed? at h
  split at h
  · exact ⟨_, rfl, h⟩
  · cases h

/-- The file is the fixed texts around its two slots: a comment is begun, an import
and a literal in triple quotes follow, and what comes after the literal is code of its
own. -/
theorem exists_embeddedData_eq :
    ∃ second third : String,
      Template.embeddedData = [.text "// Generated screens data for ", .slot "comment_name",
        .text second, .slot "config_json", .text third] ∧
      second.toList = '\n' :: (dataBefore ++ ['\'', '\'', '\'']) ∧
      (closed? third.toList).isSome = true := by
  refine ⟨_, _, rfl, ?_, ?_⟩
  · rw [dataBefore_append]
    simp only [-String.reduceAppend, String.toList_append]
    decide
  · simp only [-String.reduceAppend, String.toList_append]
    decide +kernel

/-- What the file is filled with. -/
theorem filled_data {first second third : String}
    (htemplate : Template.embeddedData = [.text first, .slot "comment_name", .text second,
      .slot "config_json", .text third]) (p : Package) :
    p.filled "screens_data_dart" = .ok (first ++ (oneLine p.config.appName ++
      (second ++ (Dart.tripleQuoted p.configFile ++ (third ++ ""))))) := by
  have hfind : TemplateLibrary.empty.find "screens_data_dart" = .ok Template.embeddedData := rfl
  have hmarkup : Template.markupNames.contains "screens_data_dart" = false := by decide
  have hname : Template.slotText false p.context "comment_name" = oneLine p.config.appName := rfl
  have hconfig : Template.slotText false p.context "config_json" =
      Dart.tripleQuoted p.configFile := rfl
  rw [filled, TemplateLibrary.render, hfind, hmarkup]
  simp only [bind, Except.bind, htemplate, render_data hname hconfig]
  rfl

/-- The file with the embedded configuration is a comment of one line, and code that is
the same for all packages around a literal. Whatever the configuration is, the code
closes the literal where it is meant to, and the value of the literal is the
configuration file. -/
theorem lexSource_embeddedConfig :
    ∃ (before after : List Char) (head tail : List Dart.Glyph),
      Dart.chars "static const String appConfigJson = ".toList <:+ head ∧
      ∀ (p : Package) (files : List File), p.files = .ok files →
        ∃ data config comment quoted, files.lookup "lib/screens_data.dart" = some data ∧
          files.lookup "assets/app_config.json" = some config ∧
          data.toList = '/' :: '/' :: (comment ++ '\n' :: (before ++ '\'' :: '\'' :: '\'' ::
            (quoted ++ '\'' :: '\'' :: '\'' :: after))) ∧
          (∀ c ∈ comment, Text.isLineBoundary c = false) ∧
          Dart.lexSource data.toList =
            some (.comment comment :: .char '\n' :: (head ++ .literal config.toList :: tail)) := by
  obtain ⟨second, third, htemplate, hsecond, hclosed⟩ := exists_embeddedData_eq
  obtain ⟨tail, htail⟩ := Option.isSome_iff_exists.1 hclosed
  obtain ⟨after, hthird, htail⟩ := exists_of_closed? htail
  refine ⟨dataBefore, after, dataHead, tail, ?_, ?_⟩
  · refine ⟨Dart.chars "import ".toList ++ .literal "dart:convert".toList ::
      Dart.chars ";\n\nclass ScreensData \x7b\n  ".toList, ?_⟩
    decide
  · intro p files hfiles
    obtain ⟨_, _, data, _, _, _, _, -, -, hdata, -, -, -, -, rfl⟩ := exists_of_files_eq_ok hfiles
    obtain ⟨hbrace, hlast, hreturn⟩ := p.configFile_shape
    rw [filled_data htemplate] at hdata
    generalize hcomment :
      " Generated screens data for ".toList ++ (oneLine p.config.appName).toList = comment
    have hline : ∀ c ∈ comment, Text.isLineBoundary c = false := by
      intro c hc
      rw [← hcomment] at hc
      rcases List.mem_append.1 hc with hfixed | hname
      · have hplain : (" Generated screens data for ".toList.all
            fun c => !Text.isLineBoundary c) = true := by decide
        simpa using List.all_eq_true.1 hplain c hfixed
      · exact isLineBoundary_of_mem_oneLine hname
    have hbreak : ∀ c ∈ comment, ¬(c = '\r' ∨ c = '\n') := by
      rintro c hc (rfl | rfl)
      · exact absurd (hline _ hc) (by decide)
      · exact absurd (hline _ hc) (by decide)
    have htext : data.toList = '/' :: '/' :: (comment ++ '\n' :: (dataBefore ++
        '\'' :: '\'' :: '\'' :: (Dart.tripleQuotedChars p.configFile.toList ++
          '\'' :: '\'' :: '\'' :: after))) := by
      have hfirst : "// Generated screens data for ".toList =
          '/' :: '/' :: " Generated screens data for ".toList := by decide
      have hembedded : (Dart.tripleQuoted p.configFile).toList =
          Dart.tripleQuotedChars p.configFile.toList := String.toList_ofList
      rw [← Except.ok.inj hdata, ← hcomment, String.toList_append, String.toList_append,
        String.toList_append, String.toList_append, String.toList_append, hfirst, hsecond,
        hthird, hembedded]
      simp only [List.cons_append, List.append_assoc, List.nil_append, String.toList_empty,
        List.append_nil]
    refine ⟨data, _, comment, _, rfl, rfl, htext, hline, ?_⟩
    -- the literal is scanned in front of the code that ends the file
    have hliteral := (Dart.scanSource_embedded hreturn hlast hbrace after).trans
      (congrArg _ htail)
    have hopen (more : List Char) : Dart.scanSource .code ('/' :: '/' :: more) =
        Dart.scanSource (.comment []) more := rfl
    rw [htext, Dart.lexSource, hopen, Dart.scanSource_comment hbreak,
      scanSource_dataBefore hliteral]
    rfl

/-- A request whose texts have everything that could end a literal or a comment. -/
def quotedRequest : Json :=
  .object [("deploymentInfo", .object [("appName", .string "It'''s\n$one \u2028 \\ ")]),
    ("projectId", .string "'''''; $\x7bmain()\x7d // \\'")]

theorem lexSource_embeddedConfig_quotedRequest :
    ∃ files data config comment head tail,
      (ofRequest standardDefaults ⟨1700000000123456⟩ quotedRequest).files = .ok files ∧
      files.lookup "lib/screens_data.dart" = some data ∧
      files.lookup "assets/app_config.json" = some config ∧
      Dart.lexSource data.toList =
        some (.comment comment :: .char '\n' :: (head ++ .literal config.toList :: tail)) := by
  have hcode :
      (ofRequest standardDefaults ⟨1700000000123456⟩ quotedRequest).mainCode.isOk = true := by
    decide
  rw [← isOk_files] at hcode
  obtain ⟨files, hfiles⟩ := (exists_eq_ok_iff _).2 hcode
  obtain ⟨_, _, head, tail, -, hall⟩ := lexSource_embeddedConfig
  obtain ⟨data, config, comment, _, hdata, hconfig, -, -, hlex⟩ := hall _ _ hfiles
  exact ⟨files, data, config, comment, head, tail, hfiles, hdata, hconfig, hlex⟩

end Package

end Maquette
