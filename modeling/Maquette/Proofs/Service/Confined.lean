import Maquette.Proofs.FileTree.Reach
import Maquette.Proofs.Package.Delivered
import Maquette.Proofs.Service.Packaging

/-!
# Where the name of an app gets to

The name of an app gets outside of texts in two places: in the name of the directory that
its package is delivered to, and in the header that names its archive. Both have only
lower-case letters, digits and underscores from it, whatever the name is, so the directory
is one step below the output directory, and the header goes on as it is meant to.
-/

namespace Maquette

namespace Package

/-- A character of a plain name: a lower-case ASCII letter, a digit or an underscore. -/
def isPlainNameChar (c : Char) : Bool :=
  isNameChar c || c == '_'

theorem all_isPlainNameChar_name (p : Package) : p.name.toList.all isPlainNameChar = true := by
  rw [name, nameOf, String.toList_ofList, List.all_eq_true]
  intro c hc
  rcases isNameChar_or_underscore_of_mem_nameChars hc with hname | rfl
  · rw [isPlainNameChar, hname, Bool.true_or]
  · rfl

theorem isPlainNameChar_of_isDigit {c : Char} (h : Json.isDigit c = true) :
    isPlainNameChar c = true := by
  unfold Json.isDigit at h
  rw [isPlainNameChar, isNameChar, h, Bool.or_true, Bool.true_or]

theorem all_isPlainNameChar_decimalDigits (n : Nat) :
    (decimalDigits n).all isPlainNameChar = true :=
  List.all_eq_true.2 fun _ hc => isPlainNameChar_of_isDigit (isDigit_of_mem_decimalDigits hc)

theorem all_isPlainNameChar_padded (width : Nat) (n : Int) :
    (Instant.padded width n).toList.all isPlainNameChar = true := by
  rw [Instant.padded, String.toList_ofList, List.all_append, all_isPlainNameChar_decimalDigits,
    Bool.and_true, List.all_eq_true]
  intro c hc
  rw [List.eq_of_mem_replicate hc]
  rfl

/-- From the first year on, the digits of a point in time have no sign. -/
theorem all_isPlainNameChar_stamp {now : Instant} (h : 0 < now.calendar.year) :
    now.stamp.toList.all isPlainNameChar = true := by
  have hyear : (integerText now.calendar.year).toList.all isPlainNameChar = true := by
    rw [integerText, String.toList_ofList, if_neg (by omega), List.nil_append]
    exact all_isPlainNameChar_decimalDigits _
  simp only [Instant.stamp, String.toList_append, List.all_append, hyear,
    all_isPlainNameChar_padded, Bool.true_and]
  decide

/-- A plain name. It is a name in a path, and leads neither nowhere nor back. -/
structure IsPlainName (name : String) : Prop where
  ne_empty : name ≠ ""
  all_plain : name.toList.all isPlainNameChar = true

theorem IsPlainName.ne_of_not_plain {name other : String} (h : IsPlainName name)
    (hother : other.toList.all isPlainNameChar = false) : name ≠ other := by
  rintro rfl
  rw [h.all_plain] at hother
  cases hother

theorem IsPlainName.namesOf_eq {name : String} (h : IsPlainName name) :
    FilePath.namesOf name = [name] := by
  have hslash : ∀ c ∈ name.toList, (c == '/') = false := by
    intro c hc
    have hplain := List.all_eq_true.1 h.all_plain c hc
    rw [beq_eq_false_iff_ne]
    rintro rfl
    exact absurd hplain (by decide)
  have hdot : name ≠ "." := h.ne_of_not_plain (by decide)
  rw [FilePath.namesOf, Text.pieces_of_all hslash]
  simp [h.ne_empty, hdot]

theorem isPlainName_directoryName (p : Package) {now : Instant} (h : 0 < now.calendar.year) :
    IsPlainName (p.directoryName now) where
  ne_empty hempty := by
    have hchars := congrArg String.toList hempty
    simp [directoryName] at hchars
  all_plain := by
    simp only [directoryName, String.toList_append, List.all_append, all_isPlainNameChar_name,
      all_isPlainNameChar_stamp h]
    decide

end Package

namespace Delivery

open Package (File fileNames IsPlainName)

variable {d : Delivery} {p : Package} {now : Instant} {output : Option String}
  {directory : FilePath} {files : List File} {name : String} {refusals : List (Option FileFault)}

/-- What a delivery to a directory of this name below another one may change: the eight
files there, and directories on the way to them. -/
structure Confined (before after : FileTree) (directory : FilePath) (name : String) : Prop where
  files : ∀ l, after.fileAt? l ≠ before.fileAt? l →
    ∃ file ∈ fileNames, l = directory.location ++ name :: FilePath.namesOf file
  nodes : ∀ l, after.node? l ≠ before.node? l → directory.Passes l ∨
    ∃ file ∈ fileNames, ∃ below, below <+: FilePath.namesOf file ∧
      l = directory.location ++ name :: below

theorem tree_write (d : Delivery) (directory : FilePath) (files : List File)
    (refusals : List (Option FileFault)) :
    (d.write directory files refusals).2.tree =
      (Disk.placeAll directory ⟨d.tree, refusals⟩ (placed files)).1.tree := by
  rw [write_eq]
  cases Disk.placeAll directory ⟨d.tree, refusals⟩ (placed files) with
  | mk after outcome => cases outcome <;> rfl

/-- A delivery changes nothing, or it writes the files of the package to its directory. -/
theorem attempt_cases (d : Delivery) (p : Package) (now : Instant) (output : Option String)
    (refusals : List (Option FileFault)) :
    (d.attempt p now output refusals).2 = d ∨
      ∃ directory files, p.directory now output = .ok directory ∧ p.files = .ok files ∧
        (d.attempt p now output refusals).2 = (d.write directory files refusals).2 := by
  rw [attempt]
  cases hpackage : d.package p now output refusals with
  | error error => exact .inl rfl
  | ok outcome =>
    obtain ⟨directory, hdirectory, hrest⟩ := exists_of_bind_eq_ok hpackage
    obtain ⟨files, hmapped, hrest⟩ := exists_of_bind_eq_ok hrest
    have hfiles : p.files = .ok files := by
      cases hfiles : p.files with
      | error error =>
        rw [hfiles] at hmapped
        cases hmapped
      | ok files' =>
        rw [hfiles] at hmapped
        exact congrArg _ (Except.ok.inj hmapped)
    split at hrest
    · exact .inl (by rw [← Except.ok.inj hrest])
    · split at hrest
      · cases hrest
      · exact .inr ⟨directory, files, hdirectory, hfiles, by rw [← Except.ok.inj hrest]⟩

theorem exists_directory_eq (houtput : output.filter (· ≠ "") = none)
    (hdirectory : p.directory now output = .ok directory) :
    ∃ text, p.defaults.outputDirectory = .string text ∧
      directory = (FilePath.ofText text).child (p.directoryName now) := by
  rw [Package.directory, houtput] at hdirectory
  dsimp only at hdirectory
  split at hdirectory
  · next text htext => exact ⟨text, htext, (Except.ok.inj hdirectory).symm⟩
  · cases hdirectory

theorem dots_notMem_namesOf {file : String} (hfile : file ∈ fileNames) :
    ".." ∉ FilePath.namesOf file := by
  have hall : ∀ file ∈ fileNames, ".." ∉ FilePath.namesOf file := by decide
  exact hall file hfile

theorem location_child_of_isPlainName (hname : IsPlainName name) (directory : FilePath) :
    (directory.child name).location = directory.location ++ [name] := by
  have hdots : ".." ∉ FilePath.namesOf name := by
    rw [hname.namesOf_eq, List.mem_singleton]
    exact (hname.ne_of_not_plain (by decide)).symm
  rw [FilePath.location_child hdots, hname.namesOf_eq]

/-- On the way to a file is the way to the directory that the plain name is below. -/
theorem passes_cases (hname : IsPlainName name) {file : String} (hfile : file ∈ fileNames)
    {l : Location} (h : ((directory.child name).child file).Passes l) :
    directory.Passes l ∨ ∃ below, below <+: FilePath.namesOf file ∧
      l = directory.location ++ name :: below := by
  have hpath : (directory.child name).child file =
      { directory with names := directory.names ++ name :: FilePath.namesOf file } := by
    simp [FilePath.child, hname.namesOf_eq]
  have hdots : ".." ∉ name :: FilePath.namesOf file := by
    rw [List.mem_cons, not_or]
    exact ⟨(hname.ne_of_not_plain (by decide)).symm, dots_notMem_namesOf hfile⟩
  rw [hpath] at h
  rcases h.cases hdots with hpasses | ⟨below, hbelow, rfl⟩
  · exact .inl hpasses
  · cases below with
    | nil =>
      rw [List.append_nil]
      exact .inl directory.passes_location
    | cons first below =>
      obtain ⟨rfl, hrest⟩ := List.cons_prefix_cons.1 hbelow
      exact .inr ⟨below, hrest, rfl⟩

/-- Writing the files of a package to a directory with a plain name. -/
theorem confined_write (hfiles : p.files = .ok files) (hname : IsPlainName name) (d : Delivery)
    (directory : FilePath) (refusals : List (Option FileFault)) :
    Confined d.tree (d.write (directory.child name) files refusals).2.tree directory name := by
  have hplaced {file : File} (hfile : file ∈ placed files) : file.1 ∈ fileNames := by
    have hprefix := map_fst_placed files
    rw [Package.map_fst_of_files hfiles] at hprefix
    exact hprefix.subset (List.mem_map_of_mem hfile)
  rw [tree_write]
  constructor
  · intro l hl
    cases hplace : Disk.placeAll (directory.child name) ⟨d.tree, refusals⟩ (placed files) with
    | mk after outcome =>
      rw [hplace] at hl
      obtain ⟨written, rest, -, hsplit, -, hgains, -⟩ :=
        Disk.exists_of_placeAll (nodup_placed hfiles _) hplace
      by_contra hno
      push Not at hno
      refine hl (hgains.others l fun file hfile heq => ?_)
      have hfile := hplaced (hsplit ▸ List.mem_append_left rest hfile)
      rw [FilePath.location_child (dots_notMem_namesOf hfile), location_child_of_isPlainName hname,
        List.append_assoc, List.singleton_append] at heq
      exact hno file.1 hfile heq
  · intro l hl
    obtain ⟨file, hfile, hpasses⟩ := Disk.exists_passes_of_placeAll hl
    exact (passes_cases hname (hplaced hfile) hpasses).imp_right fun hbelow =>
      ⟨file.1, hplaced hfile, hbelow⟩

/-- Without a directory of its own, a delivery stays below the output directory. -/
theorem confined_attempt (hnow : 0 < now.calendar.year) (houtput : output.filter (· ≠ "") = none)
    (d : Delivery) (p : Package) (refusals : List (Option FileFault)) :
    (d.attempt p now output refusals).2.tree = d.tree ∨
      ∃ text, p.defaults.outputDirectory = .string text ∧
        Confined d.tree (d.attempt p now output refusals).2.tree (.ofText text)
          (p.directoryName now) := by
  rcases attempt_cases d p now output refusals with hsame | ⟨directory, files, hdirectory, hfiles, hwrite⟩
  · rw [hsame]
    exact .inl rfl
  · obtain ⟨text, htext, rfl⟩ := exists_directory_eq houtput hdirectory
    rw [hwrite]
    exact .inr ⟨text, htext, confined_write hfiles (p.isPlainName_directoryName hnow) d _ _⟩

end Delivery

namespace Service

variable {defaults : Package.Defaults} {now : Instant} {endpoint : Endpoint} {request : Request}
  {format : Option String} {response : Response}

/-- An archive has a name of the characters of plain names. Other answers have none. -/
def Response.isPlainlyNamed : Response → Bool
  | .archive name _ => name.toList.all Package.isPlainNameChar
  | _ => true

theorem Response.toList_disposition (name : String) : (disposition name).toList =
    "attachment; filename=\"".toList ++ name.toList ++ ".zip\"".toList := by
  unfold disposition
  rw [String.toList_append, String.toList_append]

/-- An outcome that is an answer is plainly named. -/
def NamesPlainly (outcome : Except ServiceError Response) : Prop :=
  ∀ response, outcome = .ok response → response.isPlainlyNamed = true

theorem namesPlainly_ok (h : response.isPlainlyNamed = true) : NamesPlainly (.ok response) := by
  intro other hother
  rwa [← Except.ok.inj hother]

theorem namesPlainly_error (error : ServiceError) : NamesPlainly (.error error) := by
  intro response h
  cases h

theorem isPlainlyNamed_archiveResponse (p : Package) :
    (archiveResponse p).isPlainlyNamed = true := by
  unfold archiveResponse
  split
  · rfl
  · split
    · rfl
    · exact p.all_isPlainNameChar_name

theorem isPlainlyNamed_packageResponse (p : Package) :
    (packageResponse p).isPlainlyNamed = true := by
  unfold packageResponse
  split <;> rfl

theorem namesPlainly_formFailure (charset : String) (fault : FormFault) :
    NamesPlainly (formFailure charset fault) := by
  cases fault with
  | excessive => exact namesPlainly_ok rfl
  | multipart fault => exact namesPlainly_ok rfl
  | _ => exact namesPlainly_error _

/-- A request is refused with an answer that is not an archive. -/
theorem isPlainlyNamed_of_readFields {check : Body → List (String × Checked)}
    (h : readFields check request = .ok (.error response)) :
    response.isPlainlyNamed = true := by
  unfold readFields at h
  dsimp only at h
  split at h
  · cases h
  · obtain ⟨other, hother, hsame⟩ := exists_of_map_eq_ok h
    cases hsame
    exact namesPlainly_formFailure _ _ response hother
  · cases h
    rfl
  · cases h
    rfl
  · split at h
    · cases h
    · cases h
      rfl
    · cases h

theorem namesPlainly_package {reply : Package → Response}
    (hreply : ∀ p, (reply p).isPlainlyNamed = true) :
    NamesPlainly (package defaults now reply request) := by
  intro response h
  obtain ⟨outcome, hread, h⟩ := exists_of_bind_eq_ok h
  cases outcome with
  | error refused =>
    obtain rfl := Except.ok.inj h
    exact isPlainlyNamed_of_readFields hread
  | ok fields =>
    obtain rfl := Except.ok.inj h
    exact hreply _

theorem namesPlainly_compileScreen : NamesPlainly (compileScreen request) := by
  intro response h
  obtain ⟨outcome, hread, h⟩ := exists_of_bind_eq_ok h
  cases outcome with
  | error refused =>
    obtain rfl := Except.ok.inj h
    exact isPlainlyNamed_of_readFields hread
  | ok fields =>
    dsimp only at h
    split at h
    · cases h
    · obtain rfl := Except.ok.inj h
      rfl

theorem namesPlainly_answer : NamesPlainly (answer defaults now endpoint format request) := by
  unfold answer
  split_ifs
  · exact namesPlainly_ok rfl
  · exact namesPlainly_ok rfl
  · exact namesPlainly_ok rfl
  · exact namesPlainly_error _
  · cases endpoint with
    | compileScreen => exact namesPlainly_compileScreen
    | package => exact namesPlainly_package isPlainlyNamed_packageResponse
    | download => exact namesPlainly_package isPlainlyNamed_archiveResponse

theorem namesPlainly_sent {form : Format} {method : String}
    (h : response.isPlainlyNamed = true) : NamesPlainly (response.sent form method) := by
  unfold Response.sent
  split
  · split
    · exact namesPlainly_error _
    · split
      · exact namesPlainly_ok rfl
      · exact namesPlainly_ok h
  · exact namesPlainly_ok rfl
  · exact namesPlainly_ok h

theorem namesPlainly_answerNamed {name : String} :
    NamesPlainly (answerNamed defaults now endpoint format name request) := by
  unfold answerNamed
  split
  · exact namesPlainly_sent rfl
  · intro response h
    obtain ⟨answered, hanswer, h⟩ := exists_of_bind_eq_ok h
    exact namesPlainly_sent (namesPlainly_answer answered hanswer) response h

theorem namesPlainly_respond (defaults : Package.Defaults) (now : Instant) (request : Request) :
    NamesPlainly (respond defaults now request) := by
  unfold respond
  dsimp only
  split
  · exact namesPlainly_ok rfl
  · unfold redirect
    split
    · exact namesPlainly_error _
    · exact namesPlainly_ok rfl
  · unfold answerIn
    dsimp only
    split
    · exact namesPlainly_formFailure _ _
    · exact namesPlainly_answerNamed
  · exact namesPlainly_answerNamed

end Service

section AppNames

open Package (IsPlainName isPlainNameChar)
open Delivery (Confined)

/-- Whatever an app is named, a package without a directory of its own is delivered to one
with a plain name, one step below the output directory. Of the files only the eight of a
package are changed, there; everything else that is changed leads to them, whatever the disk
refuses. An archive that the service sends has a plain name in quotation marks in its
header. No clock shows a time before the first year. -/
theorem app_names_stay_within {now : Instant} (hnow : 0 < now.calendar.year)
    {output : Option String} (houtput : output.filter (· ≠ "") = none) :
    (∀ p : Package, let name := p.directoryName now
      IsPlainName name ∧ FilePath.namesOf name = [name] ∧ name ≠ ".." ∧
      (∀ directory, p.directory now output = .ok directory →
        ∃ text, p.defaults.outputDirectory = .string text ∧
          directory = { FilePath.ofText text with
            names := (FilePath.ofText text).names ++ [name] }) ∧
      ∀ (d : Delivery) refusals, (d.attempt p now output refusals).2.tree = d.tree ∨
        ∃ text, p.defaults.outputDirectory = .string text ∧
          Confined d.tree (d.attempt p now output refusals).2.tree (.ofText text) name) ∧
    ∀ defaults time request name files,
      Service.respond defaults time request = .ok (.archive name files) →
        name.toList.all isPlainNameChar = true ∧
        (Service.Response.disposition name).toList =
          "attachment; filename=\"".toList ++ name.toList ++ ".zip\"".toList := by
  constructor
  · intro p name
    have hname : IsPlainName name := p.isPlainName_directoryName hnow
    refine ⟨hname, hname.namesOf_eq, hname.ne_of_not_plain (by decide), fun directory hdirectory => ?_,
      fun d refusals => Delivery.confined_attempt hnow houtput d p refusals⟩
    obtain ⟨text, htext, rfl⟩ := Delivery.exists_directory_eq houtput hdirectory
    exact ⟨text, htext, by rw [FilePath.child, hname.namesOf_eq]⟩
  · intro defaults time request name files hrespond
    exact ⟨Service.namesPlainly_respond defaults time request (.archive name files) hrespond,
      Service.Response.toList_disposition name⟩

/-- A request whose app is named like a path back to the top, and like the end of a header. -/
def strayRequest : Json :=
  .object [("deploymentInfo", .object [("appName", .string "../../etc/İ\"\r\n")])]

theorem app_names_stay_within_strayRequest :
    ∃ p : Package, p = .ofRequest Package.standardDefaults ⟨1700000000123456⟩ strayRequest ∧
      p.directoryName ⟨1700000000123456⟩ = "______etc_i_____20231114_221320" ∧
      (∀ d : Delivery, (d.attempt p ⟨1700000000123456⟩ none).2.tree.fileAt? ["etc", "passwd"] =
        d.tree.fileAt? ["etc", "passwd"]) ∧
      ∀ defaults time request name files,
        Service.respond defaults time request = .ok (.archive name files) →
          '\r' ∉ (Service.Response.disposition name).toList := by
  let p := Package.ofRequest Package.standardDefaults ⟨1700000000123456⟩ strayRequest
  have hname : p.directoryName ⟨1700000000123456⟩ = "______etc_i_____20231114_221320" := by
    decide +kernel
  have hyear : 0 < (⟨1700000000123456⟩ : Instant).calendar.year := by decide
  have houtput : (none : Option String).filter (· ≠ "") = none := rfl
  obtain ⟨hpackage, harchive⟩ := app_names_stay_within hyear houtput
  obtain ⟨-, -, -, -, hattempt⟩ := hpackage p
  refine ⟨p, rfl, hname, fun d => ?_, fun defaults time request name files hrespond => ?_⟩
  · rcases hattempt d [] with hsame | ⟨text, htext, hconfined⟩
    · rw [hsame]
    · obtain rfl : Package.Defaults.packagesDirectory = text := Json.string.inj htext
      by_contra hchanged
      obtain ⟨file, -, hl⟩ := hconfined.files _ hchanged
      have htop : (FilePath.ofText Package.Defaults.packagesDirectory).location =
          ["flutter_projects"] := by decide
      rw [htop] at hl
      exact absurd (List.cons.inj hl).1 (by decide)
  · obtain ⟨hplain, hheader⟩ := harchive defaults time request name files hrespond
    have hreturn : '\r' ∉ name.toList := fun h =>
      absurd (List.all_eq_true.1 hplain _ h) (by decide)
    rw [hheader, List.mem_append, List.mem_append, not_or, not_or]
    exact ⟨⟨by decide, hreturn⟩, by decide⟩

end AppNames

end Maquette
