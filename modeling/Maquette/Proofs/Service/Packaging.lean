import Maquette.Proofs.Document.Literals
import Maquette.Proofs.Package.Refused
import Maquette.Proofs.Service.Body
import Mathlib

/-!
# Answers of the packaging endpoints

A package is asked for in two forms, as an object of files or as an archive. A body that
is JSON always gets an answer: the complaint about it, the reason for which its package
fails, or the package. Generating the files is all that can fail for an object of files;
an archive holds bytes, so it also fails for a file whose text has no encoding.

The object of files is put together from the texts alone and is left to be encoded when
it is sent. All other answers can be sent whatever is in them.
-/

namespace Maquette.Service

variable {defaults : Package.Defaults} {now : Instant} {endpoint : Endpoint} {request : Request}
  {value : Json} {p : Package} {files : List Package.File} {response : Response} {message : String}

/-- An endpoint cannot give a package, for the reason in this message. -/
inductive Fails (endpoint : Endpoint) (p : Package) : String → Prop
  /-- The files cannot be generated. -/
  | generating {error : PackageError} (hfiles : p.files = .error error) :
    Fails endpoint p error.message
  /-- A file has no encoding, and is to go into an archive. -/
  | archiving {files : List Package.File} {file : Package.File} {fault : Text.EncodingFault}
    (hendpoint : endpoint = .download) (hfiles : p.files = .ok files) (hfile : file ∈ files)
    (hfault : Text.encodingFault? file.2.toList = some fault) :
    Fails endpoint p fault.message

/-- What an endpoint makes of a package. -/
inductive Reply (endpoint : Endpoint) (p : Package) : Response → Prop
  | failed {message : String} (h : Fails endpoint p message) :
    Reply endpoint p (packageFailure message)
  | listed {files : List Package.File} {listing : Json} (hendpoint : endpoint = .package)
    (hfiles : p.files = .ok files)
    (hlisted : listing.fieldsOrNone.get "files" =
      .object (files.map fun file => (file.1, .string file.2)))
    (hcount : listing.fieldsOrNone.get "file_count" = .integer files.length) :
    Reply endpoint p (.data 200 listing)
  | archived {files : List Package.File} (hendpoint : endpoint = .download)
    (hfiles : p.files = .ok files)
    (hencodable : ∀ file ∈ files, Text.encodingFault? file.2.toList = none) :
    Reply endpoint p (.archive p.name files)

theorem reply_packageResponse (p : Package) : Reply .package p (packageResponse p) := by
  unfold packageResponse
  split
  · next error hfiles => exact .failed (.generating hfiles)
  · next files hfiles => exact .listed rfl hfiles rfl rfl

theorem reply_archiveResponse (p : Package) : Reply .download p (archiveResponse p) := by
  unfold archiveResponse
  split
  · next error hfiles => exact .failed (.generating hfiles)
  · next files hfiles =>
    split
    · next fault hfault =>
      obtain ⟨file, hfile, hfault⟩ := List.exists_of_findSome?_eq_some hfault
      exact .failed (.archiving rfl hfiles hfile hfault)
    · next hnone => exact .archived rfl hfiles (List.findSome?_eq_none_iff.1 hnone)

/-- An answer has the status of a failure exactly if there is a reason for one. -/
theorem Reply.status_eq_iff (h : Reply endpoint p response) :
    response.status = 500 ↔ ∃ message, Fails endpoint p message := by
  cases h with
  | @failed message h => exact iff_of_true rfl ⟨message, h⟩
  | listed hendpoint hfiles hlisted hcount =>
    refine iff_of_false (by simp [Response.status]) ?_
    rintro ⟨message, ⟨hfailed⟩ | ⟨hdownload, -, -, -⟩⟩
    · cases hfiles.symm.trans hfailed
    · cases hendpoint.symm.trans hdownload
  | archived hendpoint hfiles hencodable =>
    refine iff_of_false (by simp [Response.status]) ?_
    rintro ⟨message, ⟨hfailed⟩ | ⟨-, hfiles', hfile, hfault⟩⟩
    · cases hfiles.symm.trans hfailed
    · obtain rfl := Except.ok.inj (hfiles.symm.trans hfiles')
      rw [hencodable _ hfile] at hfault
      cases hfault

theorem Reply.status_ne (h : Reply endpoint p response) : response.status ≠ 400 := by
  cases h <;> simp [Response.status, packageFailure]

theorem Reply.exists_of_status_eq (h : Reply endpoint p response) (hstatus : response.status = 500) :
    ∃ message, Fails endpoint p message ∧ response = packageFailure message := by
  cases h with
  | @failed message h => exact ⟨message, h, rfl⟩
  | listed => simp [Response.status] at hstatus
  | archived => simp [Response.status] at hstatus

theorem Reply.exists_of_status_ne (h : Reply endpoint p response) (hstatus : response.status ≠ 500) :
    response.status = 200 ∧ ∃ files, p.files = .ok files ∧
      files.map Prod.fst = Package.fileNames ∧
      (endpoint = .package → ∃ listing, response = .data 200 listing ∧
        listing.fieldsOrNone.get "files" =
          .object (files.map fun file => (file.1, .string file.2)) ∧
        listing.fieldsOrNone.get "file_count" = .integer 8) ∧
      (endpoint = .download → response = .archive p.name files) := by
  cases h with
  | failed h => exact absurd rfl hstatus
  | @listed files listing hendpoint hfiles hlisted hcount =>
    rw [Package.length_of_files hfiles] at hcount
    exact ⟨rfl, files, hfiles, Package.map_fst_of_files hfiles, fun _ => ⟨listing, rfl, hlisted, hcount⟩,
      fun hdownload => absurd (hendpoint.symm.trans hdownload) (by decide)⟩
  | @archived files hendpoint hfiles hencodable =>
    exact ⟨rfl, files, hfiles, Package.map_fst_of_files hfiles,
      fun hpackage => absurd (hendpoint.symm.trans hpackage) (by decide), fun _ => rfl⟩

theorem answer_eq_perform (h : request.Posts value) (defaults : Package.Defaults) (now : Instant)
    (endpoint : Endpoint) :
    answer defaults now endpoint none request = perform defaults now endpoint request := by
  unfold answer
  rw [h.authenticated, h.method_eq]
  rfl

theorem package_of_rejected (h : request.Posts value) {complaint : Complaint}
    (hrejected : validated Request.packageFields value = .error (.complaint complaint))
    (reply : Package → Response) :
    package defaults now reply request = .ok (.data 400 complaint.toJson) := by
  rw [package, readFields_eq h, hrejected]
  rfl

theorem package_of_accepted (h : request.Posts value) {fields : Fields}
    (haccepted : validated Request.packageFields value = .ok fields)
    (reply : Package → Response) :
    package defaults now reply request = .ok (reply (.ofRequest defaults now (.object fields))) := by
  rw [package, readFields_eq h, haccepted]
  rfl

theorem perform_of_rejected (hendpoint : endpoint ≠ .compileScreen) (h : request.Posts value)
    {complaint : Complaint}
    (hrejected : validated Request.packageFields value = .error (.complaint complaint)) :
    perform defaults now endpoint request = .ok (.data 400 complaint.toJson) := by
  cases endpoint with
  | compileScreen => exact absurd rfl hendpoint
  | package => exact package_of_rejected h hrejected _
  | download => exact package_of_rejected h hrejected _

theorem exists_reply (hendpoint : endpoint ≠ .compileScreen) (h : request.Posts value)
    {fields : Fields} (haccepted : validated Request.packageFields value = .ok fields) :
    ∃ response, perform defaults now endpoint request = .ok response ∧
      Reply endpoint (.ofRequest defaults now (.object fields)) response := by
  cases endpoint with
  | compileScreen => exact absurd rfl hendpoint
  | package => exact ⟨_, package_of_accepted h haccepted _, reply_packageResponse _⟩
  | download => exact ⟨_, package_of_accepted h haccepted _, reply_archiveResponse _⟩

/-! ## Sending an answer -/

theorem sent_eq_ok (h : ∀ status value, response = .data status value → value.isEncodable = true) :
    response.sent .json "POST" = .ok response := by
  cases response with
  | data status value =>
    have hnone : Text.encodingFault? value.compactText.toList = none := by
      rw [Text.encodingFault?_eq_none, Json.compactText, Json.isEncodable_compactText]
      exact h status value rfl
    unfold Response.sent
    simp only [hnone]
    rfl
  | _ => rfl

theorem isEncodable_packageFailure (h : Text.isEncodable message.toList = true) :
    (Json.object [("error", .string ("Packaging failed: " ++ message))]).isEncodable = true := by
  have hmessage : Text.isEncodable ("Packaging failed: " ++ message).toList = true :=
    (congrArg Text.isEncodable String.toList_append).trans
      ((Text.isEncodable_append (Text.not_isReserved_of_isBelowHalves (by decide)) _).trans h)
  change (Text.isEncodable "error".toList && (Text.isEncodable _ && true)) = true
  rw [hmessage]
  decide

theorem isEncodable_encodingFault (fault : Text.EncodingFault) :
    Text.isEncodable fault.message.toList = true := by
  have hinteger (n : Int) : Text.isBelowHalves (integerText n).toList = true :=
    Text.isBelowHalves_of_all (all_isWordChar_integerText n)
  refine Text.isEncodable_of_isBelowHalves (Text.isBelowHalves_toList_append
    (Text.isBelowHalves_toList_append (by decide) ?_) (by decide))
  split
  · have hhex : Text.isBelowHalves (String.ofList (Text.hex 4 fault.half)).toList = true := by
      rw [String.toList_ofList]
      exact Text.isBelowHalves_hex 4 fault.half
    exact Text.isBelowHalves_toList_append (Text.isBelowHalves_toList_append
      (Text.isBelowHalves_toList_append (by decide) hhex) (by decide)) (hinteger _)
  · exact Text.isBelowHalves_toList_append (Text.isBelowHalves_toList_append
      (Text.isBelowHalves_toList_append (by decide) (hinteger _)) (by decide)) (hinteger _)

/-- The reason for which the package of a request fails can be told in any answer. -/
theorem Fails.isEncodable {request : Json}
    (h : Fails endpoint (Package.ofRequest defaults now request) message) :
    Text.isEncodable message.toList = true := by
  cases h with
  | @generating error hfiles =>
    obtain ⟨error, rfl, hcode⟩ := Package.mainCode_of_files_eq_error hfiles
    obtain ⟨first, -, hrefused⟩ := Package.failsOnly_mainCode defaults now request error hcode
    cases error with
    | notNumeric text => exact hrefused.elim
    | wrongType typeName => exact hrefused.elim
    | _ => decide
  | archiving => exact isEncodable_encodingFault _

theorem respond_eq (h : request.Posts value) (hroute : request.target.route = .endpoint endpoint)
    (hformat : request.target.queryFormat? request.charset.2 = .ok none) :
    respond defaults now request =
      answer defaults now endpoint none request >>= fun response => response.sent .json "POST" := by
  have hupper : "POST".toUpper = "POST" := by
    rw [String.toUpper, ← String.toList_inj, String.toList_map]
    rfl
  have hsame : { request with method := request.method.toUpper } = request := by
    rw [h.method_eq, hupper, ← h.method_eq]
  unfold respond
  simp only [hsame, hroute]
  rw [answerIn]
  simp only [hformat]
  rw [Option.getD_none, answerNamed, show Format.ofName? "json" = some .json from rfl, h.method_eq]

theorem respond_eq_ok (h : request.Posts value)
    (hroute : request.target.route = .endpoint endpoint)
    (hformat : request.target.queryFormat? request.charset.2 = .ok none)
    (hanswer : answer defaults now endpoint none request = .ok response)
    (hencodable : ∀ status value, response = .data status value → value.isEncodable = true) :
    respond defaults now request = .ok response := by
  rw [respond_eq h hroute hformat, hanswer]
  exact sent_eq_ok hencodable

theorem Reply.isEncodable {request : Json}
    (h : Reply endpoint (.ofRequest defaults now request) response)
    (hlisting : ∀ listing, response = .data 200 listing → listing.isEncodable = true) :
    ∀ status value, response = .data status value → value.isEncodable = true := by
  intro status value hvalue
  cases h with
  | failed h =>
    cases hvalue
    exact isEncodable_packageFailure h.isEncodable
  | listed =>
    cases hvalue
    exact hlisting _ rfl
  | archived => cases hvalue

/-- A post of JSON to a packaging endpoint is always answered. The answer is the complaint
exactly if the body is refused, and the reason of the failure exactly if the files cannot
be generated or, for an archive, one of them has no encoding. Otherwise it is the package,
as the same files in both forms. The answer is sent as it is, an object of files if
everything in it has an encoding. -/
theorem answer_packaging (defaults : Package.Defaults) (now : Instant)
    (hendpoint : endpoint ≠ .compileScreen) (h : request.Posts value) :
    ∃ response, answer defaults now endpoint none request = .ok response ∧
      (response.status = 400 ↔ (validated Request.packageFields value).isOk = false) ∧
      (∀ complaint, validated Request.packageFields value = .error (.complaint complaint) →
        response = .data 400 complaint.toJson) ∧
      (∀ fields, validated Request.packageFields value = .ok fields →
        let p := Package.ofRequest defaults now (.object fields)
        (response.status = 500 ↔ ∃ message, Fails endpoint p message) ∧
        (response.status = 500 → ∃ message, Fails endpoint p message ∧
          response = packageFailure message) ∧
        (response.status ≠ 500 → response.status = 200 ∧
          ∃ files, p.files = .ok files ∧ files.map Prod.fst = Package.fileNames ∧
            (endpoint = .package → ∃ listing, response = .data 200 listing ∧
              listing.fieldsOrNone.get "files" =
                .object (files.map fun file => (file.1, .string file.2)) ∧
              listing.fieldsOrNone.get "file_count" = .integer 8) ∧
            (endpoint = .download → response = .archive p.name files))) ∧
      (request.target.route = .endpoint endpoint →
        request.target.queryFormat? request.charset.2 = .ok none →
        (∀ listing, response = .data 200 listing → listing.isEncodable = true) →
          respond defaults now request = .ok response) := by
  have hanswer := answer_eq_perform h defaults now endpoint
  cases hvalidated : validated Request.packageFields value with
  | error rejection =>
    have hsendable := failsOnly_validated value rejection hvalidated
    cases rejection with
    | tooDeep isObject => exact hsendable.elim
    | complaint complaint =>
      rw [perform_of_rejected hendpoint h hvalidated] at hanswer
      refine ⟨_, hanswer, iff_of_true rfl rfl, ?_, ?_, ?_⟩
      · intro other hother
        cases hother
        rfl
      · intro fields hfields
        cases hfields
      · intro hroute hformat _
        refine respond_eq_ok h hroute hformat hanswer ?_
        intro status value hvalue
        cases hvalue
        exact hsendable
  | ok fields =>
    obtain ⟨response, hperform, hreply⟩ := exists_reply hendpoint h hvalidated
    rw [hperform] at hanswer
    refine ⟨response, hanswer, iff_of_false hreply.status_ne (by simp), ?_, ?_, ?_⟩
    · intro complaint hcomplaint
      cases hcomplaint
    · intro fields' hfields
      cases hfields
      exact ⟨hreply.status_eq_iff, hreply.exists_of_status_eq, hreply.exists_of_status_ne⟩
    · intro hroute hformat hlisting
      exact respond_eq_ok h hroute hformat hanswer (hreply.isEncodable hlisting)

/-- An answer with a text that has no encoding is lost when it is sent. -/
theorem respond_of_unencodable (h : request.Posts value)
    (hroute : request.target.route = .endpoint endpoint)
    (hformat : request.target.queryFormat? request.charset.2 = .ok none) {status : Nat}
    {listing : Json} (hanswer : answer defaults now endpoint none request = .ok (.data status listing))
    (hlost : listing.isEncodable = false) :
    ∃ fault, Text.encodingFault? listing.compactText.toList = some fault ∧
      respond defaults now request = .error (.unencodable fault) := by
  obtain ⟨fault, hfault⟩ : ∃ fault, Text.encodingFault? listing.compactText.toList = some fault := by
    rw [← Option.ne_none_iff_exists', Ne, Text.encodingFault?_eq_none, Json.compactText,
      Json.isEncodable_compactText, hlost]
    decide
  refine ⟨fault, hfault, ?_⟩
  rw [respond_eq h hroute hformat, hanswer]
  simp only [bind, Except.bind, Response.sent, hfault]

/-- An object of files is an answer whatever is in the files. But if the text of one of them has
no encoding, then this answer is lost when it is sent, and neither the files nor a reason get
to whoever has asked. -/
theorem respond_package_of_unencodable (defaults : Package.Defaults) (now : Instant)
    (h : request.Posts value) (hroute : request.target.route = .endpoint .package)
    (hformat : request.target.queryFormat? request.charset.2 = .ok none) {fields : Fields}
    (haccepted : validated Request.packageFields value = .ok fields)
    (hfiles : (Package.ofRequest defaults now (.object fields)).files = .ok files)
    {file : Package.File} (hfile : file ∈ files)
    (hlost : Text.isEncodable file.2.toList = false) :
    (∃ response, answer defaults now .package none request = .ok response ∧
      response.status = 200) ∧
    ∃ fault, respond defaults now request = .error (.unencodable fault) := by
  obtain ⟨listing, hlisting, hcontent⟩ : ∃ listing,
      packageResponse (.ofRequest defaults now (.object fields)) = .data 200 listing ∧
        listing.isEncodable = false := by
    have hcontent : (Json.string file.2).isEncodable = false := by rwa [Json.isEncodable]
    have hfield : (Json.object (files.map fun file => (file.1, .string file.2))).isEncodable =
        false := Json.isEncodable_eq_false_of_mem (List.mem_map_of_mem hfile) hcontent
    refine ⟨_, by rw [packageResponse, hfiles], @Json.isEncodable_eq_false_of_mem _ "files" _ ?_ hfield⟩
    exact .tail _ (.tail _ (.tail _ (.tail _ (.head _))))
  have hanswer : answer defaults now .package none request = .ok (.data 200 listing) := by
    rw [answer_eq_perform h, ← hlisting]
    exact package_of_accepted h haccepted packageResponse
  obtain ⟨fault, -, hrespond⟩ := respond_of_unencodable h hroute hformat hanswer hcontent
  exact ⟨⟨_, hanswer, rfl⟩, fault, hrespond⟩

/-- The fields of a body with a screen that shows a half of a pair. -/
def lostFields : Fields := [
  ("template", .object [
    ("screens", .array [Document.oneText (String.ofList [Text.halfChar 0xd800])])]),
  ("deploymentInfo", .object [("appName", .string "A")])]

/-- A post of these fields. -/
def lostRequest : Request where
  target := ⟨"download/".toList, []⟩
  method := "POST"
  authenticated := true
  contentType := ⟨"application/json", ⟨"application/json".toList, []⟩, none⟩
  content := (Json.object lostFields).compact

theorem posts_lostRequest : lostRequest.Posts (.object lostFields) where
  authenticated := rfl
  method_eq := rfl
  covers_json := rfl
  content_ne_nil := by decide +kernel
  reads := by
    have hdecoded : ((Charset.utf8 false).decodeStream
        (Text.encode lostRequest.content.toList)).toOption =
          some (Json.object lostFields).compact.toList := by decide +kernel
    refine ⟨.utf8 false, _, rfl, eq_ok_of_toOption hdecoded, ?_⟩
    rw [String.ofList_toList]
    cbv

theorem validated_lostFields :
    validated Request.packageFields (.object lostFields) = .ok lostFields := rfl

/-- The files of the package are there, but the code of its home screen has no encoding. -/
theorem exists_files_lostFields (defaults : Package.Defaults) (now : Instant) :
    ∃ files, (Package.ofRequest defaults now (.object lostFields)).files = .ok files ∧
      ∃ file ∈ files, ∃ fault, Text.encodingFault? file.2.toList = some fault := by
  let text := String.ofList [Text.halfChar 0xd800]
  let screen := Screen.ofValue (Document.oneText text)
  obtain ⟨document, hdocument⟩ :=
    Document.exists_of_isReadable (.string "A") (Document.oneText text) (by decide)
  have hcode : (Package.ofRequest defaults now (.object lostFields)).mainCode =
      .ok document.code := by
    change (Document.ofScreen (.string "A") screen).map (·.code) = _
    rw [show Document.ofScreen (.string "A") screen = .ok document from hdocument]
    rfl
  have hshown : screen.shownTexts (.string "A") =
      [(0, "package:flutter/material.dart"), (0, "A"), (18, text)] := by decide
  have hmem : (18, text) ∈ screen.shownTexts (.string "A") := by
    rw [hshown]
    simp
  have hquoted : Dart.quotedChars (Text.reflow 18 text.toList) =
      ['\'', Text.halfChar 0xd800, '\''] := by decide
  have hliteral := Document.infix_code_of_mem_shownTexts hdocument hmem
  rw [hquoted] at hliteral
  have hhalf : ['\'', Text.halfChar 0xd800] <:+: document.code.toList :=
    (List.prefix_append _ ['\'']).isInfix.trans hliteral
  obtain ⟨_, _, _, _, _, _, -, -, -, -, -, -, hfiles⟩ :=
    (Package.ofRequest defaults now (.object lostFields)).exists_files_eq
  rw [hcode] at hfiles
  refine ⟨_, hfiles, ("lib/main.dart", document.code), by simp, ?_⟩
  rw [← Option.isSome_iff_exists, Option.isSome_iff_ne_none]
  intro hnone
  have hlost : Text.half? (Text.halfChar 0xd800) = some 0xd800 := by decide
  rw [Text.encodingFault?_eq_none,
    Text.isEncodable_eq_false_of_infix (by decide) hlost hhalf] at hnone
  cases hnone

/-- An archive of this package fails although its files can be generated. -/
theorem status_archive_lostRequest :
    ∃ d defaults files response, Deployment.ofEnvironment "/srv" [] = .ok d ∧
      Package.Defaults.ofSettings d.settings [] = .ok defaults ∧
      lostRequest.Posts (.object lostFields) ∧
      validated Request.packageFields (.object lostFields) = .ok lostFields ∧
      (Package.ofRequest defaults ⟨0⟩ (.object lostFields)).files = .ok files ∧
      answer defaults ⟨0⟩ .download none lostRequest = .ok response ∧ response.status = 500 := by
  obtain ⟨d, hd⟩ : ∃ d, Deployment.ofEnvironment "/srv" [] = .ok d :=
    (exists_eq_ok_iff _).2 (by decide)
  obtain ⟨defaults, hdefaults⟩ := d.exists_defaults []
  obtain ⟨files, hfiles, file, hfile, fault, hfault⟩ := exists_files_lostFields defaults ⟨0⟩
  obtain ⟨response, hperform, hreply⟩ :
      ∃ response, perform defaults ⟨0⟩ .download lostRequest = .ok response ∧
        Reply .download (.ofRequest defaults ⟨0⟩ (.object lostFields)) response :=
    exists_reply (by decide) posts_lostRequest validated_lostFields
  have hanswer := answer_eq_perform posts_lostRequest defaults ⟨0⟩ .download
  refine ⟨d, defaults, files, response, hd, hdefaults, posts_lostRequest, validated_lostFields,
    hfiles, hanswer.trans hperform, hreply.status_eq_iff.2 ?_⟩
  exact ⟨_, .archiving rfl hfiles hfile hfault⟩

/-- An object of files takes the same files as they are. -/
theorem answer_packaging_lostRequest :
    ∃ d defaults response, Deployment.ofEnvironment "/srv" [] = .ok d ∧
      Package.Defaults.ofSettings d.settings [] = .ok defaults ∧
      answer defaults ⟨0⟩ .package none lostRequest = .ok response ∧ response.status = 200 := by
  obtain ⟨d, hd⟩ : ∃ d, Deployment.ofEnvironment "/srv" [] = .ok d :=
    (exists_eq_ok_iff _).2 (by decide)
  obtain ⟨defaults, hdefaults⟩ := d.exists_defaults []
  obtain ⟨files, hfiles, -⟩ := exists_files_lostFields defaults ⟨0⟩
  have hendpoint : Endpoint.package ≠ .compileScreen := by decide
  obtain ⟨response, hanswer, -, -, haccepted, -⟩ :=
    answer_packaging defaults ⟨0⟩ hendpoint posts_lostRequest
  obtain ⟨hfails, -, hdelivers⟩ := haccepted lostFields validated_lostFields
  refine ⟨d, defaults, response, hd, hdefaults, hanswer, (hdelivers fun hstatus => ?_).1⟩
  obtain ⟨message, ⟨herror⟩ | ⟨hdownload, -, -, -⟩⟩ := hfails.1 hstatus
  · cases hfiles.symm.trans herror
  · cases hdownload

/-- But the object never gets to whoever has asked for it. -/
theorem respond_package_lostRequest (defaults : Package.Defaults) :
    ∃ fault, respond defaults ⟨0⟩ { lostRequest with target := ⟨"package/".toList, []⟩ } =
      .error (.unencodable fault) := by
  obtain ⟨files, hfiles, file, hfile, fault, hfault⟩ := exists_files_lostFields defaults ⟨0⟩
  have hlost : Text.isEncodable file.2.toList = false := by
    rw [Bool.eq_false_iff, Ne, ← Text.encodingFault?_eq_none, hfault]
    exact nofun
  have hposts : { lostRequest with target := ⟨"package/".toList, []⟩ }.Posts (.object lostFields) :=
    { posts_lostRequest with }
  exact (respond_package_of_unencodable defaults ⟨0⟩ hposts rfl rfl validated_lostFields hfiles
    hfile hlost).2

end Maquette.Service
