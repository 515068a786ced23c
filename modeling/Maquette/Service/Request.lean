import Maquette.Service.Field
import Maquette.Service.Target

/-!
# Requests

A request to the service, and what the bodies of requests have to hold. The
service reads a body only as far as it has to: the screens of a template are of
any shape.

A body is read in the way that its content type tells, and in the character set
that the content type names. `Request.body` gives what it is read as: its fields, or
the reason why it is refused. A request with a content type that cannot be read is
none.
-/

namespace Maquette.Service

/-- A content type: the text in which it is given, its value, and the character set
that it names. A name that is not known is as good as none. -/
structure ContentType where
  text : String
  value : HeaderValue
  charset : Option (String × Charset)

def ContentType.ofText (text : String) : Except HeaderFault ContentType := do
  let value ← HeaderValue.ofText text.toList
  match value.parameter "charset" with
  | none => return ⟨text, value, none⟩
  | some name =>
    if '\x00' ∈ name then throw .nullCharacter
    let name := String.ofList name
    return ⟨text, value, (Charset.ofName? name).map (name, ·)⟩

/-- A request. -/
structure Request where
  target : Target
  method : String
  authenticated : Bool
  contentType : ContentType
  content : String

/-- Why the body of a request is refused before its fields are checked. -/
inductive BodyFault
  /-- The service does not read bodies of this type. -/
  | unsupported (contentType : String)
  /-- The content type names a character set that no text has. -/
  | charset (name : String)
  /-- The body is not the JSON that it is said to be. -/
  | notJson
  | multipart (fault : MultipartFault)
deriving DecidableEq

namespace BodyFault

def message : BodyFault → String
  | unsupported contentType => "Unsupported media type \"" ++ contentType ++ "\" in request."
  | charset name => "Unsupported charset \"" ++ name ++ "\" in request Content-Type header."
  | notJson => "JSON parse error"
  | multipart fault => "Multipart form parse error - " ++ fault.message

def status : BodyFault → Nat
  | unsupported _ => 415
  | _ => 400

end BodyFault

/-- What the body of a request is read as. -/
inductive Content
  | body (body : Body)
  | complaint (complaint : Complaint)
  | refused (fault : BodyFault)
  /-- The body is JSON that nests too deep. -/
  | tooDeep (isObject : Bool)
  /-- The body is a form that the service does not read at all. -/
  | broken (fault : FormFault)

namespace Request

def readTypes : List String :=
  ["application/json", "application/x-www-form-urlencoded", "multipart/form-data"]

/-- The character set in which a request is written, with its name. -/
def charset (request : Request) : String × Charset :=
  request.contentType.charset.getD ("utf-8", .utf8 false)

/-- The character set of a body, if a text can be written in it. -/
def bodyCharset (request : Request) : Except BodyFault Charset :=
  match request.charset with
  | (name, .binary) | (name, .undefined) => .error (.charset name)
  | (_, charset) => .ok charset

/-- The body that JSON gives. -/
def jsonContent (charset : Charset) (content : List UInt8) : Content :=
  match charset.decodeStream content with
  | .error _ => .refused .notJson
  | .ok text =>
    match Json.readWithin (.outside nestingLimit) .standard (String.ofList text) with
    | .error (.tooDeep isObject) => .tooDeep isObject
    | .error _ => .refused .notJson
    | .ok value =>
      match Body.ofValue value with
      | .ok body => .body body
      | .error complaint => .complaint complaint

def formContent : Except FormFault Form → Content
  | .ok form => .body (.form form)
  | .error (.multipart fault) => .refused (.multipart fault)
  | .error fault => .broken fault

/-- The body of a request. Nothing at all reads as an object without fields. -/
def body (request : Request) : Content :=
  let bytes := Text.encode request.content.toList
  let type := request.contentType.value
  let inCharset (read : Charset → Content) : Content :=
    match request.bodyCharset with
    | .ok charset => read charset
    | .error fault => .refused fault
  if bytes.isEmpty then .body (.fields [])
  else if type.covers "application" "json" then inCharset (jsonContent · bytes)
  else if type.covers "application" "x-www-form-urlencoded" then
    inCharset fun charset => formContent (Form.ofEncoded charset bytes)
  else if type.covers "multipart" "form-data" then
    inCharset fun charset =>
      formContent (Form.ofMultipart charset request.contentType.text type bytes)
  else .refused (.unsupported request.contentType.text)

def deploymentFields (body : Body) : List (String × Checked) :=
  let field (name : String) (rule : TextRule) := (name, rule.check (body.given? name))
  [ field "appName" { required := true, allowsBlank := false, limit := some 100 },
    field "bundleId" { limit := some 155 },
    field "version" { limit := some 20 },
    field "buildNumber" { limit := some 20 },
    field "appIcon" { allowsNull := true } ]

def packageFields (body : Body) : List (String × Checked) :=
  let field (name : String) (rule : TextRule) := (name, rule.check (body.given? name))
  [ ("template", checkObject (body.given? "template")),
    ("deploymentInfo", checkNested deploymentFields "deploymentInfo" body),
    field "projectId" { allowsNull := true },
    field "templateId" { allowsNull := true } ]

def screenFields (body : Body) : List (String × Checked) :=
  let appNameRule : TextRule := { allowsNull := true, limit := some 100 }
  [ ("screen", checkAny (body.given? "screen")),
    ("appName", appNameRule.check (body.given? "appName")) ]

end Request

end Maquette.Service
