import Maquette.Json.Printer
import Maquette.Package.Basic
import Maquette.Service.Request

/-!
# The packaging service

The service compiles a screen, or packages an app as an object of files or as an
archive. A request is refused for the first of these reasons: its path leads
nowhere, the format that it asks for is not known, nobody is logged in, its
method is not the one for asking, its body cannot be read, or the fields of its
body are not as they have to be. A request for the options of an endpoint is
answered with its description.

A package that cannot be generated is answered with the reason. Compiling a
screen has no such answer, so there the error leaves the service, and so does the
error of an answer that has no encoding.
-/

namespace Maquette.Service

/-- An answer. -/
inductive Response
  /-- A value, with its status. -/
  | data (status : Nat) (value : Json)
  /-- A value of which only the status and the type are sent. -/
  | bare (status : Nat)
  /-- The files of a package, with the name of the archive. -/
  | archive (name : String) (files : List Package.File)
  /-- A page to look at. -/
  | page (status : Nat)

namespace Response

def status : Response → Nat
  | data status _ => status
  | bare status => status
  | archive _ _ => 200
  | page status => status

def contentType : Response → String
  | data _ _ => "application/json"
  | bare _ => "application/json"
  | archive _ _ => "application/zip"
  | page _ => "text/html; charset=utf-8"

/-- The header that names the file in which an archive is kept. -/
def disposition (name : String) : String :=
  "attachment; filename=\"" ++ name ++ ".zip\""

/-- The answer to a request that is refused before its fields are read. -/
def refusal (status : Nat) (detail : String) : Response :=
  .data status (.object [("detail", .string detail)])

end Response

/-- An error that leaves the service. -/
inductive ServiceError
  /-- A screen cannot be compiled. -/
  | number (error : NumberError)
  /-- The slash at the end of the path is missing, where sending the request
  again would lose its body. -/
  | unslashed (method address : String)
  /-- An endpoint of this name does not take a format in its path. -/
  | formatInPath (endpoint : String)
  /-- The body nests too deep. -/
  | tooDeep (isObject : Bool)
  /-- A header cannot be read. -/
  | header (fault : HeaderFault)
  /-- A form has no text in the character set of this name. -/
  | unreadable (name : String) (fault : Charset.Fault)
  /-- The answer has no encoding. -/
  | unencodable (fault : Text.EncodingFault)
deriving DecidableEq

def ServiceError.message : ServiceError → String
  | number error => error.message
  | unslashed method address =>
    "You called this URL via " ++ method ++ ", but the URL doesn't end in a slash and you have " ++
      "APPEND_SLASH set. Django can't redirect to the slash URL while maintaining " ++ method ++
      " data. Change your form to point to " ++ address ++ " (note the trailing slash), or set " ++
      "APPEND_SLASH=False in your Django settings."
  | formatInPath endpoint =>
    "PackagerViewSet." ++ endpoint ++ "() got an unexpected keyword argument 'format'"
  | tooDeep isObject => Json.tooDeepMessage isObject
  | header fault => fault.message
  | unreadable name fault => fault.message name
  | unencodable fault => fault.message

namespace Endpoint

/-- The name of what an endpoint does. -/
def action : Endpoint → String
  | compileScreen => "compile_screen"
  | package => "package"
  | download => "download"

/-- The name of an endpoint in its description. -/
def title : Endpoint → String
  | compileScreen => "Compile screen"
  | package => "Package"
  | download => "Download"

/-- What the description of an endpoint says. -/
def summary : Endpoint → String
  | compileScreen =>
    "Compile a single screen to lib/main.dart\n\n" ++
    "Request body:\n\x7b\n" ++
    "    \"screen\": \x7b...\x7d,      // raw screen JSON from the builder\n" ++
    "    \"appName\": \"My App\"   // optional, used for titles\n\x7d"
  | package => "Generate every file of the Flutter project"
  | download => "Download the generated Flutter project as ZIP"

def description (endpoint : Endpoint) : Json :=
  .object [
    ("name", .string endpoint.title),
    ("description", .string endpoint.summary),
    ("renders", .array [.string "application/json", .string "text/html"]),
    ("parses", .array (Request.readTypes.map .string))]

end Endpoint

/-- A form that cannot be read, as an answer or as an error that leaves the
service. -/
def formFailure (charsetName : String) : FormFault → Except ServiceError Response
  | .excessive => .ok (.page 400)
  | .unreadable fault => .error (.unreadable charsetName fault)
  | .header fault => .error (.header fault)
  | .multipart fault =>
    let fault := BodyFault.multipart fault
    .ok (.refusal fault.status fault.message)

/-- The fields of a body that are passed on, an answer that refuses it, or an error
that leaves the service. -/
def readFields (check : Body → List (String × Checked)) (request : Request) :
    Except ServiceError (Except Response Fields) :=
  let refuse (complaint : Complaint) : Except Response Fields :=
    .error (.data 400 complaint.toJson)
  match request.body with
  | .tooDeep isObject => .error (.tooDeep isObject)
  | .broken fault => (formFailure request.charset.1 fault).map .error
  | .refused fault => .ok (.error (.refusal fault.status fault.message))
  | .complaint complaint => .ok (refuse complaint)
  | .body body =>
    match gather (check body) with
    | .ok fields => .ok (.ok fields)
    | .error (.complaint complaint) => .ok (refuse complaint)
    | .error (.tooDeep isObject) => .error (.tooDeep isObject)

/-- A compiled screen as an answer. -/
def screenResponse (d : Document) : Response :=
  .data 200 (.object [
    ("screenName", .string d.screenName),
    ("code", .string d.code),
    ("lineCount", .integer d.lineCount),
    ("componentCount", .integer d.componentCount),
    ("positionedCount", .integer d.positionedCount),
    ("hasAppBar", .bool d.hasAppBar),
    ("isFallback", .bool d.isFallback)])

/-- The answer to a package that cannot be generated. -/
def packageFailure (message : String) : Response :=
  .data 500 (.object [("error", .string ("Packaging failed: " ++ message))])

def packageResponse (p : Package) : Response :=
  match p.files with
  | .error error => packageFailure error.message
  | .ok files =>
    .data 200 (.object [
      ("appName", .string p.config.appName),
      ("bundleId", .string p.config.bundleId),
      ("version", .string p.config.version),
      ("buildNumber", .string p.config.buildNumber),
      ("files", .object (files.map fun (path, content) => (path, .string content))),
      ("file_count", .integer files.length)])

def archiveResponse (p : Package) : Response :=
  match p.files with
  | .error error => packageFailure error.message
  | .ok files =>
    match files.findSome? fun file => Text.encodingFault? file.2.toList with
    | some fault => packageFailure fault.message
    | none => .archive p.name files

def compileScreen (request : Request) : Except ServiceError Response := do
  match ← readFields Request.screenFields request with
  | .error refused => return refused
  | .ok fields =>
    match Document.ofValue (fields.get "appName") (fields.get "screen") with
    | .error error => .error (.number error)
    | .ok d => return screenResponse d

def package (defaults : Package.Defaults) (now : Instant) (answer : Package → Response)
    (request : Request) : Except ServiceError Response := do
  match ← readFields Request.packageFields request with
  | .error refused => return refused
  | .ok fields => return answer (.ofRequest defaults now (.object fields))

/-- The answer to a request that asks an endpoint for what it does. -/
def perform (defaults : Package.Defaults) (now : Instant) (endpoint : Endpoint)
    (request : Request) : Except ServiceError Response :=
  match endpoint with
  | .compileScreen => compileScreen request
  | .package => package defaults now packageResponse request
  | .download => package defaults now archiveResponse request

/-- The answer of an endpoint to a request, in the format of its path if there is
one. -/
def answer (defaults : Package.Defaults) (now : Instant) (endpoint : Endpoint)
    (format : Option String) (request : Request) : Except ServiceError Response :=
  if !request.authenticated then
    .ok (.refusal 401 "Authentication credentials were not provided.")
  else if request.method = "OPTIONS" then .ok (.data 200 endpoint.description)
  else if request.method ≠ "POST" then
    .ok (.refusal 405 ("Method \"" ++ request.method ++ "\" not allowed."))
  else if format.isSome then .error (.formatInPath endpoint.action)
  else perform defaults now endpoint request

/-- The formats of answers. -/
inductive Format
  | json
  | page

def Format.ofName? (name : String) : Option Format :=
  if name = "json" then some .json
  else if name = "api" then some .page
  else none

/-- An answer in a format. A value needs an encoding, and an answer to a request
for the head of one has no content. -/
def Response.sent (format : Format) (method : String) (response : Response) :
    Except ServiceError Response :=
  match response, format with
  | .data status value, .json =>
    match Text.encodingFault? value.compactText.toList with
    | some fault => .error (.unencodable fault)
    | none => .ok (if method = "HEAD" then .bare status else response)
  | .data status _, .page => .ok (.page status)
  | _, _ => .ok response

/-- The answer of an endpoint to a request, in the format of a name. -/
def answerNamed (defaults : Package.Defaults) (now : Instant) (endpoint : Endpoint)
    (suffix : Option String) (name : String) (request : Request) : Except ServiceError Response :=
  match Format.ofName? name with
  | none => (Response.refusal 404 "Not found.").sent .json request.method
  | some format => do
    (← answer defaults now endpoint suffix request).sent format request.method

/-- The answer of an endpoint to a request, in the format that its path or its
query asks for. -/
def answerIn (defaults : Package.Defaults) (now : Instant) (endpoint : Endpoint)
    (suffix : Option String) (request : Request) : Except ServiceError Response :=
  match suffix with
  | some name => answerNamed defaults now endpoint suffix name request
  | none =>
    match request.target.queryFormat? request.charset.2 with
    | .error fault => formFailure request.charset.1 fault
    | .ok name => answerNamed defaults now endpoint none (name.getD "json") request

/-- The methods of requests whose body is lost when they are sent again. -/
def methodsWithBody : List String := ["DELETE", "POST", "PUT", "PATCH"]

def address (endpoint : Endpoint) : String :=
  "testserver/api/builder/packager/" ++ endpoint.name ++ "/"

/-- The answer to a request whose path lacks the slash: the way to the endpoint. -/
def redirect (endpoint : Endpoint) (request : Request) : Except ServiceError Response :=
  if request.method ∈ methodsWithBody then
    .error (.unslashed request.method (address endpoint ++ request.target.repeatedQuery))
  else .ok (.page 301)

/-- The answer to a request. Case does not count in its method. -/
def respond (defaults : Package.Defaults) (now : Instant) (request : Request) :
    Except ServiceError Response :=
  let request := { request with method := request.method.toUpper }
  match request.target.route with
  | .nowhere => .ok (.page 404)
  | .unslashed endpoint => redirect endpoint request
  | .endpoint endpoint => answerIn defaults now endpoint none request
  | .suffixed endpoint format => answerIn defaults now endpoint (some format) request

end Maquette.Service
