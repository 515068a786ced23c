import Maquette.Service.HeaderValue
import Maquette.Text.Base64
import Maquette.Text.Printable

/-!
# Forms

A body that is a form: texts and files by name, in the order in which they were
sent. There are two ways to write one. A query writes names and values
percent-encoded between ampersands. A multipart body has a part for each, with
headers of its own, between lines that the content type tells.

A name may come several times, and then its last value counts. A name with a
point in it belongs to a form within the form.
-/

namespace Maquette.Service

/-- A value in a form. -/
inductive FormValue
  | text (content : String)
  /-- A file that was sent along, of which only the name matters. -/
  | file (name : String)

abbrev Form := List (String × FormValue)

namespace Form

def value? (form : Form) (name : String) : Option FormValue :=
  List.lookup name form.reverse

/-- The name in a form within the form, if it belongs to one with this name. -/
def innerName? (outer name : String) : Option String :=
  let start := outer.toList ++ ['.']
  if start.isPrefixOf name.toList then
    let inner := name.toList.drop start.length
    let inner := if inner.getLast? = some '\n' then inner.dropLast else inner
    if inner.isEmpty || inner.contains '\n' then none else some (String.ofList inner)
  else none

/-- The values of a form, those of one name together. -/
def grouped (form : Form) : Form :=
  (form.map (·.1)).eraseDups.flatMap fun name => form.filter (·.1 == name)

/-- The form within the form that has this name. Two names may come to the same one,
and then the values of the later name count. -/
def inner (form : Form) (outer : String) : Form :=
  form.grouped.filterMap fun (name, value) => (innerName? outer name).map (·, value)

def fieldLimit : Nat := 1000

def fileLimit : Nat := 100

end Form

/-- Why a multipart body cannot be read. -/
inductive MultipartFault
  | notMultipart (contentType : String)
  | notAscii (contentType : String)
  | boundary (found : Option String)
  | longHeader
deriving DecidableEq

/-- The message of a multipart body that cannot be read. -/
def MultipartFault.message : MultipartFault → String
  | notMultipart contentType => "Invalid Content-Type: " ++ contentType
  | notAscii contentType => "Invalid non-ASCII Content-Type in multipart: " ++ contentType
  | boundary found => "Invalid boundary in multipart: " ++ found.getD "None"
  | longHeader => "Request max total header size exceeded."

/-- Why a form cannot be read. -/
inductive FormFault
  /-- It has too many fields, or one that has no text in its character set. -/
  | excessive
  /-- It has no text in its character set. -/
  | unreadable (fault : Charset.Fault)
  | multipart (fault : MultipartFault)
  /-- A header in it cannot be read. -/
  | header (fault : HeaderFault)
deriving DecidableEq

namespace Form

/-- The field that a part of a query writes. -/
def field (charset : Charset) (written : List Char) :
    Except Charset.Fault (String × FormValue) := do
  let name ← Text.formText charset (written.takeWhile (· ≠ '='))
  let value ← Text.formText charset ((written.dropWhile (· ≠ '=')).drop 1)
  return (String.ofList name, .text (String.ofList value))

def ofQuery (charset : Charset) (query : List Char) : Except FormFault Form :=
  let parts := Text.pieces (· == '&') query
  if fieldLimit < parts.length then .error .excessive
  else ((parts.filter (!·.isEmpty)).mapM (field charset)).mapError fun _ => .excessive

/-- The form in bytes that are a query. Bytes that mean nothing in its character set
are read as code points. -/
def ofEncoded (charset : Charset) (body : List UInt8) : Except FormFault Form :=
  if body.isEmpty then .ok []
  else
    match charset.decode body with
    | .ok query => ofQuery charset query
    | .error fault =>
      if fault.isUndecodable then ofQuery charset (body.map fun b => Char.ofNat b.toNat)
      else .error (.unreadable fault)

end Form

namespace Multipart

/-- The pieces of bytes between the places where a separator stands; the first
bytes are skipped. -/
def pieces (separator : List UInt8) : (skipped : Nat) → List UInt8 → List (List UInt8)
  | _, [] => [[]]
  | skipped + 1, _ :: rest => pieces separator skipped rest
  | 0, b :: rest =>
    if separator.isPrefixOf (b :: rest) then [] :: pieces separator (separator.length - 1) rest
    else
      match pieces separator 0 rest with
      | [] => [[b]]
      | piece :: more => (b :: piece) :: more

/-- Bytes without one of these at their end. -/
def dropFinal (b : UInt8) (bytes : List UInt8) : List UInt8 :=
  if bytes.getLast? = some b then bytes.dropLast else bytes

/-- The parts of a body. The line end in front of a separator belongs to it, and
nothing behind the last one is no part. -/
def parts (separator body : List UInt8) : List (List UInt8) :=
  let found := pieces separator 0 body
  (found.dropLast.map fun piece => dropFinal 13 (dropFinal 10 piece)) ++
    (found.getLast?.filter (!·.isEmpty)).toList

/-- The bytes up to an empty line, and those behind it. -/
def splitHeaders : List UInt8 → Option (List UInt8 × List UInt8)
  | [] => none
  | 13 :: 10 :: 13 :: 10 :: rest => some ([], rest)
  | b :: rest => (splitHeaders rest).map fun (headers, content) => (b :: headers, content)

/-- The most bytes that the headers of a part may take. -/
def headerLimit : Nat := 1024

abbrev Headers := List (List Char × HeaderValue)

/-- The name and the value of a header of a part. A header with a value that cannot be
read does not count, unless the sections of a parameter have no order. -/
def header? (line : List UInt8) : Except HeaderFault (Option (List Char × HeaderValue)) :=
  match Text.decode? line with
  | none => .ok none
  | some text =>
    match HeaderValue.ofText text with
    | .ok value =>
      .ok (if ':' ∈ value.word then some (value.word.takeWhile (· ≠ ':'), value) else none)
    | .error (.numbering firstNumbered) => .error (.numbering firstNumbered)
    | .error _ => .ok none

def readHeaders (bytes : List UInt8) : Except HeaderFault Headers :=
  ((pieces [13, 10] 0 bytes).mapM header?).map (·.filterMap id)

/-- The header of a name, the last one if there are several. -/
def Headers.find? (headers : Headers) (name : String) : Option HeaderValue :=
  List.lookup name.toList headers.reverse

def isEncoded (headers : Headers) : Bool :=
  (headers.find? "content-transfer-encoding").any fun header =>
    Text.trim ((header.word.dropWhile (· ≠ ':')).drop 1) == "base64".toList

def textBytes (headers : Headers) (content : List UInt8) : List UInt8 :=
  if isEncoded headers then (Text.decodeBase64? content).getD content else content

/-- The name of a file without the directories in front of it and without
characters that do not print. -/
def fileName (written : List Char) : List Char :=
  let names := Text.pieces (fun c => c == '/' || c == '\\') written
  (names.getLast?.getD []).filter Text.isPrintable

def namesNoFile (name : List Char) : Bool :=
  name.isEmpty || name == ['.'] || name == ['.', '.']

/-- A byte that is white space. -/
def isBlankByte (b : UInt8) : Bool :=
  b.toNat == 0x20 || 9 ≤ b.toNat && b.toNat ≤ 13

/-- The text of a parameter, whose bytes are read in the character set of the form. -/
def parameterText (charset : Charset) (value : List Char) : Except FormFault (List Char) :=
  let bytes := (Text.encode value).dropWhile isBlankByte
  (charset.decodeReplacing (bytes.reverse.dropWhile isBlankByte).reverse).mapError .unreadable

/-- What a part holds. -/
inductive Part
  /-- It has no name that would count. -/
  | raw
  | field (name : String) (value : FormValue)
  /-- It is a file without a name. -/
  | nameless

/-- The file that a part with a name sends, if the file has a name itself. -/
def filePart (charset : Charset) (name : String) (written : List Char) :
    Except FormFault Part := do
  let text ← (charset.decodeReplacing (Text.encode written)).mapError .unreadable
  let file := fileName text
  return if namesNoFile file then .nameless else .field name (.file (String.ofList file))

/-- What a part holds that says what it is. -/
def disposed (charset : Charset) (disposition : HeaderValue) (headers : Headers)
    (content : List UInt8) : Except FormFault Part := do
  match disposition.parameter "name" with
  | none => return .raw
  | some written =>
    let name := String.ofList (← parameterText charset written)
    match disposition.parameter "filename" with
    | none | some [] =>
      let text ← (charset.decodeReplacing (textBytes headers content)).mapError .unreadable
      return .field name (.text (String.ofList text))
    | some written => filePart charset name written

/-- The headers of a part and its content, if it has headers. -/
def splitPart (part : List UInt8) : Except FormFault (Option (Headers × List UInt8)) :=
  match splitHeaders (part.take headerLimit) with
  | none => if part.length < headerLimit then .ok none else .error (.multipart .longHeader)
  | some (headers, _) => do
    let read ← (readHeaders headers).mapError .header
    return some (read, part.drop (headers.length + 4))

/-- A part says that it is a file. -/
def isFile (headers : Headers) : Bool :=
  (headers.find? "content-disposition").any fun disposition =>
    (disposition.parameter "filename").any (!·.isEmpty)

/-- The fields of parts, given how many fields and files went before them. What comes
before the first boundary and behind the last one is not counted. -/
def fields (charset : Charset) : (texts files : Nat) → List (List UInt8) → Except FormFault Form
  | _, _, [] => .ok []
  | texts, files, part :: rest => do
    let split ← splitPart part
    let file := split.any fun (headers, _) => isFile headers
    let texts := if file then texts else texts + 1
    if Form.fieldLimit + 2 < texts then throw .excessive
    match split.bind fun (headers, content) =>
        (headers.find? "content-disposition").map (·, headers, content) with
    | none => fields charset texts files rest
    | some (disposition, headers, content) =>
      match ← disposed charset disposition headers content with
      | .raw => fields charset texts files rest
      | .nameless =>
        if Form.fileLimit < files + 1 then throw .excessive
        fields charset texts (files + 1) rest
      | .field name value =>
        let files := if file then files + 1 else files
        if Form.fileLimit < files then throw .excessive
        return (name, value) :: (← fields charset texts files rest)

/-- A character that a boundary may have. -/
def isBoundaryChar (c : Char) : Bool :=
  ' ' ≤ c && c ≤ '~'

def isBoundary (s : List Char) : Bool :=
  s.all isBoundaryChar && s.length ≤ 201 && s.getLast?.any (· ≠ ' ')

def boundary (contentType : String) (header : HeaderValue) :
    Except MultipartFault (List Char) :=
  let found := header.parameter "boundary"
  if !"multipart/".toList.isPrefixOf contentType.toList then .error (.notMultipart contentType)
  else if !contentType.toList.all (·.toNat < 0x80) then .error (.notAscii contentType)
  else if found.any isBoundary then .ok (found.getD [])
  else .error (.boundary (found.map String.ofList))

end Multipart

namespace Form

def isText (entry : String × FormValue) : Bool :=
  match entry.2 with
  | .text _ => true
  | .file _ => false

/-- The form in a multipart body. The files come after the texts. -/
def ofMultipart (charset : Charset) (contentType : String) (header : HeaderValue)
    (body : List UInt8) : Except FormFault Form := do
  let boundary ← (Multipart.boundary contentType header).mapError .multipart
  let separator := Text.encode ('-' :: '-' :: boundary)
  let entries ← Multipart.fields charset 0 0 (Multipart.parts separator body)
  return entries.filter isText ++ entries.filter (!isText ·)

end Form

end Maquette.Service
