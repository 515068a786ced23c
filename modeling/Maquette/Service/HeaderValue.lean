import Maquette.Charset.Name
import Maquette.Text.Lower
import Maquette.Text.Percent
import Maquette.Text.Quoted

/-!
# Values of headers

The value of a header such as a content type: a word, and parameters after it,
each behind a semicolon. A semicolon in quotation marks is none. Case does not
count in the word and in the names of the parameters, and of several parameters
of one name the last one counts.

A parameter may come in sections, whose names end in a star and a number, and the
sections count in the order of their numbers. A star at the end of a name says that
the text of a section is percent-encoded, and then the parameter begins with the
name of its character set. Such a parameter counts before one without a star.
-/

namespace Maquette

/-- Why a value of a header cannot be read. -/
inductive HeaderFault
  /-- It has more characters than a value may have. -/
  | tooLong
  /-- A parameter names a character set that is not known. -/
  | charset (name : List Char)
  /-- A parameter has no text in the character set that it names. -/
  | unreadable (name : List Char) (fault : Charset.Fault)
  /-- The name of a character set has a null character. -/
  | nullCharacter
  /-- Only some sections of a parameter have numbers, and among them the first one or
  not. -/
  | numbering (firstNumbered : Bool)
deriving DecidableEq

def HeaderFault.message : HeaderFault → String
  | tooLong => "Unable to parse header parameters (value too long)."
  | charset name => "Invalid encoding " ++ String.ofList (Text.quoted name) ++ " for RFC 2231 param."
  | unreadable name fault => fault.message (String.ofList name)
  | nullCharacter => "embedded null character"
  | numbering firstNumbered =>
    let number := "'int'"
    let none := "'NoneType'"
    "'<' not supported between instances of " ++
      (if firstNumbered then none ++ " and " ++ number else number ++ " and " ++ none)

/-- A value of a header. -/
structure HeaderValue where
  word : List Char
  parameters : List (List Char × List Char)

namespace HeaderValue

/-- The parts of a text between its semicolons. The flags tell whether quotation
marks are open, and whether a backslash went before. -/
def parts (quoted escaped : Bool) : List Char → List (List Char)
  | [] => [[]]
  | c :: rest =>
    if c = ';' ∧ quoted = false then [] :: parts false false rest
    else
      match parts (quoted != (c == '"' && !escaped)) (c = '\\') rest with
      | [] => [[c]]
      | part :: more => (c :: part) :: more

/-- A text in which a backslash before another one does not count. -/
def singleBackslashes : List Char → List Char
  | '\\' :: '\\' :: rest => '\\' :: singleBackslashes rest
  | c :: rest => c :: singleBackslashes rest
  | [] => []

/-- A text in which a backslash before a quotation mark does not count. -/
def plainQuotes : List Char → List Char
  | '\\' :: '"' :: rest => '"' :: plainQuotes rest
  | c :: rest => c :: plainQuotes rest
  | [] => []

/-- A value without the quotation marks or angle brackets around it. -/
def unquoted (s : List Char) : List Char :=
  match s, s.getLast? with
  | '"' :: inner@(_ :: _), some '"' => plainQuotes (singleBackslashes inner.dropLast)
  | '<' :: inner@(_ :: _), some '>' => inner.dropLast
  | _, _ => s

/-- A text with backslashes before its backslashes and quotation marks. -/
def escaped (s : List Char) : List Char :=
  s.flatMap fun c => if c = '\\' ∨ c = '"' then ['\\', c] else [c]

/-- The name and the value that a part writes. Without a value, case counts in the
name. -/
def field (part : List Char) : List Char × List Char :=
  match part.dropWhile (· ≠ '=') with
  | [] => (Text.trim part, [])
  | _ :: written =>
    (Text.lower (Text.trim (part.takeWhile (· ≠ '='))), unquoted (Text.trim written))

/-- A section of a parameter. -/
structure Section where
  number : Option Nat
  text : List Char
  isEncoded : Bool

/-- A section comes before another one: the numbers count first, then the texts. -/
def Section.le (s t : Section) : Bool :=
  if s.number ≠ t.number then s.number.getD 0 < t.number.getD 0
  else if s.text ≠ t.text then
    (Text.symbols s.text).map Text.Symbol.codePoint < (Text.symbols t.text).map Text.Symbol.codePoint
  else !s.isEncoded || t.isEncoded

/-- A character of the name of a parameter with sections. -/
def isNameChar (c : Char) : Bool :=
  c.isAlphanum || c == '_'

def numberOf (digits : List Char) : Nat :=
  digits.foldl (fun n d => n * 10 + (d.toNat - '0'.toNat)) 0

/-- The parameter that a name is a section of, the number of the section, and whether
its text is encoded. -/
def sectionName? (name : List Char) : Option (List Char × Option Nat × Bool) :=
  let parameter := name.takeWhile isNameChar
  if parameter.isEmpty then none
  else
    match name.drop parameter.length with
    | ['*'] => some (parameter, none, true)
    | '*' :: rest =>
      let digits := rest.takeWhile Char.isDigit
      match digits.isEmpty, rest.drop digits.length with
      | false, [] => some (parameter, some (numberOf digits), false)
      | false, ['*'] => some (parameter, some (numberOf digits), true)
      | _, _ => none
    | _ => none

def arranged (sections : List Section) : Except HeaderFault (List Section) :=
  let firstNumbered := sections.head?.any (·.number.isSome)
  if sections.all (·.number.isSome == firstNumbered) then .ok (sections.mergeSort Section.le)
  else .error (.numbering firstNumbered)

/-- The bytes of a text whose symbols count as bytes. Others are written as
escapes. -/
def plainBytes (s : List Char) : List UInt8 :=
  (Text.symbols s).flatMap fun symbol =>
    let n := symbol.codePoint
    if n < 0x100 then [UInt8.ofNat n]
    else if n < 0x10000 then Text.encode ('\\' :: 'u' :: Text.hex 4 n)
    else Text.encode ('\\' :: 'U' :: Text.hex 8 n)

def namedText (name : List Char) (bytes : List UInt8) : Except HeaderFault (List Char) :=
  if '\x00' ∈ name then .error .nullCharacter
  else if bytes.isEmpty then .ok []
  else
    match Charset.ofName? (String.ofList name) with
    | none | some .binary => .error (.charset name)
    | some charset => (charset.decodeReplacing bytes).mapError (.unreadable name)

/-- The text of a value that begins with the name of its character set and a
language, each in front of a single quotation mark. Without them it is in ASCII. -/
def extendedText (value : List Char) : Except HeaderFault (List Char) :=
  let name := value.takeWhile (· ≠ '\'')
  let behind := (value.drop (name.length + 1)).dropWhile (· ≠ '\'')
  match behind with
  | [] => namedText "us-ascii".toList (plainBytes value)
  | _ :: text =>
    if name.isEmpty then .ok (unquoted text) else namedText (escaped name) (plainBytes text)

def Section.plainText (s : Section) : List Char :=
  if s.isEncoded then
    match Text.percentDecode .latin1 s.text with
    | .ok text => text
    | .error _ => s.text
  else s.text

/-- The value that sections in their order make up. -/
def joined (sections : List Section) : Except HeaderFault (List Char) :=
  let text := sections.flatMap Section.plainText
  if sections.any (·.isEncoded) then extendedText text else .ok text

/-- The most characters that a value may have. -/
def lengthLimit : Nat := 10000

def ofText (text : List Char) : Except HeaderFault HeaderValue := do
  if lengthLimit < (Text.symbols text).length then throw .tooLong
  let written := parts false false text
  let word := Text.lower (Text.trim ((written.headD []).takeWhile (· ≠ '=')))
  let fields := (written.drop 1).map field
  let plain := fields.filter fun (name, _) => !name.isEmpty && (sectionName? name).isNone
  let sections := fields.filterMap fun (name, text) =>
    (sectionName? name).map fun (parameter, number, isEncoded) =>
      (parameter, { number, text, isEncoded : Section })
  let names := (sections.map (·.1)).eraseDups
  let arrangements ← names.mapM fun name =>
    arranged ((sections.filter (·.1 == name)).map (·.2))
  let values ← arrangements.mapM joined
  return ⟨word, plain ++ names.zip values⟩

/-- The value of a parameter, the last one of its name. -/
def parameter (v : HeaderValue) (name : String) : Option (List Char) :=
  v.parameters.reverse.lookup name.toList

/-- The word up to its slash. -/
def mainType (v : HeaderValue) : List Char :=
  v.word.takeWhile (· ≠ '/')

/-- The word behind its slash. -/
def subType (v : HeaderValue) : List Char :=
  (v.word.dropWhile (· ≠ '/')).drop 1

/-- The word is a type that covers another one: each half is the same or a
star. -/
def covers (v : HeaderValue) (main sub : String) : Bool :=
  (v.mainType == main.toList || v.mainType == ['*']) &&
    (v.subType == sub.toList || v.subType == ['*'])

end HeaderValue

end Maquette
