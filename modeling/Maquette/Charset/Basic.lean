import Maquette.Charset.ByteTable
import Maquette.Charset.Designation
import Maquette.Charset.Domain
import Maquette.Charset.Escaped
import Maquette.Charset.Shifted
import Maquette.Text.Encoding

/-!
# Character sets

The character sets in which a request may write its texts. Bytes are read in one of
three ways. `decode` wants every part of them to mean a character; `decodeStream`
does too, but what waits for more at the end does not count; `decodeReplacing` puts a
replacement for every part that means none.

Some sets do not read all bytes part by part: a domain name is one or it is none, and
there is a set in which nothing means anything. Others are no sets of characters, for
they turn bytes into bytes.
-/

namespace Maquette

/-- A character set. -/
inductive Charset
  /-- UTF-8. In front there may be a byte order mark that does not count. -/
  | utf8 (marked : Bool)
  | utf7
  | utf16 (order : Charset.ByteOrder)
  | utf32 (order : Charset.ByteOrder)
  /-- A text with escapes, in the full notation or the reduced one. -/
  | escaped (full : Bool)
  /-- A set of single bytes, the last of which mean these characters. -/
  | bytewise (last : String)
  /-- A set that has pairs of bytes, or longer groups, by a rule. -/
  | grouped (rule : Charset.StepRule Unit)
  | hz
  | designating (d : Charset.Designating)
  | punycode
  | domain
  /-- The set in which no bytes mean anything. -/
  | undefined
  /-- No set of characters. -/
  | binary

namespace Charset

def ascii : Charset :=
  .bytewise (String.ofList (List.replicate 128 ByteTable.gap))

/-- The set in which every byte means its code point. -/
def latin1 : Charset :=
  .bytewise ""

/-- Why bytes mean no text in a character set. -/
inductive Fault
  /-- A part of them means no character. -/
  | undecodable
  | punycode (fault : Punycode.Fault)
  | domain (fault : Domain.Fault)
  /-- The set does not take replacements. -/
  | strict
  | undefined
  | binary
deriving DecidableEq

namespace Fault

/-- Some byte means no character. -/
def isUndecodable : Fault → Bool
  | undecodable | punycode (.notAscii _ _) | domain (.punycode (.notAscii _ _)) => true
  | _ => false

/-- The message of a reading that a set of this name gives up, for a reason. -/
def givenUp (name reason : String) : String :=
  "decoding with '" ++ name ++ "' codec failed (UnicodeError: " ++ reason ++ ")"

/-- The message of bytes that mean no text in the set of a name. -/
def message (name : String) : Fault → String
  | undecodable => "'" ++ name ++ "' codec can't decode bytes"
  | punycode (.notAscii b i) | domain (.punycode (.notAscii b i)) =>
    Punycode.Fault.message (.notAscii b i)
  | punycode fault => givenUp name fault.message
  | domain (.punycode fault) => givenUp name (givenUp "punycode" fault.message)
  | domain (.different label again) => Domain.Fault.message (.different label again)
  | domain fault => givenUp name fault.message
  | strict => givenUp name "Unsupported error handling replace"
  | undefined => givenUp name "undefined encoding"
  | binary =>
    "'" ++ name ++ "' is not a text encoding; use codecs.decode() to handle arbitrary codecs"

end Fault

def parts? (charset : Charset) (stream : Bool) (bytes : List UInt8) : Option (List (Option Char)) :=
  match charset with
  | utf8 marked =>
    match marked, bytes with
    | true, 0xef :: 0xbb :: 0xbf :: rest => some (Text.decodeParts rest)
    | _, _ => some (Text.decodeParts bytes)
  | utf7 => some (parts7 stream bytes)
  | utf16 order =>
    some (if stream then streamParts 2 parts16 order bytes else parts16 order bytes)
  | utf32 order =>
    some (if stream then streamParts 4 parts32 order bytes else parts32 order bytes)
  | escaped full => some (escapedParts full stream bytes)
  | bytewise last => some (ByteTable.parts last bytes)
  | grouped rule => some (readParts rule () bytes)
  | hz => some (readParts hzRule false bytes)
  | designating d => some (readParts d.rule {} bytes)
  | punycode | domain | undefined | binary => none

/-- The text of bytes in a set that reads bytes as a whole, with or without
replacements. -/
def readWhole (charset : Charset) (replacing : Bool) (bytes : List UInt8) :
    Except Fault (List Char) :=
  match charset with
  | punycode =>
    ((Punycode.decode (!replacing) bytes).map Text.ofSymbols).mapError .punycode
  | domain =>
    if replacing then .error .strict
    else ((Domain.decode bytes).map Text.ofSymbols).mapError .domain
  | undefined => .error .undefined
  | _ => .error .binary

/-- The text of parts, if every one of them means a character. -/
def allParts (parts : List (Option Char)) : Except Fault (List Char) :=
  match parts.mapM id with
  | some text => .ok text
  | none => .error .undecodable

/-- The text that bytes mean. -/
def decode (charset : Charset) (bytes : List UInt8) : Except Fault (List Char) :=
  match charset.parts? false bytes with
  | some parts => allParts parts
  | none => charset.readWhole false bytes

def decodeStream (charset : Charset) (bytes : List UInt8) : Except Fault (List Char) :=
  match charset.parts? true bytes with
  | some parts => allParts parts
  | none => charset.readWhole false bytes

/-- The text that bytes mean with replacements. No bytes mean no text in every
set. -/
def decodeReplacing (charset : Charset) (bytes : List UInt8) : Except Fault (List Char) :=
  if bytes.isEmpty then .ok []
  else
    match charset.parts? false bytes with
    | some parts => .ok (parts.map (·.getD Text.replacement))
    | none => charset.readWhole true bytes

end Charset

end Maquette
