import Maquette.Charset.DomainTable
import Maquette.Charset.Punycode
import Maquette.Text.Quoted

/-!
# Domain names

The labels of a domain name stand between points. A label in ASCII may write one
with other characters, in Punycode behind a prefix, and it has to be the label that
this one would be written as again.
-/

namespace Maquette.Charset.Domain

/-- Why bytes are no domain name. -/
inductive Fault
  | punycode (fault : Punycode.Fault)
  /-- A label is empty or has too many characters. -/
  | length
  /-- A label that is to be written has the prefix already. -/
  | marked
  /-- A label has a character that none may have. -/
  | prohibited (symbol : Text.Symbol)
  /-- A label has characters that are written from right to left next to others, or
  not at both of its ends. -/
  | mixed
  | oneSided
  /-- A label would be written in another way. -/
  | different (label again : List Char)
deriving DecidableEq

def Fault.message : Fault → String
  | punycode fault => fault.message
  | length => "label empty or too long"
  | marked => "Label starts with ACE prefix"
  | prohibited symbol => "Invalid character " ++ String.ofList (Text.quoted symbol.code)
  | mixed => "Violation of BIDI requirement 2"
  | oneSided => "Violation of BIDI requirement 3"
  | different label again =>
    "('IDNA does not round-trip', b" ++ String.ofList (Text.quoted label) ++ ", b" ++
      String.ofList (Text.quoted again) ++ ")"

/-- The bytes in front of a label in Punycode. -/
def mark : List UInt8 := [0x78, 0x6e, 0x2d, 0x2d]

/-- A symbol is one of some characters. -/
def isIn (set : CharSet) : Text.Symbol → Bool
  | .char c => set.contains c
  | .half _ _ => false

/-- No label may have the symbol, which goes for every half. -/
def isProhibited (symbol : Text.Symbol) : Bool :=
  symbol.half?.isSome || isIn prohibited symbol

def lowered : Text.Symbol → Text.Symbol
  | .char c => .char c.toLower
  | symbol => symbol

/-- A label as it is compared. Case does not count in ASCII; other characters are
those that a preparation would leave as they are. -/
def prepare (label : List Text.Symbol) : Except Fault (List Text.Symbol) :=
  let label := label.map lowered
  match label.find? isProhibited with
  | some symbol => .error (.prohibited symbol)
  | none =>
    if !label.any (isIn rightToLeft) then .ok label
    else if label.any (isIn leftToRight) then .error .mixed
    else if label.head?.any (isIn rightToLeft) && label.getLast?.any (isIn rightToLeft) then
      .ok label
    else .error .oneSided

def sized (label : List Char) : Except Fault (List Char) :=
  if 0 < label.length ∧ label.length < 64 then .ok label else .error .length

def toAscii (label : List Text.Symbol) : Except Fault (List Char) := do
  if label.all (·.codePoint < 0x80) then sized (Text.ofSymbols label)
  else
    let prepared ← prepare label
    let prefixChars := mark.map fun b => Char.ofNat b.toNat
    if (prefixChars.map .char).isPrefixOf prepared then .error .marked
    else sized (prefixChars ++ Punycode.encode (prepared.map Text.Symbol.codePoint))

def label (bytes : List UInt8) : Except Fault (List Text.Symbol) := do
  match Punycode.notAscii? bytes with
  | some fault => .error (.punycode fault)
  | none =>
    let chars := bytes.map fun b => Char.ofNat b.toNat
    if !mark.isPrefixOf bytes then return chars.map .char
    else
      let read ← (Punycode.decode true (bytes.drop mark.length)).mapError .punycode
      let again ← toAscii read
      if chars.map Char.toLower = again ∧ !read.any (isIn unprepared) then return read
      else .error (.different chars again)

/-- The parts of bytes between points. -/
def labels : List UInt8 → List (List UInt8)
  | [] => [[]]
  | b :: rest =>
    if b = 0x2e then [] :: labels rest
    else
      match labels rest with
      | [] => [[b]]
      | part :: more => (b :: part) :: more

/-- The mark stands somewhere in bytes. -/
def hasMark : List UInt8 → Bool
  | [] => false
  | b :: rest => mark.isPrefixOf (b :: rest) || hasMark rest

/-- The text that bytes write as a domain name. A point at the end is kept. -/
def decode (bytes : List UInt8) : Except Fault (List Text.Symbol) := do
  if !hasMark bytes && bytes.all (·.toNat < 0x80) then
    return bytes.map fun b => .char (Char.ofNat b.toNat)
  else
    let parts := labels bytes
    let isOpen := parts.getLast?.any List.isEmpty
    let read ← (if isOpen then parts.dropLast else parts).mapM label
    return (read.intersperse [.char '.']).flatten ++ (if isOpen then [.char '.'] else [])

end Maquette.Charset.Domain
