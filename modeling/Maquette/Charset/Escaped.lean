import Maquette.Text.Hex
import Maquette.Text.Symbol

/-!
# Escaped texts

Texts in which a backslash begins an escape, and a byte otherwise stands for its
code point. In the full notation there are escapes for control characters, octal
and hexadecimal numbers and the names of characters; in the reduced one only those
for code points. What is no escape stands for itself.

The names of characters are not known here, so an escape with one is refused.
-/

namespace Maquette.Charset

/-- The character behind a backslash in the full notation. -/
def simpleEscape? (c : Char) : Option Char :=
  match c with
  | '\\' => some '\\'
  | '\'' => some '\''
  | '"' => some '"'
  | 'b' => some '\x08'
  | 'f' => some '\x0c'
  | 't' => some '\t'
  | 'n' => some '\n'
  | 'r' => some '\r'
  | 'v' => some '\x0b'
  | 'a' => some '\x07'
  | _ => none

/-- How many hexadecimal digits follow a letter behind a backslash. -/
def digitCount? (full : Bool) (c : Char) : Option Nat :=
  match c with
  | 'x' => if full then some 2 else none
  | 'u' => some 4
  | 'U' => some 8
  | _ => none

def isOctalDigit (c : Char) : Bool :=
  '0' ≤ c && c ≤ '7'

/-- What an escape comes to: characters, or nothing if it is refused, and how many of
the characters behind the backslash belong to it. -/
inductive Escape
  | taken (length : Nat) (chars : List Char)
  | refused (length : Nat)
  | unfinished

/-- An escape with a number of some hexadecimal digits, which the first of these
characters begin. -/
def numberEscape (count : Nat) (rest : List Char) : Escape :=
  let digits := (rest.take count).takeWhile fun c => (Text.hexValue? c).isSome
  let value := (digits.filterMap Text.hexValue?).foldl (fun n d => n * 16 + d) 0
  if digits.length = count then
    if value < 0x110000 then .taken (count + 1) (Text.Symbol.ofUnit value).code
    else .refused (count + 1)
  else if rest.length = digits.length then .unfinished
  else .refused (digits.length + 1)

def nameEscape (rest : List Char) : Escape :=
  match rest with
  | [] => .unfinished
  | '\x7b' :: more =>
    let name := more.takeWhile (· ≠ '\x7d')
    if name.length = more.length then .unfinished
    else if name.isEmpty then .refused 2
    else .refused (name.length + 3)
  | _ => .refused 1

/-- The escape that the characters behind a backslash begin. -/
def escape (full : Bool) : List Char → Escape
  | [] => .unfinished
  | c :: rest =>
    match digitCount? full c with
    | some count => numberEscape count rest
    | none =>
      if !full then .taken 1 ['\\', c]
      else if c = '\n' then .taken 1 []
      else if c = 'N' then nameEscape rest
      else if isOctalDigit c then
        let digits := c :: (rest.take 2).takeWhile isOctalDigit
        let value := digits.foldl (fun n d => n * 8 + (d.toNat - '0'.toNat)) 0
        .taken digits.length [Char.ofNat value]
      else
        match simpleEscape? c with
        | some d => .taken 1 [d]
        | none => .taken 1 ['\\', c]

/-- The parts of characters with escapes. What is unfinished at the end of a stream
does not count. -/
def escapedChars (full stream : Bool) : List Char → List (Option Char)
  | [] => []
  | c :: rest =>
    if c ≠ '\\' then some c :: escapedChars full stream rest
    else
      match escape full rest with
      | .taken length chars => chars.map some ++ escapedChars full stream (rest.drop length)
      | .refused length => none :: escapedChars full stream (rest.drop length)
      | .unfinished =>
        if stream then []
        else if !full && rest.isEmpty then [some c]
        else [none]
termination_by chars => chars.length
decreasing_by all_goals (simp only [List.length_cons, List.length_drop]; omega)

def escapedParts (full stream : Bool) (bytes : List UInt8) : List (Option Char) :=
  escapedChars full stream (bytes.map fun b => Char.ofNat b.toNat)

end Maquette.Charset
