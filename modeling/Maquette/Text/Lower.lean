import Maquette.Text.Blank
import Maquette.Text.CaseTable

/-!
# Lower case

The lower-case form of a text, character by character with two exceptions: the
capital I with a dot becomes two characters, and a capital sigma at the end of a
word becomes a final sigma. Names that are compared without regard to case and
surrounding white space are compared by their `key`.
-/

namespace Maquette.Text

/-- The distance from a character to its lower-case form, by the tables. -/
def lowerDistance (c : Char) : Int :=
  match lowerRuns.find? fun (first, last, step, _) =>
      first ≤ c.toNat && c.toNat ≤ last && (c.toNat - first) % step == 0 with
  | some (_, _, _, distance) => distance
  | none => 0

/-- The lower-case form of a character on its own. -/
def lowerChar (c : Char) : List Char :=
  if c.toNat < 128 then [c.toLower]
  else if c = 'İ' then ['i', '\u0307']
  else [Char.ofNat (c.toNat + lowerDistance c).toNat]

/-- The first character that is not passed over is a letter with case. -/
def meetsCasedLetter (s : List Char) : Bool :=
  match s.dropWhile caseIgnorable.contains with
  | [] => false
  | c :: _ => casedLetters.contains c

/-- A sigma between these surroundings, the nearest characters first, ends a
word. -/
def endsWord (before after : List Char) : Bool :=
  meetsCasedLetter before && !meetsCasedLetter after

/-- The lower-case form of a text that stands after `before`, the nearest
character first. -/
def lowerAfter (before : List Char) : List Char → List Char
  | [] => []
  | c :: rest =>
    (if c = 'Σ' then [if endsWord before rest then 'ς' else 'σ'] else lowerChar c) ++
      lowerAfter (c :: before) rest

def lower (s : List Char) : List Char :=
  lowerAfter [] s

/-- The form of a name in which case and surrounding white space do not count. -/
def key (s : String) : String :=
  String.ofList (lower (trim s.toList))

end Maquette.Text
