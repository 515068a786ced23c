/-!
# Reading bytes in steps

A character set in which a character may take several bytes reads them from left
to right. What it makes of the next bytes may depend on those before them, so it
reads in a state. `readParts` gives the characters that it comes to, with nothing
for every part that it refuses.
-/

namespace Maquette.Charset

/-- What a character set makes of the beginning of some bytes. The bytes behind the
first one that belong to it are counted. -/
inductive Step (σ : Type)
  /-- It means these characters, and the next state is this one. -/
  | taken (further : Nat) (chars : List Char) (next : σ)
  /-- It means nothing. -/
  | refused (further : Nat)
  /-- It would mean something if more bytes followed. -/
  | unfinished

/-- A rule that takes a step at the first byte, in view of those behind it. -/
abbrev StepRule (σ : Type) := σ → UInt8 → List UInt8 → Step σ

/-- The characters that bytes mean, with nothing for every part that means none.
Bytes at the end that wait for more are one such part. -/
def readParts {σ : Type} (rule : StepRule σ) (state : σ) : List UInt8 → List (Option Char)
  | [] => []
  | b :: rest =>
    match rule state b rest with
    | .taken further chars next =>
      chars.map some ++ readParts rule next (rest.drop further)
    | .refused further => none :: readParts rule state (rest.drop further)
    | .unfinished => [none]
termination_by bytes => bytes.length
decreasing_by all_goals (simp only [List.length_cons, List.length_drop]; omega)

/-- The step of a single byte that means a character. -/
def Step.char (c : Char) : Step Unit :=
  .taken 0 [c] ()

/-- The step of a single byte that means its code point. -/
def Step.byte (b : UInt8) : Step Unit :=
  .char (Char.ofNat b.toNat)

/-- The step of a pair of bytes, which is refused at its first byte if it means
nothing. -/
def Step.pair (chars : List Char) : Step Unit :=
  if chars.isEmpty then .refused 0 else .taken 1 chars ()

def Step.ofPair (meaning : Nat → Nat → List Char) (b : UInt8) : List UInt8 → Step Unit
  | [] => .unfinished
  | c :: _ => .pair (meaning b.toNat c.toNat)

/-- The rule of a set that has ASCII for single bytes and pairs of bytes for
everything else. -/
def pairRule (meaning : Nat → Nat → List Char) : StepRule Unit
  | (), b, rest => if b.toNat < 0x80 then .byte b else .ofPair meaning b rest

@[simp] theorem readParts_nil {σ : Type} (rule : StepRule σ) (state : σ) :
    readParts rule state [] = [] := by
  simp [readParts]

end Maquette.Charset
