import Maquette.Json.Display
import Maquette.Text.Hex
import Maquette.Text.Lower

/-!
# Colours

A colour is saved as a hash sign and hexadecimal digits: one digit per channel,
two per channel, or two per channel with the opacity last. Code wants the
opacity first. Whatever is no such text is black, and a blank one is
transparent, so every value has a colour and every colour has valid code.
-/

namespace Maquette

/-- A colour of the generated app. -/
inductive Color
  | transparent
  | black
  | white
  | argb (alpha red green blue : UInt8)
deriving DecidableEq

namespace Color

/-- A channel from its two hexadecimal digits. -/
def channel (high low : Nat) : UInt8 :=
  UInt8.ofNat (16 * high + low)

/-- The colour that a row of hexadecimal digits writes. -/
def ofDigits : List Nat → Color
  | [r, g, b] => argb 255 (channel r r) (channel g g) (channel b b)
  | [r, r', g, g', b, b'] => argb 255 (channel r r') (channel g g') (channel b b')
  | [r, r', g, g', b, b', a, a'] =>
    argb (channel a a') (channel r r') (channel g g') (channel b b')
  | _ => black

/-- The colour that the characters after the hash signs write. -/
def ofHex (s : List Char) : Color :=
  match s.mapM Text.hexValue? with
  | some digits => ofDigits digits
  | none => black

/-- The colour that a text names. Any number of hash signs may go in front of
the digits. -/
def ofText (s : List Char) : Color :=
  let name := Text.trim s
  if name.isEmpty ∨ Text.lower name = "transparent".toList then transparent
  else if name.head? = some '#' then ofHex (name.dropWhile (· == '#'))
  else black

/-- The colour that a value names, transparent when there is none. -/
def ofValue : Json → Color
  | .null => transparent
  | value => ofText value.display.toList

/-- A channel as two upper-case hexadecimal digits. -/
def channelText (c : UInt8) : List Char :=
  (Text.hex 2 c.toNat).map Char.toUpper

def code : Color → String
  | transparent => "Colors.transparent"
  | black => "Colors.black"
  | white => "Colors.white"
  | argb a r g b =>
    "Color(0x" ++
      String.ofList (channelText a ++ channelText r ++ channelText g ++ channelText b) ++ ")"

end Color

end Maquette
