import Maquette.Charset.Grid.Big5
import Maquette.Charset.Grid.Gb2312
import Maquette.Charset.Grid.Gbk
import Maquette.Charset.Grid.HongKong
import Maquette.Charset.Step
import Maquette.Text.Symbol

/-!
# Chinese character sets

The sets that build on GB 2312, the national standard of China, and those that
build on Big5, which comes from Taiwan. Both have ASCII for single bytes.

GB 18030 reaches every character: what has no pair of bytes in it has four, two of
which are digits. They number the code points in their order, apart from those
that have a pair.
-/

namespace Maquette.Charset

/-- The characters of a pair of bytes in GB 2312. -/
def gb2312Text (b c : Nat) : List Char :=
  if 0x80 ≤ b ∧ 0x80 ≤ c then Grid.gb2312.text (b - 0x80) (c - 0x80) else []

/-- The characters of a pair of bytes in GBK. -/
def gbkText (b c : Nat) : List Char :=
  firstText [Grid.gbkExtension.text b c, gb2312Text b c]

/-- Runs of pairs that GB 18030 adds: their first byte, the second byte of the first
of them, how many there are, and the code point of the first. -/
def gb18030Runs : List (Nat × Nat × Nat × Nat) := [
  (0xa2, 0xab, 6, 0xe766), (0xa2, 0xe3, 1, 0x20ac), (0xa2, 0xe4, 1, 0xe76d),
  (0xa2, 0xef, 2, 0xe76e), (0xa2, 0xfd, 2, 0xe770), (0xa4, 0xf4, 11, 0xe772),
  (0xa5, 0xf7, 8, 0xe77d), (0xa6, 0xb9, 8, 0xe785), (0xa6, 0xd9, 7, 0xe78d),
  (0xa6, 0xec, 2, 0xe794), (0xa6, 0xf3, 1, 0xe796), (0xa6, 0xf6, 9, 0xe797),
  (0xa7, 0xc2, 15, 0xe7a0), (0xa7, 0xf2, 13, 0xe7af), (0xa8, 0x96, 11, 0xe7bc),
  (0xa8, 0xbc, 1, 0xe7c7), (0xa8, 0xbf, 1, 0x01f9), (0xa8, 0xc1, 4, 0xe7c9),
  (0xa8, 0xea, 21, 0xe7cd), (0xa9, 0x58, 1, 0xe7e2), (0xa9, 0x5b, 1, 0xe7e3),
  (0xa9, 0x5d, 3, 0xe7e4), (0xa9, 0x89, 1, 0x303e), (0xa9, 0x8a, 12, 0x2ff0),
  (0xa9, 0x97, 13, 0xe7f4), (0xa9, 0xf0, 15, 0xe801), (0xd7, 0xfa, 5, 0xe810),
  (0xfe, 0x50, 1, 0x2e81), (0xfe, 0x51, 3, 0xe816), (0xfe, 0x54, 1, 0x2e84),
  (0xfe, 0x55, 1, 0x3473), (0xfe, 0x56, 1, 0x3447), (0xfe, 0x57, 1, 0x2e88),
  (0xfe, 0x58, 1, 0x2e8b), (0xfe, 0x59, 1, 0xe81e), (0xfe, 0x5a, 1, 0x359e),
  (0xfe, 0x5b, 1, 0x361a), (0xfe, 0x5c, 1, 0x360e), (0xfe, 0x5d, 1, 0x2e8c),
  (0xfe, 0x5e, 1, 0x2e97), (0xfe, 0x5f, 1, 0x396e), (0xfe, 0x60, 1, 0x3918),
  (0xfe, 0x61, 1, 0xe826), (0xfe, 0x62, 1, 0x39cf), (0xfe, 0x63, 1, 0x39df),
  (0xfe, 0x64, 1, 0x3a73), (0xfe, 0x65, 1, 0x39d0), (0xfe, 0x66, 2, 0xe82b),
  (0xfe, 0x68, 1, 0x3b4e), (0xfe, 0x69, 1, 0x3c6e), (0xfe, 0x6a, 1, 0x3ce0),
  (0xfe, 0x6b, 1, 0x2ea7), (0xfe, 0x6c, 2, 0xe831), (0xfe, 0x6e, 1, 0x2eaa),
  (0xfe, 0x6f, 1, 0x4056), (0xfe, 0x70, 1, 0x415f), (0xfe, 0x71, 1, 0x2eae),
  (0xfe, 0x72, 1, 0x4337), (0xfe, 0x73, 1, 0x2eb3), (0xfe, 0x74, 2, 0x2eb6),
  (0xfe, 0x76, 1, 0xe83b), (0xfe, 0x77, 1, 0x43b1), (0xfe, 0x78, 1, 0x43ac),
  (0xfe, 0x79, 1, 0x2ebb), (0xfe, 0x7a, 1, 0x43dd), (0xfe, 0x7b, 1, 0x44d6),
  (0xfe, 0x7c, 1, 0x4661), (0xfe, 0x7d, 1, 0x464c), (0xfe, 0x7e, 1, 0xe843),
  (0xfe, 0x80, 1, 0x4723), (0xfe, 0x81, 1, 0x4729), (0xfe, 0x82, 1, 0x477c),
  (0xfe, 0x83, 1, 0x478d), (0xfe, 0x84, 1, 0x2eca), (0xfe, 0x85, 1, 0x4947),
  (0xfe, 0x86, 1, 0x497a), (0xfe, 0x87, 1, 0x497d), (0xfe, 0x88, 2, 0x4982),
  (0xfe, 0x8a, 2, 0x4985), (0xfe, 0x8c, 1, 0x499f), (0xfe, 0x8d, 1, 0x499b),
  (0xfe, 0x8e, 1, 0x49b7), (0xfe, 0x8f, 1, 0x49b6), (0xfe, 0x90, 2, 0xe854),
  (0xfe, 0x92, 1, 0x4ca3), (0xfe, 0x93, 3, 0x4c9f), (0xfe, 0x96, 1, 0x4c77),
  (0xfe, 0x97, 1, 0x4ca2), (0xfe, 0x98, 7, 0x4d13), (0xfe, 0x9f, 1, 0x4dae),
  (0xfe, 0xa0, 1, 0xe864)]

/-- The private-use character of a pair in one of the three areas that GB 18030
leaves to its users. -/
def gb18030Private (b c : Nat) : Option Char :=
  if 0xaa ≤ b ∧ b ≤ 0xaf ∧ 0xa1 ≤ c ∧ c ≤ 0xfe then
    some (Char.ofNat (0xe000 + 94 * (b - 0xaa) + (c - 0xa1)))
  else if 0xf8 ≤ b ∧ b ≤ 0xfe ∧ 0xa1 ≤ c ∧ c ≤ 0xfe then
    some (Char.ofNat (0xe234 + 94 * (b - 0xf8) + (c - 0xa1)))
  else if 0xa1 ≤ b ∧ b ≤ 0xa7 ∧ 0x40 ≤ c ∧ c ≤ 0xa0 ∧ c ≠ 0x7f then
    some (Char.ofNat (0xe4c6 + 96 * (b - 0xa1) + (if c < 0x7f then c - 0x40 else c - 0x41)))
  else none

/-- The characters of a pair of bytes that only GB 18030 has. -/
def gb18030Extension (b c : Nat) : List Char :=
  let inRun (run : Nat × Nat × Nat × Nat) : Option Char :=
    let (first, second, count, code) := run
    if b = first ∧ second ≤ c ∧ c < second + count then some (Char.ofNat (code + (c - second)))
    else none
  (gb18030Private b c <|> gb18030Runs.findSome? inRun).toList

/-- The characters of a pair of bytes in GB 18030. -/
def gb18030Text (b c : Nat) : List Char :=
  firstText [gbkText b c, gb18030Extension b c]

/-- Runs of code points in the basic plane without a pair in GB 18030: the number
and the code point of the first of each. -/
def gb18030Singles : List (Nat × Nat) := [
  (0, 0x80), (36, 0xa5), (38, 0xa9), (45, 0xb2), (50, 0xb8), (81, 0xd8), (89, 0xe2), (95, 0xeb),
  (96, 0xee), (100, 0xf4), (103, 0xf8), (104, 0xfb), (105, 0xfd), (109, 0x102), (126, 0x114),
  (133, 0x11c), (148, 0x12c), (172, 0x145), (175, 0x149), (179, 0x14e), (208, 0x16c),
  (306, 0x1cf), (307, 0x1d1), (308, 0x1d3), (309, 0x1d5), (310, 0x1d7), (311, 0x1d9),
  (312, 0x1db), (313, 0x1dd), (341, 0x1fa), (428, 0x252), (443, 0x262), (544, 0x2c8),
  (545, 0x2cc), (558, 0x2da), (741, 0x3a2), (742, 0x3aa), (749, 0x3c2), (750, 0x3ca),
  (805, 0x402), (819, 0x450), (820, 0x452), (7922, 0x2011), (7924, 0x2017), (7925, 0x201a),
  (7927, 0x201e), (7934, 0x2027), (7943, 0x2031), (7944, 0x2034), (7945, 0x2036), (7950, 0x203c),
  (8062, 0x20ad), (8148, 0x2104), (8149, 0x2106), (8152, 0x210a), (8164, 0x2117), (8174, 0x2122),
  (8236, 0x216c), (8240, 0x217a), (8262, 0x2194), (8264, 0x219a), (8374, 0x2209), (8380, 0x2210),
  (8381, 0x2212), (8384, 0x2216), (8388, 0x221b), (8390, 0x2221), (8392, 0x2224), (8393, 0x2226),
  (8394, 0x222c), (8396, 0x222f), (8401, 0x2238), (8406, 0x223e), (8416, 0x2249), (8419, 0x224d),
  (8424, 0x2253), (8437, 0x2262), (8439, 0x2268), (8445, 0x2270), (8482, 0x2296), (8485, 0x229a),
  (8496, 0x22a6), (8521, 0x22c0), (8603, 0x2313), (8936, 0x246a), (8946, 0x249c), (9046, 0x254c),
  (9050, 0x2574), (9063, 0x2590), (9066, 0x2596), (9076, 0x25a2), (9092, 0x25b4), (9100, 0x25be),
  (9108, 0x25c8), (9111, 0x25cc), (9113, 0x25d0), (9131, 0x25e6), (9162, 0x2607), (9164, 0x260a),
  (9218, 0x2641), (9219, 0x2643), (11329, 0x2e82), (11331, 0x2e85), (11334, 0x2e89),
  (11336, 0x2e8d), (11346, 0x2e98), (11361, 0x2ea8), (11363, 0x2eab), (11366, 0x2eaf),
  (11370, 0x2eb4), (11372, 0x2eb8), (11375, 0x2ebc), (11389, 0x2ecb), (11682, 0x2ffc),
  (11686, 0x3004), (11687, 0x3018), (11692, 0x301f), (11694, 0x302a), (11714, 0x303f),
  (11716, 0x3094), (11723, 0x309f), (11725, 0x30f7), (11730, 0x30ff), (11736, 0x312a),
  (11982, 0x322a), (11989, 0x3232), (12102, 0x32a4), (12336, 0x3390), (12348, 0x339f),
  (12350, 0x33a2), (12384, 0x33c5), (12393, 0x33cf), (12395, 0x33d3), (12397, 0x33d6),
  (12510, 0x3448), (12553, 0x3474), (12851, 0x359f), (12962, 0x360f), (12973, 0x361b),
  (13738, 0x3919), (13823, 0x396f), (13919, 0x39d1), (13933, 0x39e0), (14080, 0x3a74),
  (14298, 0x3b4f), (14585, 0x3c6f), (14698, 0x3ce1), (15583, 0x4057), (15847, 0x4160),
  (16318, 0x4338), (16434, 0x43ad), (16438, 0x43b2), (16481, 0x43de), (16729, 0x44d7),
  (17102, 0x464d), (17122, 0x4662), (17315, 0x4724), (17320, 0x472a), (17402, 0x477d),
  (17418, 0x478e), (17859, 0x4948), (17909, 0x497b), (17911, 0x497e), (17915, 0x4984),
  (17916, 0x4987), (17936, 0x499c), (17939, 0x49a0), (17961, 0x49b8), (18664, 0x4c78),
  (18703, 0x4ca4), (18814, 0x4d1a), (18962, 0x4daf), (19043, 0x9fa6), (33469, 0xe76c),
  (33470, 0xe7c8), (33471, 0xe7e7), (33484, 0xe815), (33485, 0xe819), (33490, 0xe81f),
  (33497, 0xe827), (33501, 0xe82d), (33505, 0xe833), (33513, 0xe83c), (33520, 0xe844),
  (33536, 0xe856), (33550, 0xe865), (37845, 0xf92d), (37921, 0xf97a), (37948, 0xf996),
  (38029, 0xf9e8), (38038, 0xf9f2), (38064, 0xfa10), (38065, 0xfa12), (38066, 0xfa15),
  (38069, 0xfa19), (38075, 0xfa22), (38076, 0xfa25), (38078, 0xfa2a), (39108, 0xfe32),
  (39109, 0xfe45), (39113, 0xfe53), (39114, 0xfe58), (39115, 0xfe67), (39116, 0xfe6c),
  (39265, 0xff5f), (39394, 0xffe6)]

/-- How many code points of the basic plane have no pair in GB 18030. -/
def gb18030SingleCount : Nat := 39420

/-- The code point of a number in the basic plane. -/
def gb18030Single (number : Nat) : Nat :=
  match (gb18030Singles.takeWhile (·.1 ≤ number)).getLast? with
  | none => 0
  | some (first, code) => code + (number - first)

/-- The number that four bytes write, if they are a digit after each of two other
bytes. -/
def gb18030Number? (a b c d : Nat) : Option Nat :=
  if 0x81 ≤ a ∧ a ≤ 0xfe ∧ 0x30 ≤ b ∧ b ≤ 0x39 ∧ 0x81 ≤ c ∧ c ≤ 0xfe ∧ 0x30 ≤ d ∧ d ≤ 0x39 then
    some ((((a - 0x81) * 10 + (b - 0x30)) * 126 + (c - 0x81)) * 10 + (d - 0x30))
  else none

/-- The number of the first code point outside the basic plane. -/
def gb18030Outside : Nat := 189000

def gb18030Char? (number : Nat) : Option Char :=
  if number < gb18030SingleCount then some (Char.ofNat (gb18030Single number))
  else if gb18030Outside ≤ number ∧ number - gb18030Outside < 0x100000 then
    some (Char.ofNat (0x10000 + (number - gb18030Outside)))
  else none

def gb18030Rule : StepRule Unit
  | (), b, rest =>
    if b.toNat < 0x80 then .byte b
    else
      match rest with
      | [] => .unfinished
      | c :: more =>
        if 0x30 ≤ c.toNat ∧ c.toNat ≤ 0x39 then
          match more with
          | d :: e :: _ =>
            match (gb18030Number? b.toNat c.toNat d.toNat e.toNat).bind gb18030Char? with
            | some char => .taken 3 (Text.Symbol.char char).code ()
            | none => .refused 0
          | _ => .unfinished
        else .pair (gb18030Text b.toNat c.toNat)

/-- The rule of HZ, which writes GB 2312 in seven bits. A tilde and a brace lead to
the pairs and back, and the state tells whether pairs are read. -/
def hzRule : StepRule Bool
  | paired, b, rest =>
    if b = 0x7e then
      match paired, rest with
      | _, [] => .unfinished
      | false, 0x7e :: _ => .taken 1 ['~'] false
      | false, 0x7b :: _ => .taken 1 [] true
      | false, 0x0a :: _ => .taken 1 [] false
      | true, 0x7d :: _ => .taken 1 [] false
      | _, _ => .refused 0
    else if 0x80 ≤ b.toNat then .refused 0
    else if paired then
      match rest with
      | [] => .unfinished
      | c :: _ =>
        match Grid.gb2312.char? b.toNat c.toNat with
        | some char => .taken 1 [char] true
        | none => .refused 0
    else .taken 0 [Char.ofNat b.toNat] false

/-- The characters of a pair of bytes in Big5. -/
def big5Text (b c : Nat) : List Char :=
  Grid.big5.text b c

/-- The characters of a pair of bytes in code page 950. -/
def big5WindowsText (b c : Nat) : List Char :=
  firstText [Grid.big5Windows.text b c, big5Text b c]

/-- The pairs for which the supplement of Hong Kong does not follow Big5. -/
def isHongKongOnly (b c : Nat) : Bool :=
  0xc6 ≤ b && b ≤ 0xc8 && (0xc7 ≤ b || 0xa1 ≤ c)

/-- The pairs that mean a letter with two marks in the supplement of Hong Kong. -/
def hongKongMarked : List ((Nat × Nat) × List Char) := [
  ((0x88, 0x62), ['\u00ca', '\u0304']), ((0x88, 0x64), ['\u00ca', '\u030c']),
  ((0x88, 0xa3), ['\u00ea', '\u0304']), ((0x88, 0xa5), ['\u00ea', '\u030c'])]

/-- The characters of a pair of bytes in Big5 with the supplement of Hong Kong. -/
def hongKongText (b c : Nat) : List Char :=
  firstText [
    Grid.hongKong.text b c,
    if isHongKongOnly b c then [] else big5Text b c,
    (hongKongMarked.lookup (b, c)).getD []]

end Maquette.Charset
