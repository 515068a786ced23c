import Maquette.Charset.Basic
import Maquette.Text.Blank

/-!
# Names of character sets

A name of a character set may be written in many ways: case does not count, and what
stands between its letters and digits does not either. Every set has a title, and
many have aliases, in which a point may stand for what is between the others too.
-/

namespace Maquette.Charset

/-- The sets that are not tables of single bytes, with their titles and aliases. -/
def titled : List (Charset × String × List String) := [
  (.utf8 false, "utf_8", ["cp65001", "u8", "utf", "utf8", "utf8_ucs2", "utf8_ucs4"]),
  (.utf8 true, "utf_8_sig", []),
  (.utf7, "utf_7", ["u7", "unicode_1_1_utf_7", "utf7"]),
  (.utf16 .marked, "utf_16", ["u16", "utf16"]),
  (.utf16 .little, "utf_16_le", ["unicodelittleunmarked", "utf_16le"]),
  (.utf16 .big, "utf_16_be", ["unicodebigunmarked", "utf_16be"]),
  (.utf32 .marked, "utf_32", ["u32", "utf32"]),
  (.utf32 .little, "utf_32_le", ["utf_32le"]),
  (.utf32 .big, "utf_32_be", ["utf_32be"]),
  (.escaped true, "unicode_escape", []),
  (.escaped false, "raw_unicode_escape", []),
  (.ascii, "ascii", ["646", "ansi_x3.4_1968", "ansi_x3.4_1986", "ansi_x3_4_1968", "cp367",
    "csascii", "ibm367", "iso646_us", "iso_646.irv_1991", "iso_ir_6", "us", "us_ascii"]),
  (.grouped (pairRule gb2312Text), "gb2312", ["chinese", "csiso58gb231280", "euc_cn", "euccn",
    "eucgb2312_cn", "gb2312_1980", "gb2312_80", "iso_ir_58", "x_mac_simp_chinese"]),
  (.grouped (pairRule gbkText), "gbk", ["936", "cp936", "ms936"]),
  (.grouped gb18030Rule, "gb18030", ["gb18030_2000"]),
  (.hz, "hz", ["hz_gb", "hz_gb_2312", "hzgb"]),
  (.grouped (pairRule big5Text), "big5", ["big5_tw", "csbig5", "x_mac_trad_chinese"]),
  (.grouped (pairRule big5WindowsText), "cp950", ["950", "ms950"]),
  (.grouped (pairRule hongKongText), "big5hkscs", ["big5_hkscs", "hkscs"]),
  (.grouped eucJpRule, "euc_jp", ["eucjp", "u_jis", "ujis"]),
  (.grouped (eucJisX0213Rule true), "euc_jis_2004", ["euc_jis2004", "eucjis2004", "jisx0213"]),
  (.grouped (eucJisX0213Rule false), "euc_jisx0213", ["eucjisx0213"]),
  (.grouped shiftJisX0208Rule, "shift_jis", ["csshiftjis", "s_jis", "shiftjis", "sjis",
    "x_mac_japanese"]),
  (.grouped (shiftJisX0213Rule true), "shift_jis_2004", ["s_jis_2004", "shiftjis2004",
    "sjis_2004"]),
  (.grouped (shiftJisX0213Rule false), "shift_jisx0213", ["s_jisx0213", "shiftjisx0213",
    "sjisx0213"]),
  (.grouped shiftJisWindowsRule, "cp932", ["932", "ms932", "ms_kanji", "mskanji"]),
  (.designating .japanese, "iso2022_jp", ["csiso2022jp", "iso2022jp", "iso_2022_jp"]),
  (.designating .japanese1, "iso2022_jp_1", ["iso2022jp_1", "iso_2022_jp_1"]),
  (.designating .japanese2, "iso2022_jp_2", ["iso2022jp_2", "iso_2022_jp_2"]),
  (.designating (.japanese0213 true), "iso2022_jp_2004", ["iso2022jp_2004", "iso_2022_jp_2004"]),
  (.designating (.japanese0213 false), "iso2022_jp_3", ["iso2022jp_3", "iso_2022_jp_3"]),
  (.designating .japaneseKana, "iso2022_jp_ext", ["iso2022jp_ext", "iso_2022_jp_ext"]),
  (.designating .korean, "iso2022_kr", ["csiso2022kr", "iso2022kr", "iso_2022_kr"]),
  (.grouped eucKrRule, "euc_kr", ["euckr", "korean", "ks_c_5601", "ks_c_5601_1987", "ks_x_1001",
    "ksc5601", "ksx1001", "x_mac_korean"]),
  (.grouped (pairRule unifiedHangulText), "cp949", ["949", "ms949", "uhc"]),
  (.grouped (pairRule johabText), "johab", ["cp1361", "ms1361"]),
  (.punycode, "punycode", []),
  (.domain, "idna", []),
  (.undefined, "undefined", []),
  (.binary, "base64_codec", ["base64", "base_64"]),
  (.binary, "bz2_codec", ["bz2"]),
  (.binary, "hex_codec", ["hex"]),
  (.binary, "quopri_codec", ["quopri", "quoted_printable", "quotedprintable"]),
  (.binary, "rot_13", ["rot13"]),
  (.binary, "uu_codec", ["uu"]),
  (.binary, "zlib_codec", ["zip", "zlib"])]

/-- A set has a name, which is its title or an alias. -/
def isNamed (name title : String) (aliases : List String) : Bool :=
  let pointless := String.ofList (name.toList.map fun c => if c = '.' then '_' else c)
  name == title || aliases.contains name || aliases.contains pointless

/-- A letter or digit of a name, or the point. -/
def isNameChar (c : Char) : Bool :=
  c.isAlphanum || c == '.'

/-- A name as it is compared: its rows of letters and digits in lower case, with
underscores between them. -/
def plainName (name : String) : String :=
  let rows := (Text.pieces (!isNameChar ·) name.toList).filter (!·.isEmpty)
  String.ofList ((rows.intersperse ['_']).flatten.map Char.toLower)

/-- The character set of a name. -/
def ofName? (name : String) : Option Charset :=
  let plain := plainName name
  (titled.find? fun (_, title, aliases) => isNamed plain title aliases).map (·.1) <|>
    (ByteTable.all.find? fun t => isNamed plain t.title t.aliases).map fun t => .bytewise t.last

end Maquette.Charset
