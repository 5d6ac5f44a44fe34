import Postroom.Text.Base64
import Postroom.Text.Charset.MultiByte
import Postroom.Text.Charset.SingleByte
import Postroom.Text.Lower
import Postroom.Text.Utf16
import Postroom.Text.Utf8

/-!
# Character sets

Finding a character set by one of its labels, and decoding bytes in it.  Decoding never fails: what
stands for nothing becomes the replacement character.  Sets in which bytes can hide their meaning
have no label here.
-/

namespace Postroom.Text

/-- A character set. -/
inductive Charset where
  /-- UTF-8. -/
  | utf8
  /-- UTF-16 with the low or the high byte first. -/
  | utf16 (highFirst : Bool)
  /-- UTF-7. -/
  | utf7
  /-- ASCII, and a character for each byte from 128 on. -/
  | singleByte (upper : List Char)
  /-- GB 18030, and the smaller sets for simplified Chinese within it. -/
  | gb18030
  /-- Big5. -/
  | bigFive
  /-- Shift JIS. -/
  | shiftJis
  /-- EUC-JP. -/
  | eucJp
  /-- ISO-2022-JP. -/
  | iso2022Jp
  /-- EUC-KR. -/
  | eucKr
deriving Repr, DecidableEq

namespace Charset

/-- The sets without a table of 128 characters, each with its labels. -/
def labelled : List (Charset × List String) := [
    (utf8, ["unicode-1-1-utf-8", "unicode11utf8", "unicode20utf8", "utf-8", "utf8",
      "x-unicode20utf8"]),
    (utf16 false, ["csunicode", "iso-10646-ucs-2", "ucs-2", "unicode", "unicodefeff", "utf-16",
      "utf-16le"]),
    (utf16 true, ["unicodefffe", "utf-16be"]),
    (gb18030, ["chinese", "csgb2312", "csiso58gb231280", "gb18030", "gb2312", "gb_2312",
      "gb_2312-80", "gbk", "iso-ir-58", "x-gbk"]),
    (bigFive, ["big5", "big5-hkscs", "cn-big5", "csbig5", "x-x-big5"]),
    (shiftJis, ["csshiftjis", "ms932", "ms_kanji", "shift-jis", "shift_jis", "sjis", "windows-31j",
      "x-sjis"]),
    (eucJp, ["cseucpkdfmtjapanese", "euc-jp", "x-euc-jp"]),
    (iso2022Jp, ["csiso2022jp", "iso-2022-jp"]),
    (eucKr, ["cseuckr", "csksc56011987", "euc-kr", "iso-ir-149", "korean", "ks_c_5601-1987",
      "ks_c_5601-1989", "ksc5601", "ksc_5601", "windows-949"]),
    (singleByte ((List.range 128).map fun n => Char.ofNat (0xf780 + n)), ["x-user-defined"])]

/-- Whether a character is one of the blanks that may stand around a label. -/
def isLabelBlank (c : Char) : Bool := ['\t', '\n', '\x0c', '\r', ' '].contains c

/-- The character set with a given label, in any case of ASCII letters. -/
def ofLabel? (label : List Char) : Option Charset :=
  if lowerAscii (String.ofList label) = "utf-7" then some utf7
  else
    let trimmed := ((label.dropWhile isLabelBlank).reverse.dropWhile isLabelBlank).reverse
    let name := lowerAscii (String.ofList trimmed)
    match labelled.find? (·.2.contains name) with
    | some entry => some entry.1
    | none => (singleBytes.find? (·.1.contains name)).map fun entry =>
        singleByte (entry.2.flatMap String.toList)

/-- The units of bytes in pairs, and whether a byte is left over. -/
def units (highFirst : Bool) : List UInt8 → List UInt16 × Bool
  | [] => ([], false)
  | [_] => ([], true)
  | a :: b :: rest =>
    let (us, odd) := units highFirst rest
    let n := if highFirst then a.toNat * 256 + b.toNat else b.toNat * 256 + a.toNat
    (UInt16.ofNat n :: us, odd)

/-- The text of UTF-16 units, with a replacement character for each surrogate that stands alone. -/
def ofUnits : List UInt16 → List Char
  | [] => []
  | u :: rest =>
    if Utf16.isHigh u then
      match rest with
      | v :: more =>
        if Utf16.isLow v then Utf16.pair u v :: ofUnits more else '\ufffd' :: ofUnits (v :: more)
      | [] => ['\ufffd']
    else if Utf16.isLow u then '\ufffd' :: ofUnits rest
    else Char.ofNat u.toNat :: ofUnits rest

/-- The text of a shifted run of UTF-7. -/
def ofShifted (run : List UInt8) : List Char :=
  let values := run.filterMap fun b => Base64.mime.value? (Char.ofNat b.toNat)
  let whole := if values.length % 4 = 1 then values.dropLast else values
  let (us, odd) := units true ((Base64.bytesOfValues? true whole).getD [])
  ofUnits us ++ if odd then ['\ufffd'] else []

/-- The text of UTF-7; `shifted` holds a shifted run being read, last byte first. -/
def ofUtf7 (shifted : Option (List UInt8)) : List UInt8 → List Char
  | [] =>
    match shifted with
    | some run => ofShifted run.reverse
    | none => []
  | b :: rest =>
    let c := Char.ofNat b.toNat
    match shifted with
    | none =>
      if c = '+' then ofUtf7 (some []) rest
      else if b < 0x80 then c :: ofUtf7 none rest
      else '\ufffd' :: ofUtf7 none rest
    | some run =>
      if (Base64.mime.value? c).isSome then ofUtf7 (some (b :: run)) rest
      else if run.isEmpty ∧ c = '-' then '+' :: ofUtf7 none rest
      else
        ofShifted run.reverse ++ (if c = '-' then [] else if b < 0x80 then [c] else ['\ufffd'])
          ++ ofUtf7 none rest

/-- The text of bytes in a character set. -/
def decode (bytes : List UInt8) : Charset → List Char
  | utf8 => Utf8.decodeLossy bytes
  | utf16 highFirst =>
    let (us, odd) := units highFirst bytes
    ofUnits us ++ if odd then ['\ufffd'] else []
  | utf7 => ofUtf7 none bytes
  | singleByte upper => bytes.map fun b =>
      if b < 0x80 then Char.ofNat b.toNat else upper.getD (b.toNat - 128) '\ufffd'
  | gb18030 => decodeGb bytes
  | bigFive => bigFiveSet.decode bytes
  | shiftJis => shiftJisSet.decode bytes
  | eucJp => decodeEucJp bytes
  | iso2022Jp => decodeIso2022Jp .ascii false bytes
  | eucKr => koreanSet.decode bytes

end Charset

/-- The text of bytes that are one character each, by number. -/
def latin1 (bytes : List UInt8) : List Char := bytes.map fun b => Char.ofNat b.toNat

end Postroom.Text
