import Postroom.Text.Charset.BigFiveTable
import Postroom.Text.Charset.GbTable
import Postroom.Text.Charset.JisTable
import Postroom.Text.Charset.KoreanTable

/-!
# Character sets with several bytes to a character

Decoding the character sets of East Asia.  A byte below 128 is always ASCII where a character
begins.  Where bytes stand for nothing there is one replacement character, and if the last of them
is ASCII, reading goes on with it.
-/

namespace Postroom.Text.Charset

/-- What stands for bytes that mean nothing. -/
def replacement : Char := '\ufffd'

/-- The character with a number in a table. -/
def numbered? (table : List String) (n : Nat) : Option Char :=
  ((table[n / 80]?).bind fun line => line.toList[n % 80]?).filter (· ≠ '-')

/-- The character with a number in runs of characters. -/
def inRuns? (runs : List (Nat × Nat × Nat)) (n : Nat) : Option Char :=
  (runs.find? fun r => r.1 ≤ n && n < r.1 + r.2.1).map fun r => Char.ofNat (r.2.2 + (n - r.1))

/-- Whether a byte lies within bounds. -/
def within (least greatest : Nat) (b : UInt8) : Bool := least ≤ b.toNat && b.toNat ≤ greatest

/-- A set with one byte or two to a character. -/
structure TwoByte where
  /-- Whether a byte is the first of two. -/
  isFirst : UInt8 → Bool
  /-- The character of a byte from 128 on. -/
  single? : UInt8 → Option Char
  /-- The characters of two bytes, none if they mean nothing. -/
  pair : UInt8 → UInt8 → List Char

/-- Decodes a set with one byte or two to a character. -/
def TwoByte.decode (set : TwoByte) : List UInt8 → List Char
  | [] => []
  | b :: rest =>
    if b < 0x80 then Char.ofNat b.toNat :: set.decode rest
    else if set.isFirst b then
      match rest with
      | [] => [replacement]
      | c :: more =>
        match set.pair b c with
        | [] => replacement :: if c < 0x80 then set.decode (c :: more) else set.decode more
        | cs => cs ++ set.decode more
    else ((set.single? b).getD replacement) :: set.decode rest

/-- The number of a second byte that stands in two ranges, the second of them after a gap. -/
def place? (low : Nat × Nat) (high : Nat × Nat) (b : UInt8) : Option Nat :=
  if within low.1 low.2 b then some (b.toNat - low.1)
  else if within high.1 high.2 b then some (b.toNat - high.1 + (low.2 + 1 - low.1))
  else none

/-- The characters of Big5 that are a letter with a mark. -/
def bigFiveMarked? : Nat → Option (List Char)
  | 1133 => some ['\u00ca', '\u0304']
  | 1135 => some ['\u00ca', '\u030c']
  | 1164 => some ['\u00ea', '\u0304']
  | 1166 => some ['\u00ea', '\u030c']
  | _ => none

/-- Big5. -/
def bigFiveSet : TwoByte where
  isFirst := within 0x81 0xfe
  single? _ := none
  pair b c :=
    match place? (0x40, 0x7e) (0xa1, 0xfe) c with
    | none => []
    | some second =>
      let n := (b.toNat - 0x81) * 157 + second
      (bigFiveMarked? n).getD (numbered? bigFiveChars n).toList

/-- The set for Korean. -/
def koreanSet : TwoByte where
  isFirst := within 0x81 0xfe
  single? _ := none
  pair b c :=
    if within 0x41 0xfe c then
      (numbered? koreanChars ((b.toNat - 0x81) * 190 + (c.toNat - 0x41))).toList
    else []

/-- A Japanese syllable of half width, by its number among them. -/
def halfWidth (n : Nat) : Char := Char.ofNat (0xff61 + n)

/-- The character of two bytes in Shift JIS. -/
def shiftJisPair? (b c : UInt8) : Option Char := do
  let second ← place? (0x40, 0x7e) (0x80, 0xfc) c
  let n := (b.toNat - (if b < 0xa0 then 0x81 else 0xc1)) * 188 + second
  if 8836 ≤ n ∧ n ≤ 10715 then return Char.ofNat (0xe000 + (n - 8836))
  numbered? jisChars n

/-- Shift JIS. -/
def shiftJisSet : TwoByte where
  isFirst b := within 0x81 0x9f b || within 0xe0 0xfc b
  single? b :=
    if b = 0x80 then some '\u0080'
    else if within 0xa1 0xdf b then some (halfWidth (b.toNat - 0xa1)) else none
  pair b c := (shiftJisPair? b c).toList

/-- The number of two bytes of a square of 94 by 94, whose first row and column have a number. -/
def square? (first : Nat) (b c : UInt8) : Option Nat :=
  if within first (first + 93) b && within first (first + 93) c then
    some ((b.toNat - first) * 94 + (c.toNat - first))
  else none

/-- The character of two bytes in EUC-JP. -/
def eucJpPair? (b c : UInt8) : Option Char :=
  if b = 0x8e then
    if within 0xa1 0xdf c then some (halfWidth (c.toNat - 0xa1)) else none
  else (square? 0xa1 b c).bind (numbered? jisChars)

/-- Decodes EUC-JP. -/
def decodeEucJp : List UInt8 → List Char
  | [] => []
  | b :: rest =>
    if b < 0x80 then Char.ofNat b.toNat :: decodeEucJp rest
    else if b = 0x8f || b = 0x8e || within 0xa1 0xfe b then
      match rest with
      | [] => [replacement]
      | c :: more =>
        if b = 0x8f && within 0xa1 0xfe c then
          match more with
          | [] => [replacement]
          | d :: last =>
            match (square? 0xa1 c d).bind (numbered? jisFurtherChars) with
            | some ch => ch :: decodeEucJp last
            | none =>
              replacement :: if d < 0x80 then decodeEucJp (d :: last) else decodeEucJp last
        else
          match eucJpPair? b c with
          | some ch => ch :: decodeEucJp more
          | none => replacement :: if c < 0x80 then decodeEucJp (c :: more) else decodeEucJp more
    else replacement :: decodeEucJp rest

/-- The sets between which ISO-2022-JP switches. -/
inductive JapaneseMode where
  | ascii
  | roman
  | katakana
  | jis
deriving Repr, DecidableEq

/-- The set that two bytes after an escape switch to. -/
def JapaneseMode.ofBytes? (a b : UInt8) : Option JapaneseMode :=
  if a = 0x28 then
    if b = 0x42 then some .ascii
    else if b = 0x4a then some .roman
    else if b = 0x49 then some .katakana
    else none
  else if a = 0x24 ∧ (b = 0x40 ∨ b = 0x42) then some .jis
  else none

/-- The character of one byte in a set. -/
def JapaneseMode.single? (mode : JapaneseMode) (b : UInt8) : Option Char :=
  match mode with
  | .katakana => if within 0x21 0x5f b then some (halfWidth (b.toNat - 0x21)) else none
  | .jis => none
  | mode =>
    if 0x80 ≤ b ∨ b = 0x0e ∨ b = 0x0f then none
    else if mode = .roman ∧ b = 0x5c then some '\u00a5'
    else if mode = .roman ∧ b = 0x7e then some '\u203e'
    else some (Char.ofNat b.toNat)

/-- Decodes ISO-2022-JP.  `fresh` says that a set was switched to and nothing followed yet;
switching again then means nothing. -/
def decodeIso2022Jp (mode : JapaneseMode) (fresh : Bool) : List UInt8 → List Char
  | [] => []
  | b :: rest =>
    if b = 0x1b then
      match rest with
      | c :: d :: more =>
        match JapaneseMode.ofBytes? c d with
        | some mode => (if fresh then [replacement] else []) ++ decodeIso2022Jp mode true more
        | none => replacement :: decodeIso2022Jp mode false (c :: d :: more)
      | rest => replacement :: decodeIso2022Jp mode false rest
    else if mode = .jis ∧ within 0x21 0x7e b then
      match rest with
      | [] => [replacement]
      | c :: more =>
        if c = 0x1b then replacement :: decodeIso2022Jp mode false (c :: more)
        else
          (((square? 0x21 b c).bind (numbered? jisChars)).getD replacement)
            :: decodeIso2022Jp mode false more
    else ((mode.single? b).getD replacement) :: decodeIso2022Jp mode false rest

/-- The character of two bytes in GB 18030. -/
def gbPair? (b c : UInt8) : Option Char := do
  let n := (b.toNat - 0x81) * 190 + (← place? (0x40, 0x7e) (0x80, 0xfe) c)
  (numbered? gbChars n).or (inRuns? gbPrivate n)

/-- The character of four bytes in GB 18030. -/
def gbQuadruple? (a b c d : UInt8) : Option Char :=
  let n :=
    (((a.toNat - 0x81) * 10 + (b.toNat - 0x30)) * 126 + (c.toNat - 0x81)) * 10 + (d.toNat - 0x30)
  if 189000 ≤ n ∧ n - 189000 + 0x10000 ≤ 0x10ffff then some (Char.ofNat (n - 189000 + 0x10000))
  else inRuns? gbRuns n

/-- Whether a byte is an ASCII digit. -/
def isDigitByte (b : UInt8) : Bool := within 0x30 0x39 b

/-- Decodes GB 18030. -/
def decodeGb : List UInt8 → List Char
  | [] => []
  | b :: rest =>
    if b < 0x80 then Char.ofNat b.toNat :: decodeGb rest
    else if b = 0x80 then '\u20ac' :: decodeGb rest
    else if b = 0xff then replacement :: decodeGb rest
    else
      match rest with
      | [] => [replacement]
      | c :: more =>
        if isDigitByte c then
          match more with
          | [] => [replacement]
          | d :: last =>
            if within 0x81 0xfe d then
              match last with
              | [] => [replacement]
              | e :: last =>
                if isDigitByte e then ((gbQuadruple? b c d e).getD replacement) :: decodeGb last
                else replacement :: decodeGb (c :: d :: e :: last)
            else replacement :: decodeGb (c :: d :: last)
        else
          match gbPair? b c with
          | some ch => ch :: decodeGb more
          | none => replacement :: if c < 0x80 then decodeGb (c :: more) else decodeGb more

end Postroom.Text.Charset
