/-!
# UTF-16

Texts as 16-bit units, and units as bytes with the high byte first.  A character outside the basic
plane takes two units, a high surrogate and a low one; decoding refuses a surrogate that stands
alone.
-/

namespace Postroom.Text.Utf16

/-- The units of a character. -/
def unitsOfChar (c : Char) : List UInt16 :=
  if c.toNat < 0x10000 then [UInt16.ofNat c.toNat]
  else
    let n := c.toNat - 0x10000
    [UInt16.ofNat (0xd800 + n / 0x400), UInt16.ofNat (0xdc00 + n % 0x400)]

/-- The units of a text. -/
def units (cs : List Char) : List UInt16 := cs.flatMap unitsOfChar

/-- The two bytes of a unit, high byte first. -/
def bytesOfUnit (u : UInt16) : List UInt8 :=
  [UInt8.ofNat (u.toNat / 256), UInt8.ofNat (u.toNat % 256)]

/-- The bytes of a text, high bytes first. -/
def bytes (cs : List Char) : List UInt8 := (units cs).flatMap bytesOfUnit

/-- Reads bytes in pairs, high byte first; refuses an odd number of bytes. -/
def unitsOfBytes? : List UInt8 → Option (List UInt16)
  | [] => some []
  | [_] => none
  | hi :: lo :: rest => (unitsOfBytes? rest).map (UInt16.ofNat (hi.toNat * 256 + lo.toNat) :: ·)

/-- Whether a unit is the first half of a pair. -/
def isHigh (u : UInt16) : Bool := 0xd800 ≤ u && u < 0xdc00

/-- Whether a unit is the second half of a pair. -/
def isLow (u : UInt16) : Bool := 0xdc00 ≤ u && u < 0xe000

/-- The character of a surrogate pair. -/
def pair (hi lo : UInt16) : Char :=
  Char.ofNat (0x10000 + (hi.toNat - 0xd800) * 0x400 + (lo.toNat - 0xdc00))

/-- The text of a list of units; refuses a surrogate that stands alone. -/
def decode? : List UInt16 → Option (List Char)
  | [] => some []
  | u :: rest =>
    if isHigh u then
      match rest with
      | v :: rest => if isLow v then (decode? rest).map (pair u v :: ·) else none
      | [] => none
    else if isLow u then none
    else (decode? rest).map (Char.ofNat u.toNat :: ·)

/-- The text of bytes, high bytes first. -/
def ofBytes? (bs : List UInt8) : Option (List Char) := (unitsOfBytes? bs).bind decode?

end Postroom.Text.Utf16
