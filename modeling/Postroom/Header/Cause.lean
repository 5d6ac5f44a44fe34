/-!
# Why a header block is refused

The faults in the header block of a message that keep it from being read, and their wording.
-/

namespace Postroom.Header

/-- Why a header block, or the list of addresses in a header, cannot be read. -/
inductive Cause where
  /-- The block begins with a blank. -/
  | leadingSpace
  /-- A carriage return without a line feed ends the block. -/
  | loneCarriageReturn
  /-- A semicolon ends a group that was not begun. -/
  | groupNotBegun
  /-- A group begins inside a group. -/
  | groupNested
  /-- A group is not ended. -/
  | groupNotEnded
  /-- The list ends inside an address. -/
  | addressCutShort
  /-- Something other than a separator follows an address in angle brackets. -/
  | afterBracket
  /-- An encoded word follows an address in angle brackets. -/
  | encodedAfterBracket
  /-- An address has no at sign. -/
  | noAtSign
deriving Repr, DecidableEq

/-- A cause in words. -/
def Cause.message : Cause → String
  | leadingSpace =>
    "Header cannot start with a space; it is likely an overhanging line from a previous header"
  | loneCarriageReturn => "Headers were followed by an unexpected lone CR character!"
  | groupNotBegun => "Unexpected group terminator found in initial list"
  | groupNested => "Found unexpected nested group"
  | groupNotEnded => "Found unterminated group address"
  | addressCutShort => "Address string unexpectedly terminated"
  | afterBracket => "Unexpected char found after bracketed address"
  | encodedAfterBracket => "Unexpected encoded word found after bracketed address"
  | noAtSign => "Invalid address found: must contain a '@' symbol"

end Postroom.Header
