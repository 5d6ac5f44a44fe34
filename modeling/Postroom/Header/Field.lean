import Postroom.Header.Cause
import Postroom.Text.Charset
import Postroom.Text.Split

/-!
# Header fields

A header block is a sequence of fields up to an empty line.  A field is a name, a colon and a
value; the value goes on over every line that begins with a blank.  A line without a colon is a
field with an empty value.
-/

namespace Postroom.Header

open Text

/-- A field as it stands in the block. -/
structure Field where
  /-- The bytes before the colon. -/
  key : List UInt8
  /-- The bytes of the value, without the end of its last line. -/
  value : List UInt8
deriving Repr, DecidableEq

namespace Field

/-- The name of a field; every byte is a character. -/
def name (f : Field) : String := String.ofList (latin1 f.key)

/-- The value as text: UTF-8 if it is well-formed, and otherwise every byte is a character. -/
def rawText (f : Field) : List Char := (Utf8.decode? f.value).getD (latin1 f.value)

/-- Whether a field has a given name, in any case of ASCII letters. -/
def isNamed (f : Field) (name : String) : Bool := lowerAscii f.name = lowerAscii name

/-- The bytes up to the end of a value, and the rest. -/
def splitValue : List UInt8 → List UInt8 × List UInt8
  | [] => ([], [])
  | b :: rest =>
    if b = 10 ∧ ¬(rest.head? = some 32 ∨ rest.head? = some 9) then ([b], rest)
    else
      let (value, rest) := splitValue rest
      (b :: value, rest)

/-- The bytes up to a colon or the end of a line, what ended them, and the rest. -/
def splitKey : List UInt8 → List UInt8 × Option UInt8 × List UInt8
  | [] => ([], none, [])
  | b :: rest =>
    if b = 58 ∨ b = 10 then ([], some b, rest)
    else
      let (key, stop, rest) := splitKey rest
      (b :: key, stop, rest)

/-- Whether a byte belongs to the end of a line. -/
def isLineEnd (b : UInt8) : Bool := b = 13 || b = 10

/-- The first field of a block, and the rest. -/
def first (bytes : List UInt8) : Field × List UInt8 :=
  let (key, stop, rest) := splitKey bytes
  if stop = some 58 then
    let (value, rest) := splitValue (rest.dropWhile (· = 32))
    (⟨key, dropEndWhile isLineEnd value⟩, rest)
  else (⟨key, []⟩, rest)

/-- The fields of a block, at most `fuel` of them. -/
def upTo : Nat → List UInt8 → Except Cause (List Field)
  | 0, _ => .ok []
  | fuel + 1, bytes =>
    match bytes with
    | [] => .ok []
    | 10 :: _ => .ok []
    | 13 :: rest => if rest.head? = some 10 then .ok [] else .error .loneCarriageReturn
    | 32 :: _ => .error .leadingSpace
    | bytes => do
      let (field, rest) := first bytes
      return field :: (← upTo fuel rest)

/-- The fields of a block; every field takes up at least one byte. -/
def ofBlock (bytes : List UInt8) : Except Cause (List Field) := upTo bytes.length bytes

end Field

end Postroom.Header
