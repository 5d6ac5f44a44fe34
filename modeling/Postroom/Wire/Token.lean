import Postroom.Text.Decimal
import Postroom.Text.Utf8
import Postroom.Wire.Reader

/-!
# The words of the wire

Atoms, numbers, texts, quoted strings and literals, of which everything a server sends is made.  A
quoted string is kept as it is written: a backslash and the character after it stay two characters.
A literal announces its length and may hold any byte but zero.
-/

namespace Postroom.Wire

open Text Reader

/-- A text of ASCII bytes. -/
def asciiString (bs : List UInt8) : String := String.ofList (bs.map fun b => Char.ofNat b.toNat)

/-- Whether a byte is a character of ASCII other than the zero. -/
def isAscii (b : UInt8) : Bool := 1 ≤ b && b ≤ 127

/-- Whether a byte can stand in a line of text. -/
def isTextByte (b : UInt8) : Bool := isAscii b && b != 13 && b != 10

/-- Whether a byte has a meaning of its own between atoms: a bracket, a wildcard, a quote, a
backslash, a blank or a control character. -/
def isAtomSpecial (b : UInt8) : Bool :=
  b ≤ 32 || b == 127 || [40, 41, 123, 37, 42, 34, 92, 93].contains b

/-- Whether a byte can stand in an atom. -/
def isAtomByte (b : UInt8) : Bool := isAscii b && !isAtomSpecial b

/-- Whether a byte can stand in a word, where the closing bracket is allowed as well. -/
def isWordByte (b : UInt8) : Bool := isAtomByte b || b == 93

/-- Whether a byte can stand in a tag. -/
def isTagByte (b : UInt8) : Bool := isWordByte b && b != 43

/-- Whether a byte is a digit. -/
def isDigitByte (b : UInt8) : Bool := 48 ≤ b && b ≤ 57

/-- Reads an atom. -/
def atom : Reader String := do return asciiString (← takeWhile1 isAtomByte)

/-- Reads a number up to a limit. -/
def numberUpTo (limit : Nat) : Reader Nat :=
  (takeWhile1 isDigitByte).filterMap fun ds => Decimal.readUpTo? limit (asciiString ds).toList

/-- Reads a number of 32 bits. -/
def number : Reader Nat := numberUpTo Decimal.maxUInt32

/-- Reads a number of 64 bits. -/
def longNumber : Reader Nat := numberUpTo Decimal.maxUInt64

/-- Reads text up to the end of the line. -/
def text : Reader String := do return asciiString (← takeWhile isTextByte)

/-- Reads the end of a line. -/
def lineEnd : Reader Unit := bytes [13, 10]

/-- Reads what stands in quotes, up to the closing quote. -/
def quotedBody : Reader (List UInt8)
  | [] => .more
  | 92 :: [] => .more
  | 92 :: e :: rest =>
    if e = 92 ∨ e = 34 then
      match quotedBody rest with
      | .done bs rest => .done (92 :: e :: bs) rest
      | outcome => outcome
    else .fail
  | b :: rest =>
    if isTextByte b && b != 34 then
      match quotedBody rest with
      | .done bs rest => .done (b :: bs) rest
      | outcome => outcome
    else .done [] (b :: rest)

/-- Reads a quoted string. -/
def quotedString : Reader (List UInt8) := between '"' '"' quotedBody

/-- Reads a literal. -/
def literal : Reader (List UInt8) := do
  let size ← between '{' '}' number
  lineEnd
  (take size).filterMap fun bs => if bs.contains 0 then none else some bs

/-- Reads a string. -/
def string : Reader (List UInt8) := orElse quotedString literal

/-- Reads the word for nothing. -/
def nil : Reader Unit := word "NIL"

/-- Reads a string, or the word for nothing. -/
def stringOrNil : Reader (Option (List UInt8)) :=
  orElse (do nil; return none) (do return some (← string))

/-- Reads a word or a string. -/
def wordOrString : Reader (List UInt8) := orElse (takeWhile1 isWordByte) string

/-- Reads bytes that are UTF-8. -/
def utf8 (p : Reader (List UInt8)) : Reader String := p.filterMap Utf8.string?

/-- Reads a string that is UTF-8, or the word for nothing. -/
def textOrNil : Reader (Option String) :=
  orElse (do nil; return none) (do return some (← utf8 string))

/-- Reads a mailbox name; the inbox is named in any case of letters. -/
def mailboxName : Reader String := do
  let name ← utf8 wordOrString
  return if name.toList.map Char.toUpper = "INBOX".toList then "INBOX" else name

/-- Reads a list in parentheses. -/
def listOf {α : Type} (p : Reader α) : Reader (List α) := inParens (sepBy (char ' ') p)

/-- Reads a list in parentheses that is not empty. -/
def listOf1 {α : Type} (p : Reader α) : Reader (List α) := inParens (sepBy1 (char ' ') p)

/-- Reads a system flag, which is a backslash and an atom that may be empty. -/
def systemFlag : Reader String := do
  char '\\'
  return "\\" ++ asciiString (← takeWhile isAtomByte)

/-- Reads the flag that stands for all flags to come. -/
def anyFlag : Reader String := do
  word "\\*"
  return "\\*"

/-- Reads a list of flags. -/
def flagList : Reader (List String) := listOf (choice [anyFlag, systemFlag, atom])

/-- Consecutive identifiers. -/
structure UidRange where
  /-- The first of them. -/
  first : Nat
  /-- The last of them. -/
  last : Nat
deriving Repr, DecidableEq

/-- Reads two identifiers in any order. -/
def uidPair : Reader UidRange := do
  let a ← number
  char ':'
  let b ← number
  return if a ≤ b then ⟨a, b⟩ else ⟨b, a⟩

/-- Reads a set of identifiers. -/
def uidSet : Reader (List UidRange) :=
  sepBy1 (char ',') (orElse uidPair (do let a ← number; return ⟨a, a⟩))

/-- Reads one or more blanks or tabs. -/
def gap : Reader Unit := do
  let _ ← takeWhile1 fun b => b == 32 || b == 9
  return ()

end Postroom.Wire
