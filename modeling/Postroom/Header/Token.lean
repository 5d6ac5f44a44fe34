import Postroom.Header.Field
import Postroom.Text.Blank
import Postroom.Text.Quoted

/-!
# Encoded words

A header value may hold words in other character sets, written `=?charset?how?text?=`.  Blanks
between two such words mean nothing; a line end means one blank.  A word counts only where a
boundary stands before and after it, and one that cannot be decoded stands for itself.
-/

namespace Postroom.Header

open Text

/-- A piece of a header value. -/
inductive Token where
  /-- Text that stands for itself. -/
  | text (cs : List Char)
  /-- White space. -/
  | blank (cs : List Char)
  /-- The end of a line. -/
  | newline
  /-- A decoded word. -/
  | word (cs : List Char)
deriving Repr, DecidableEq

/-- Base64 in encoded words: blocks of four characters, padded; ends of lines are passed over, and
leftover bits do not matter. -/
def base64Blocks? : List Char → Option (List UInt8)
  | a :: b :: '=' :: '=' :: rest =>
    match Base64.mime.value? a, Base64.mime.value? b with
    | some a, some b => do return (← Base64.bytesOfValues? true [a, b]) ++ (← base64Blocks? rest)
    | _, _ => none
  | a :: b :: c :: d :: rest =>
    match Base64.mime.value? a, Base64.mime.value? b, Base64.mime.value? c with
    | some a, some b, some c =>
      if d = '=' then do
        return (← Base64.bytesOfValues? true [a, b, c]) ++ (← base64Blocks? rest)
      else
        match Base64.mime.value? d with
        | some d => do
          return (← Base64.bytesOfValues? true [a, b, c, d]) ++ (← base64Blocks? rest)
        | none => none
    | _, _, _ => none
  | [] => some []
  | _ => none

/-- The value of a hexadecimal digit. -/
def hexValue? (c : Char) : Option Nat :=
  if '0' ≤ c ∧ c ≤ '9' then some (c.toNat - 48)
  else if 'a' ≤ c ∧ c ≤ 'f' then some (c.toNat - 87)
  else if 'A' ≤ c ∧ c ≤ 'F' then some (c.toNat - 55)
  else none

/-- The byte of an ASCII character. -/
def asciiByte (c : Char) : UInt8 := UInt8.ofNat c.toNat

/-- Text in which an equals sign and two hexadecimal digits stand for a byte.  An equals sign
before anything else stands for itself, and is dropped at the end. -/
def quotedBytes : List Char → List UInt8
  | '=' :: a :: b :: rest =>
    match hexValue? a, hexValue? b with
    | some x, some y => UInt8.ofNat (x * 16 + y) :: quotedBytes rest
    | _, _ => 61 :: asciiByte a :: asciiByte b :: quotedBytes rest
  | ['='] => []
  | c :: rest => asciiByte c :: quotedBytes rest
  | [] => []

/-- Whether a character counts in quoted text: blanks and printable ASCII. -/
def isQuotable (c : Char) : Bool := c = '\t' || c = '\r' || c = '\n' || (' ' ≤ c && c ≤ '~')

/-- The bytes of quoted text, with an underscore for a blank; blanks at its end are kept. -/
def quotedWord (cs : List Char) : List UInt8 :=
  let spaced := cs.map fun c => if c = '_' then ' ' else c
  let body := trimEnd spaced
  quotedBytes (trimEnd (body.filter isQuotable)) ++
    (spaced.drop body.length).flatMap Utf8.encodeChar

/-- The text of an encoded word, given what stands between its outer marks. -/
def decodeWord? (inner : List Char) : Option (List Char) := do
  let (charset, rest) ← cut? ['?'] inner
  let (how, input) ← cut? ['?'] rest
  let bytes ← match how with
    | ['B'] | ['b'] => base64Blocks? (input.filter fun c => !(c = '\r' || c = '\n'))
    | ['Q'] | ['q'] => some (quotedWord input)
    | _ => none
  return (← Charset.ofLabel? charset).decode bytes

namespace Token

/-- The number of bytes of a text. -/
def byteCount (cs : List Char) : Nat := cs.foldl (fun n c => n + c.utf8Size) 0

/-- Whether a word may begin after, or end before, the character with a given number in its line;
the ends of the line are boundaries too.  The number is counted in bytes and looked up in
characters, so the test sees the neighbour of a word only in a line whose characters before it are
ASCII. -/
def isBoundary (chars : List Char) (number : Option Nat) : Bool :=
  match number.bind fun n => chars[n]? with
  | none => true
  | some c => isBlank c || ['"', '(', ')', '<', '>', ','].contains c

/-- Text, or white space if it is nothing else. -/
def ofText (cs : List Char) : Token := if cs.all isBlank then blank cs else text cs

/-- The end of the encoded word that begins `rest`: the word's inner text, the place after the
word, and what stands there.  `inner` holds what has been passed over. -/
def findEnd (line : List Char) : Nat → Nat → List Char → List Char →
    Option (List Char × Nat × List Char)
  | 0, _, _, _ => none
  | fuel + 1, place, inner, rest =>
    match cut? ['?', '='] rest with
    | none => none
    | some (before, after) =>
      let place := place + byteCount before + 2
      if isBoundary line (some place) then some (inner ++ before, place, after)
      else findEnd line fuel place (inner ++ before ++ ['?', '=']) after

/-- The tokens of what is left of a line from a place on. -/
def ofLineFrom (line : List Char) : Nat → Nat → List Char → List Token
  | 0, _, rest => [ofText rest]
  | fuel + 1, place, rest =>
    match cut? ['=', '?'] rest with
    | none => [ofText rest]
    | some (before, after) =>
      let start := place + byteCount before
      if isBoundary line (if start = 0 then none else some (start - 1)) then
        ofText before ::
          match findEnd line (fuel + 1) (start + 2) [] after with
          | some (inner, place, after) =>
            (match decodeWord? inner with
              | some cs => word cs
              | none => text (['=', '?'] ++ inner ++ ['?', '='])) :: ofLineFrom line fuel place after
          | none => text ['=', '?'] :: ofLineFrom line fuel (start + 2) after
      else text (before ++ ['=', '?']) :: ofLineFrom line fuel (start + 2) after

/-- The tokens of a line. -/
def ofLine (line : List Char) : List Token := ofLineFrom line (line.length + 1) 0 line

/-- The tokens of a text of several lines, without the blanks at the front of each. -/
def ofLines (cs : List Char) : List Token :=
  (List.intersperse [newline] ((lines cs).map fun l => ofLine (trimStart l))).flatten

/-- What stands after a decoded word and may turn out to mean nothing. -/
inductive Pending where
  /-- Nothing: there is no decoded word just before. -/
  | nothing
  /-- A decoded word. -/
  | word
  /-- White space after a decoded word. -/
  | blank (cs : List Char)
  /-- White space with a line end in it. -/
  | folded (cs : List Char)

/-- Tokens without the white space between decoded words, and with a blank for a line end. -/
def joinFrom : Pending → List Token → List Token
  | _, [] => []
  | pending, text cs :: rest =>
    (match pending with
      | .blank ws | .folded ws => [blank ws]
      | _ => []) ++ text cs :: joinFrom .nothing rest
  | pending, blank cs :: rest =>
    match pending with
    | .word => joinFrom (.blank cs) rest
    | _ => blank cs :: joinFrom .nothing rest
  | pending, newline :: rest =>
    match pending with
    | .blank ws => joinFrom (.folded (ws ++ [' '])) rest
    | .word => joinFrom (.folded [' ']) rest
    | _ => blank [' '] :: joinFrom .nothing rest
  | _, word cs :: rest => word cs :: joinFrom .word rest

/-- The characters of a token. -/
def chars : Token → List Char
  | text cs | blank cs | word cs => cs
  | newline => [' ']

end Token

namespace Field

/-- The tokens of a field's value. -/
def tokens (f : Field) : List Token := Token.joinFrom .nothing (Token.ofLines f.rawText)

/-- A field's value in full. -/
def text (f : Field) : String := String.ofList (f.tokens.flatMap Token.chars)

end Field

end Postroom.Header
