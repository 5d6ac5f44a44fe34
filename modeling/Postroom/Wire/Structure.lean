import Postroom.Header.Normal
import Postroom.Wire.Token

/-!
# Envelopes and the structure of messages

Of an envelope the date, the subject and the identifier are kept, of the structure of a content
nothing but that it was read.  A content can hold others, so its reader goes down into them; it is
given the depth to which it may go, and `partStructure` gives it one that is enough.
-/

namespace Postroom.Wire

open Text Reader

/-- Forgets what was read. -/
def skip {α : Type} (p : Reader α) : Reader Unit := do
  let _ ← p
  return ()

/-- Reads things in a row, each after a blank but the first. -/
def inRow : List (Reader Unit) → Reader Unit
  | [] => return ()
  | [p] => p
  | p :: ps => do
    p
    char ' '
    inRow ps

/-- Reads an address. -/
def address : Reader Unit :=
  inParens (inRow (List.replicate 4 (skip stringOrNil)))

/-- Reads a list of addresses, or the word for nothing. -/
def addresses : Reader Unit :=
  orElse nil (inParens (skip (many1 (do address; skip (optional (char ' '))))))

/-- Reads an envelope. -/
def envelope : Reader Envelope := inParens do
  let date ← stringOrNil
  char ' '
  let subject ← stringOrNil
  char ' '
  inRow (List.replicate 6 addresses ++ [skip stringOrNil])
  char ' '
  let identifier ← stringOrNil
  return ⟨date.map Utf8.stringLossy, subject.map Utf8.stringLossy, identifier.map Utf8.stringLossy⟩

/-- Reads a string that is UTF-8. -/
def textString : Reader Unit := skip (utf8 string)

/-- Reads named values, or the word for nothing. -/
def parameters : Reader Unit := orElse nil (skip (listOf1 (inRow [textString, textString])))

/-- Reads how a content is encoded. -/
def encoding : Reader Unit :=
  orElse
    (between '"' '"' (choice
      [word "7BIT", word "8BIT", word "BINARY", word "BASE64", word "QUOTED-PRINTABLE"]))
    textString

/-- Reads the fields that every content has: parameters, identifier, description, encoding, size. -/
def commonFields : Reader Unit :=
  inRow [parameters, skip textOrNil, skip textOrNil, encoding, skip number]

/-- Reads how a content is to be shown. -/
def disposition : Reader Unit := orElse nil (inParens (inRow [textString, parameters]))

/-- Reads the languages of a content. -/
def languages : Reader Unit := orElse (skip textOrNil) (skip (listOf1 textString))

/-- Reads a value of a later extension, nested to some depth. -/
def extension : Nat → Reader Unit
  | 0, _ => .fail
  | depth + 1, input =>
    choice [skip number, skip textOrNil, skip (listOf1 (extension depth))] input

/-- Reads the optional fields at the end of a content, of which `first` is the first. -/
def closingFields (depth : Nat) (first : Reader Unit) : Reader Unit := do
  skip (optional (spaced first))
  skip (optional (spaced disposition))
  skip (optional (spaced languages))
  skip (optional (spaced (skip textOrNil)))
  skip (optional (spaced (extension depth)))

/-- Reads the structure of a content, given a reader for the contents inside it. -/
def partAround (depth : Nat) (inner : Reader Unit) : Reader Unit :=
  let single := closingFields depth (skip textOrNil)
  inParens (choice [
    do
      inRow [word "\"TEXT\"", textString, commonFields, skip number]
      single,
    do
      inRow [word "\"MESSAGE\" \"RFC822\"", commonFields, skip envelope, inner, skip number]
      single,
    do
      inRow [textString, textString, commonFields]
      single,
    do
      inRow [skip (many1 inner), textString]
      closingFields depth parameters])

/-- Reads the structure of a content, nested to some depth. -/
def partWithin : Nat → Reader Unit
  | 0, _ => .fail
  | depth + 1, input => partAround depth (partWithin depth) input

/-- Reads the structure of a content; no content is nested deeper than it has bytes. -/
def partStructure : Reader Unit := fun input => partWithin (input.length + 1) input

end Postroom.Wire
