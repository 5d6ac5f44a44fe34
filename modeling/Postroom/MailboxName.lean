import Postroom.Text.Base64
import Postroom.Text.Utf16

/-!
# Mailbox names on the wire

A mailbox name travels as printable ASCII.  Printable characters stand for themselves, except that
an ampersand is written `&-`; every longest run of other characters is written in base64 over its
UTF-16 bytes, between `&` and `-`.  A received name that does not have this form is taken as it is.
-/

namespace Postroom.MailboxName

open Text

/-- Whether a character stands for itself on the wire, or is the ampersand. -/
def isPrintable (c : Char) : Bool := ' ' ≤ c && c ≤ '~'

/-- A run of characters that are not printable, as written. -/
def encodeRun (run : List Char) : List Char :=
  if run.isEmpty then [] else '&' :: (Base64.encode Base64.mailbox (Utf16.bytes run) ++ ['-'])

/-- A printable character, as written. -/
def encodePrintable (c : Char) : List Char := if c = '&' then ['&', '-'] else [c]

/-- The wire form of the rest of a name, after the pending `run`. -/
def encodeFrom (run : List Char) : List Char → List Char
  | [] => encodeRun run
  | c :: rest =>
    if isPrintable c then encodeRun run ++ encodePrintable c ++ encodeFrom [] rest
    else encodeFrom (run ++ [c]) rest

/-- The wire form of a name. -/
def encodeChars (cs : List Char) : List Char := encodeFrom [] cs

/-- What the text between an ampersand and the next hyphen stands for. -/
def decodeShift? (inner : List Char) : Option (List Char) :=
  if inner.isEmpty then some ['&']
  else (Base64.decode? Base64.mailbox inner).bind Utf16.ofBytes?

/-- The name with a given wire form; `shift` holds what has been read since an ampersand. -/
def decodeFrom? (shift : Option (List Char)) : List Char → Option (List Char)
  | [] => if shift.isSome then none else some []
  | c :: rest =>
    match shift with
    | none =>
      if c = '&' then decodeFrom? (some []) rest else (decodeFrom? none rest).map (c :: ·)
    | some inner =>
      if c = '-' then (decodeShift? inner).bind fun cs => (decodeFrom? none rest).map (cs ++ ·)
      else decodeFrom? (some (inner ++ [c])) rest

/-- The name with a given wire form, if it is well-formed. -/
def decodeChars? (cs : List Char) : Option (List Char) := decodeFrom? none cs

/-- The wire form of a name. -/
def encode (name : String) : String := String.ofList (encodeChars name.toList)

/-- The name a wire form stands for; one that is not well-formed stands for itself. -/
def decode (wire : String) : String :=
  match decodeChars? wire.toList with
  | some cs => String.ofList cs
  | none => wire

end Postroom.MailboxName
