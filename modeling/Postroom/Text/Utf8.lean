/-!
# UTF-8

Texts as bytes.  `Utf8.next` takes one character from the front of a byte string, or says how many
bytes form the longest beginning of a character there that is cut short or broken off.  Strict
decoding (`Utf8.decode?`) refuses such a place; lenient decoding (`Utf8.decodeLossy`) puts one
replacement character for it.
-/

namespace Postroom.Text.Utf8

/-- The bytes of a character. -/
def encodeChar (c : Char) : List UInt8 := String.utf8EncodeChar c

/-- The bytes of a text. -/
def encode (cs : List Char) : List UInt8 := cs.flatMap encodeChar

/-- The bytes of a string. -/
def bytes (s : String) : List UInt8 := s.toUTF8.toList

/-- Whether a byte continues a character. -/
def isContinuation (b : UInt8) : Bool := 0x80 ≤ b && b < 0xc0

/-- The payload of a continuation byte. -/
def tail (b : UInt8) : Nat := b.toNat % 64

/-- What stands at the front of a byte string. -/
inductive Front where
  /-- A whole character, in `size` bytes. -/
  | char (c : Char) (size : Nat)
  /-- `size` bytes that are no character. -/
  | broken (size : Nat)
deriving Repr, DecidableEq

/-- Whether `b` may follow the lead byte `lead` of a character of three or four bytes: this rules
out overlong forms, surrogates and numbers beyond the last code point. -/
def secondFits (lead b : UInt8) : Bool :=
  if lead = 0xe0 then 0xa0 ≤ b && b < 0xc0
  else if lead = 0xed then 0x80 ≤ b && b < 0xa0
  else if lead = 0xf0 then 0x90 ≤ b && b < 0xc0
  else if lead = 0xf4 then 0x80 ≤ b && b < 0x90
  else isContinuation b

/-- The character at the front of a byte string that begins with `lead`. -/
def front (lead : UInt8) (rest : List UInt8) : Front :=
  if lead < 0x80 then .char (Char.ofNat lead.toNat) 1
  else if lead < 0xc2 then .broken 1
  else if lead < 0xe0 then
    match rest with
    | b :: _ =>
      if isContinuation b then .char (Char.ofNat ((lead.toNat % 32) * 64 + tail b)) 2
      else .broken 1
    | [] => .broken 1
  else if lead < 0xf0 then
    match rest with
    | b :: rest =>
      if secondFits lead b then
        match rest with
        | c :: _ =>
          if isContinuation c then
            .char (Char.ofNat ((lead.toNat % 16) * 4096 + tail b * 64 + tail c)) 3
          else .broken 2
        | [] => .broken 2
      else .broken 1
    | [] => .broken 1
  else if lead < 0xf5 then
    match rest with
    | b :: rest =>
      if secondFits lead b then
        match rest with
        | c :: rest =>
          if isContinuation c then
            match rest with
            | d :: _ =>
              if isContinuation d then
                .char
                  (Char.ofNat ((lead.toNat % 8) * 262144 + tail b * 4096 + tail c * 64 + tail d)) 4
              else .broken 3
            | [] => .broken 3
          else .broken 2
        | [] => .broken 2
      else .broken 1
    | [] => .broken 1
  else .broken 1

/-- The bytes a front takes up, less the lead byte. -/
def Front.extra : Front → Nat
  | .char _ n => n - 1
  | .broken n => n - 1

/-- Decodes a byte string, `skip` bytes of which belong to a character already taken; `repair` says
what stands for a broken place, or that there is none to stand for it. -/
def decodeFrom (repair : Option Char) : Nat → List UInt8 → Option (List Char)
  | _, [] => some []
  | skip + 1, _ :: rest => decodeFrom repair skip rest
  | 0, lead :: rest =>
    let found := front lead rest
    match found with
    | .char c _ => (decodeFrom repair found.extra rest).map (c :: ·)
    | .broken _ => repair.bind fun c => (decodeFrom repair found.extra rest).map (c :: ·)

/-- The text in a byte string, if it is well-formed. -/
def decode? (bs : List UInt8) : Option (List Char) := decodeFrom none 0 bs

/-- The text in a byte string, with a replacement character for each broken place. -/
def decodeLossy (bs : List UInt8) : List Char := (decodeFrom (some '\ufffd') 0 bs).getD []

/-- The string in a byte string, if it is well-formed. -/
def string? (bs : List UInt8) : Option String := (decode? bs).map String.ofList

/-- The string in a byte string, with a replacement character for each broken place. -/
def stringLossy (bs : List UInt8) : String := String.ofList (decodeLossy bs)

end Postroom.Text.Utf8
