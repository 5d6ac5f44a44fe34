/-!
# Base64

Bytes in an alphabet of sixty-four characters, six bits to a character.  `Alphabet` fixes the last
two characters.  `encode` writes no padding; `decode?` takes unpadded text and refuses characters
outside the alphabet, a single leftover character, and leftover bits that are not zero, so a byte
string has one written form.
-/

namespace Postroom.Text.Base64

/-- The characters for the values 62 and 63. -/
structure Alphabet where
  /-- The character for 62. -/
  plus : Char
  /-- The character for 63. -/
  slash : Char
deriving Repr, DecidableEq

/-- The alphabet of encoded words and message bodies. -/
def mime : Alphabet := ⟨'+', '/'⟩

/-- The alphabet of mailbox names, in which a slash would be taken for a level. -/
def mailbox : Alphabet := ⟨'+', ','⟩

/-- The character of a value below sixty-four. -/
def Alphabet.char (a : Alphabet) (n : Nat) : Char :=
  if n < 26 then Char.ofNat (65 + n)
  else if n < 52 then Char.ofNat (71 + n)
  else if n < 62 then Char.ofNat (n - 4)
  else if n = 62 then a.plus
  else a.slash

/-- The value of a character. -/
def Alphabet.value? (a : Alphabet) (c : Char) : Option Nat :=
  if 'A' ≤ c ∧ c ≤ 'Z' then some (c.toNat - 65)
  else if 'a' ≤ c ∧ c ≤ 'z' then some (c.toNat - 71)
  else if '0' ≤ c ∧ c ≤ '9' then some (c.toNat + 4)
  else if c = a.plus then some 62
  else if c = a.slash then some 63
  else none

/-- The unpadded text of a byte string. -/
def encode (a : Alphabet) : List UInt8 → List Char
  | x :: y :: z :: rest =>
    let n := x.toNat * 65536 + y.toNat * 256 + z.toNat
    a.char (n / 262144) :: a.char (n / 4096 % 64) :: a.char (n / 64 % 64) :: a.char (n % 64)
      :: encode a rest
  | [x, y] =>
    let n := x.toNat * 1024 + y.toNat * 4
    [a.char (n / 4096), a.char (n / 64 % 64), a.char (n % 64)]
  | [x] =>
    let n := x.toNat * 16
    [a.char (n / 64), a.char (n % 64)]
  | [] => []

/-- The three bytes of a number below 2^24. -/
def threeBytes (n : Nat) : List UInt8 :=
  [UInt8.ofNat (n / 65536), UInt8.ofNat (n / 256 % 256), UInt8.ofNat (n % 256)]

/-- The bytes of a list of values; leftover bits are dropped if `lax`, and must be zero if not. -/
def bytesOfValues? (lax : Bool) : List Nat → Option (List UInt8)
  | p :: q :: r :: s :: rest =>
    (bytesOfValues? lax rest).map (threeBytes (p * 262144 + q * 4096 + r * 64 + s) ++ ·)
  | [p, q, r] =>
    let n := p * 4096 + q * 64 + r
    if lax ∨ n % 4 = 0 then some [UInt8.ofNat (n / 1024), UInt8.ofNat (n / 4 % 256)] else none
  | [p, q] =>
    let n := p * 64 + q
    if lax ∨ n % 16 = 0 then some [UInt8.ofNat (n / 16)] else none
  | [_] => none
  | [] => some []

/-- The bytes of an unpadded text. -/
def decode? (a : Alphabet) (cs : List Char) : Option (List UInt8) :=
  (cs.mapM a.value?).bind (bytesOfValues? false)

end Postroom.Text.Base64
