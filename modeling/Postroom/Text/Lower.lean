import Postroom.Text.Lower.Table

/-!
# Lower case

The full lower-case mapping of a text.  Every character has an image of its own (`lowerChar`, one
character, or two for the dotted capital I), with one exception that depends on its neighbours: a
capital sigma that ends a word becomes a final sigma.  A sigma ends a word when, passing over
ignorable characters, a cased letter stands before it and none after it.
-/

namespace Postroom.Text

namespace Lower

/-- The code point a run of the table sends `n` to. -/
def image? (n : Nat) : Option Nat :=
  runs.findSome? fun (first, last, step, image) =>
    if first ≤ n ∧ n ≤ last ∧ (n - first) % step = 0 then some (image + (n - first)) else none

/-- Whether the first character that is not ignorable is a cased letter. -/
def meetsCased : List Char → Bool
  | [] => false
  | c :: rest => if ignorable.has c.toNat then meetsCased rest else cased.has c.toNat

end Lower

open Lower

/-- The lower-case form of one character by itself. -/
def lowerChar (c : Char) : List Char :=
  if 'A' ≤ c ∧ c ≤ 'Z' then [Char.ofNat (c.toNat + 32)]
  else if c.toNat < 0x80 then [c]
  else if c = '\u0130' then ['i', '\u0307']
  else match image? c.toNat with
    | some n => [Char.ofNat n]
    | none => [c]

/-- Lower-cases a text; `before` says whether a cased letter stands before it, passing over
ignorable characters. -/
def lowerFrom (before : Bool) : List Char → List Char
  | [] => []
  | c :: rest =>
    let here := if c = 'Σ' then [if before && !meetsCased rest then 'ς' else 'σ'] else lowerChar c
    here ++ lowerFrom (if ignorable.has c.toNat then before else cased.has c.toNat) rest

/-- The lower-case form of a text. -/
def lowerChars (cs : List Char) : List Char := lowerFrom false cs

/-- The lower-case form of a string. -/
def lower (s : String) : String := String.ofList (lowerChars s.toList)

/-- The lower-case form of a string when only the letters A to Z count. -/
def lowerAscii (s : String) : String := s.map Char.toLower

@[simp] theorem lowerChars_nil : lowerChars [] = [] := rfl

/-- Lower-casing ASCII alone keeps the number of characters. -/
@[simp] theorem length_lowerAscii (s : String) : (lowerAscii s).length = s.length := by
  simp [lowerAscii]

end Postroom.Text
