import Postroom.Text.Quoted.Table

/-!
# Text shown in quotes

How messages show a string or a character.  A string stands between double quotes, a character
between single ones; the quote in use, the backslash and the common controls are written with a
backslash, and everything that cannot be printed by itself, or would attach to the character before
it, as a number in braces.
-/

namespace Postroom.Text

namespace Quoted

/-- A number in hexadecimal, lower case, without leading zeros. -/
def hex (n : Nat) : List Char := (Nat.toDigits 16 n)

/-- A character written as its number. -/
def byNumber (c : Char) : List Char := "\\u\x7b".toList ++ hex c.toNat ++ ['}']

/-- A character as it stands between quotes of the kind `quote`. -/
def escape (quote : Char) (c : Char) : List Char :=
  if c = '\x00' then ['\\', '0']
  else if c = '\t' then ['\\', 't']
  else if c = '\r' then ['\\', 'r']
  else if c = '\n' then ['\\', 'n']
  else if c = '\\' ∨ c = quote then ['\\', c]
  else if 0x20 ≤ c.toNat ∧ c.toNat < 0x7f then [c]
  else if extenders.has c.toNat || unprintable.has c.toNat then byNumber c
  else [c]

end Quoted

/-- A text between double quotes. -/
def quoted (s : String) : String :=
  String.ofList (['"'] ++ s.toList.flatMap (Quoted.escape '"') ++ ['"'])

/-- A character between single quotes. -/
def quotedChar (c : Char) : String :=
  String.ofList (['\''] ++ Quoted.escape '\'' c ++ ['\''])

/-- An optional value, shown as `Some(…)` or `None`. -/
def shownOption {α : Type} (shown : α → String) : Option α → String
  | some a => "Some(" ++ shown a ++ ")"
  | none => "None"

/-- A list, shown in square brackets with its items separated by a comma and a space. -/
def shownList {α : Type} (shown : α → String) (xs : List α) : String :=
  "[" ++ String.intercalate ", " (xs.map shown) ++ "]"

/-- A truth value, shown in lower case. -/
def shownBool (b : Bool) : String := if b then "true" else "false"

end Postroom.Text
