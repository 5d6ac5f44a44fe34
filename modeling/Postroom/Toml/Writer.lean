import Postroom.Document
import Postroom.Text.Quoted

/-!
# Writing TOML

Each entry of a document is one line: a key in quotes, and its value with arrays in brackets and
tables in braces.  Values that the format has no word for, or whose word is not kept, are not
written.
-/

namespace Postroom.Toml

/-- Four hexadecimal digits. -/
def fourDigits (n : Nat) : List Char :=
  let digits := Text.Quoted.hex n
  List.replicate (4 - digits.length) '0' ++ digits

/-- A character of a text in quotes. -/
def writeChar (c : Char) : List Char :=
  if c = '"' ∨ c = '\\' then ['\\', c]
  else if c < ' ' ∨ c = '\x7f' then '\\' :: 'u' :: fourDigits c.toNat
  else [c]

/-- A text in quotes. -/
def writeText (s : String) : List Char := '"' :: s.toList.flatMap writeChar ++ ['"']

mutual

/-- A value. -/
def writeValue : Document → Option (List Char)
  | .bool b => some (if b then "true".toList else "false".toList)
  | .integer n => some n.repr.toList
  | .text s => some (writeText s)
  | .list items => do return '[' :: (← writeItems items) ++ [']']
  | .table entries => do return '{' :: (← writeBraces entries) ++ ['}']
  | .null | .float | .moment => none

/-- The items of an array, each with a comma behind it. -/
def writeItems : List Document → Option (List Char)
  | [] => some []
  | d :: rest => do return (← writeValue d) ++ ',' :: (← writeItems rest)

/-- The entries of a table in braces, with commas between them. -/
def writeBraces : List (String × Document) → Option (List Char)
  | [] => some []
  | [(k, d)] => do return writeText k ++ '=' :: (← writeValue d)
  | (k, d) :: rest => do
    return writeText k ++ '=' :: (← writeValue d) ++ ',' :: (← writeBraces rest)

end

/-- The lines of a document. -/
def writeLines : List (String × Document) → Option (List Char)
  | [] => some []
  | (k, d) :: rest => do
    return writeText k ++ '=' :: (← writeValue d) ++ '\n' :: (← writeLines rest)

/-- Writes a table as a document. -/
def write : Document → Option String
  | .table entries => (writeLines entries).map String.ofList
  | _ => none

end Postroom.Toml
