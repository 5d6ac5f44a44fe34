/-!
# Documents

Values as they are written in configuration files and requests, and what can be wrong with a value
that should describe something.
-/

namespace Postroom

/-- A value of a document. -/
inductive Document where
  /-- No value. -/
  | null
  /-- A truth value. -/
  | bool (b : Bool)
  /-- A whole number. -/
  | integer (n : Int)
  /-- A number that is not whole, or not a number. -/
  | float
  /-- A text. -/
  | text (s : String)
  /-- A date, a time or both, as it is shown. -/
  | moment {s : String}
  /-- A list. -/
  | list (items : List Document)
  /-- A table, in the order in which it is written. -/
  | table (entries : List (String × Document))
deriving Repr, Inhabited

namespace Document

/-- Why a value does not describe what it should. -/
inductive Mismatch where
  /-- A pattern of a type that patterns do not have. -/
  | patternType (type : String)
  /-- A pattern that is no value at all. -/
  | patternMissing
  /-- A predicate that does not name exactly one header. -/
  | predicateSize (size : Nat)
  /-- A key that is not known, with the keys that are. -/
  | unknownKey (key : String) (known : List String)
  /-- Anything else. -/
  | shape
deriving Repr, DecidableEq

/-- The known keys in words. -/
def listed : List String → String
  | [] => "there are no fields"
  | [a] => "expected \x60" ++ a ++ "\x60"
  | [a, b] => "expected \x60" ++ a ++ "\x60 or \x60" ++ b ++ "\x60"
  | keys => "expected one of " ++ String.intercalate ", " (keys.map fun k => "\x60" ++ k ++ "\x60")

/-- What is wrong, in words, if there are words for it. -/
def Mismatch.message? : Mismatch → Option String
  | patternType type => some ("unsupported pattern type " ++ type)
  | patternMissing =>
    some "invalid type: null, expected a string, an integer or a list of those"
  | predicateSize size =>
    some ("a predicate names exactly one header, found " ++ size.repr)
  | unknownKey key known => some ("unknown field \x60" ++ key ++ "\x60, " ++ listed known)
  | shape => none

/-- The key under which a moment is shown. -/
def momentKey : String := "$__toml_private_datetime"

/-- The entries of a value where a table is asked for; a moment passes for a table that shows it. -/
def entries? : Document → Option (List (String × Document))
  | .table entries => some entries
  | @moment s => some [(momentKey, .text s)]
  | _ => none

@[simp] theorem entries?_table (entries : List (String × Document)) :
    (table entries).entries? = some entries := rfl

/-- The value of a key in a table. -/
def lookup (key : String) : List (String × Document) → Option Document
  | [] => none
  | (k, v) :: rest => if k = key then some v else lookup key rest

end Document

end Postroom
