import Postroom.Pattern.Expr

/-!
# Searching for an expression

Whether an expression matches somewhere in a text.  The search keeps the set of places that can be
reached, as a number with one bit to a place: the expression carries a set of places where matching
may begin to the set of places where it may end, and it matches if it carries the set of all places
to one that is not empty.  Each set of characters becomes the set of places before one of them, and
each assertion the set of places where it holds, so a round of matching is a few operations on
numbers.
-/

namespace Postroom.Pattern

open Text

namespace Look

/-- Whether a character belongs to a word. -/
def isWordChar (unicode : Bool) (c : Char) : Bool :=
  if unicode then isWord c else c.isAlphanum || c = '_'

/-- Whether an assertion holds between the characters `before` and `after`; there is none at the
ends of the text. -/
def holds (before after : Option Char) : Look → Bool
  | textStart => before.isNone
  | textEnd => after.isNone
  | lineStart crlf =>
    if crlf then before.isNone || before = some '\n' || (before = some '\r' && after ≠ some '\n')
    else before.isNone || before = some '\n'
  | lineEnd crlf =>
    if crlf then after.isNone || after = some '\r' || (after = some '\n' && before ≠ some '\r')
    else after.isNone || after = some '\n'
  | boundary u => before.any (isWordChar u) != after.any (isWordChar u)
  | notBoundary u => before.any (isWordChar u) == after.any (isWordChar u)
  | wordStart u => !before.any (isWordChar u) && after.any (isWordChar u)
  | wordEnd u => before.any (isWordChar u) && !after.any (isWordChar u)
  | wordStartHalf u => !before.any (isWordChar u)
  | wordEndHalf u => !after.any (isWordChar u)

end Look

/-- Sets of places in a text, the place before the first character in the lowest bit. -/
abbrev Places := Nat

namespace Places

/-- The set of the places whose truth values are given in order. -/
def ofList : List Bool → Places
  | [] => 0
  | b :: rest => (if b then 1 else 0) + 2 * ofList rest

/-- All places of a text with `n` characters. -/
def all (n : Nat) : Places := Nat.pow 2 (n + 1) - 1

/-- The places before the characters of a set. -/
def before (text : List Char) (set : CharSet) : Places := ofList (text.map fun c => set.has c.toNat)

/-- The truth values of an assertion at the places of a text, with the character before it. -/
def lookFrom (l : Look) (prior : Option Char) : List Char → List Bool
  | [] => [l.holds prior none]
  | c :: rest => l.holds prior (some c) :: lookFrom l (some c) rest

/-- The places where an assertion holds. -/
def holding (text : List Char) (l : Look) : Places := ofList (lookFrom l none text)

/-- `f` applied up to `rounds` times, until it changes nothing. -/
def iterate (f : Places → Places) : Nat → Places → Places
  | 0, s => s
  | rounds + 1, s =>
    let t := f s
    if t = s then s else iterate f rounds t

/-- What is reached from a set by applying `f` up to `rounds` times, the set included. -/
def reach (f : Places → Places) : Nat → Places → Places
  | 0, s => s
  | rounds + 1, s =>
    let t := s ||| f s
    if t = s then s else reach f rounds t

end Places

namespace Expr

/-- The places where an expression may end if it begins at one of the places `s`, in a text with
`n` characters.  Rounds beyond `n + 2` reach nothing new, since each of them moves on or stays. -/
def carry (n : Nat) : Expr Places Places → Places → Places
  | empty, s => s
  | take mask, s => (s &&& mask) <<< 1
  | look mask, s => s &&& mask
  | cat l r, s => r.carry n (l.carry n s)
  | alt l r, s => l.carry n s ||| r.carry n s
  | rep sub least most, s =>
    let least' := min least (n + 2)
    let more := match most with
      | none => n + 2
      | some most => min (most - least) (n + 2)
    Places.reach (sub.carry n) more (Places.iterate (sub.carry n) least' s)
  | capture sub, s => sub.carry n s

end Expr

/-- Whether an expression matches somewhere in a text. -/
def Regular.matches (e : Regular) (text : List Char) : Bool :=
  let placed := e.map (Places.before text) (Places.holding text)
  placed.carry text.length (Places.all text.length) ≠ 0

end Postroom.Pattern
