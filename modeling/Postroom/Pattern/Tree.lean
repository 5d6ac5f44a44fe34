/-!
# The structure of a pattern

What a pattern says, before any mode is applied: sequences, alternatives, groups, repetitions,
classes and assertions.  Modes are switched on and off inside the pattern, so what a part matches
depends on what stands before it; the tree keeps the switches where they stand.
-/

namespace Postroom.Pattern

/-- A mode of reading and matching. -/
inductive Mode where
  /-- Letters match whatever their case. -/
  | ignoreCase
  /-- `^` and `$` match at line ends. -/
  | multiLine
  /-- The dot matches line feeds too. -/
  | dotAll
  /-- Repetitions prefer fewer rounds unless marked. -/
  | swapGreed
  /-- Classes and boundaries know all characters. -/
  | unicode
  /-- Lines end with a carriage return, a line feed, or both. -/
  | crlf
  /-- Blanks and comments in the pattern mean nothing. -/
  | verbose
deriving Repr, DecidableEq

/-- Modes switched on and switched off. -/
structure ModeChange where
  /-- Modes switched on. -/
  on : List Mode
  /-- Modes switched off. -/
  off : List Mode
deriving Repr, DecidableEq

/-- Whether a change switches a mode on or off, if it does. -/
def ModeChange.of? (c : ModeChange) (m : Mode) : Option Bool :=
  if c.on.contains m then some true else if c.off.contains m then some false else none

/-- An assertion about a place in the text. -/
inductive Assertion where
  | lineStart
  | lineEnd
  | textStart
  | textEnd
  | boundary
  | notBoundary
  | wordStart
  | wordEnd
  | wordStartHalf
  | wordEndHalf
deriving Repr, DecidableEq

/-- A character written in a pattern; `byByte` if it is written by two hexadecimal digits. -/
structure Literal where
  /-- The character. -/
  char : Char
  /-- Whether it is written by two hexadecimal digits. -/
  byByte : Bool
deriving Repr, DecidableEq

/-- The classes with one-letter names. -/
inductive Kind where
  /-- Decimal digits. -/
  | digit
  /-- White space. -/
  | space
  /-- Word characters. -/
  | word
deriving Repr, DecidableEq

/-- A property asked for: by one name, or as a named property with a value. -/
inductive PropertyQuery where
  | named (name : List Char)
  | valued (name value : List Char)
deriving Repr, DecidableEq

/-- How two sets are combined. -/
inductive SetOp where
  | inter
  | diff
  | symmDiff
deriving Repr, DecidableEq

/-- The members of a bracketed class. -/
inductive Members where
  | none
  | literal (l : Literal)
  | range (first last : Literal)
  | ascii (name : String) (negated : Bool)
  | kind (k : Kind) (negated : Bool)
  | property (q : PropertyQuery) (negated : Bool)
  | nested (negated : Bool) (inner : Members)
  | union (items : List Members)
  | op (o : SetOp) (left right : Members)
deriving Repr

/-- A pattern. -/
inductive Tree where
  | empty
  | modes (change : ModeChange)
  | literal (l : Literal)
  | dot
  | assertion (a : Assertion)
  | kind (k : Kind) (negated : Bool)
  | property (q : PropertyQuery) (negated : Bool)
  | bracket (negated : Bool) (members : Members)
  | rep (sub : Tree) (least : Nat) (most : Option Nat)
  | group (captures : Bool) (change : ModeChange) (sub : Tree)
  | alt (branches : List Tree)
  | cat (parts : List Tree)
deriving Repr

namespace Members

mutual

/-- How deep classes and combinations of classes are nested. -/
def depth : Members → Nat
  | nested _ inner => inner.depth + 1
  | union items => depthList items + 1
  | op _ left right => max left.depth right.depth + 1
  | _ => 0

/-- The greatest depth of a list of members. -/
def depthList : List Members → Nat
  | [] => 0
  | m :: rest => max m.depth (depthList rest)

end

/-- The union of items; one item stands for itself. -/
def ofItems : List Members → Members
  | [] => none
  | [m] => m
  | items => union items

end Members

namespace Tree

mutual

/-- How deep the parts of a pattern are nested. -/
def depth : Tree → Nat
  | bracket _ members => members.depth + 1
  | rep sub _ _ => sub.depth + 1
  | group _ _ sub => sub.depth + 1
  | alt branches => depthList branches + 1
  | cat parts => depthList parts + 1
  | _ => 0

/-- The greatest depth of a list of patterns. -/
def depthList : List Tree → Nat
  | [] => 0
  | t :: rest => max t.depth (depthList rest)

end

/-- Patterns in sequence; one pattern stands for itself. -/
def ofParts : List Tree → Tree
  | [] => empty
  | [t] => t
  | parts => cat parts

/-- Alternative patterns; one pattern stands for itself. -/
def ofBranches : List Tree → Tree
  | [t] => t
  | branches => alt branches

/-- Whether there is nothing here to repeat. -/
def isUnrepeatable : Tree → Bool
  | empty | modes _ => true
  | _ => false

end Tree

end Postroom.Pattern
