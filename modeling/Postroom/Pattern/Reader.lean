import Postroom.Pattern.Cause
import Postroom.Pattern.Tree
import Postroom.Text.Blank
import Postroom.Text.Decimal
import Postroom.Text.Property
import Postroom.Text.Split
import Postroom.Text.Word

/-!
# Reading patterns

From the text of a pattern to its structure.  Reading goes from left to right and stops at the
first fault, so the fault reported is the leftmost one; only the limit on nesting is checked at the
end.  In verbose mode blanks and comments are passed over between the characters of an operator,
though not everywhere: a mark after `*`, `+` or `?` must follow at once.
-/

namespace Postroom.Pattern

open Text

/-- Where reading stands. -/
structure Cursor where
  /-- What is still to be read. -/
  rest : List Char
  /-- Whether blanks and comments mean nothing here. -/
  verbose : Bool
  /-- The names given to groups so far. -/
  names : List (List Char)

/-- Reading that may fail. -/
abbrev Reader (α : Type) := StateT Cursor (Except Cause) α

namespace Reader

/-- A text without leading blanks and comments; `inComment` if it begins inside a comment. -/
def skipSpace (inComment : Bool) : List Char → List Char
  | [] => []
  | c :: rest =>
    if inComment then skipSpace (c ≠ '\n') rest
    else if isBlank c then skipSpace false rest
    else if c = '#' then skipSpace true rest
    else c :: rest

/-- The next character. -/
def peek : Reader (Option Char) := return (← get).rest.head?

/-- Passes over the next character. -/
def bump : Reader Unit := modify fun s => { s with rest := s.rest.drop 1 }

/-- Passes over blanks and comments in verbose mode. -/
def space : Reader Unit :=
  modify fun s => if s.verbose then { s with rest := skipSpace false s.rest } else s

/-- Passes over the next character and what follows it of blanks and comments. -/
def advance : Reader Unit := do
  bump
  space

/-- The next character; at the end of the pattern, the given fault. -/
def peekOr (cause : Cause) : Reader Char := do
  match ← peek with
  | some c => return c
  | none => throw cause

/-- Passes over a text if it comes next, and says whether it does. -/
def bumpText (text : List Char) : Reader Bool := do
  let s ← get
  if text.isPrefixOf s.rest then
    set { s with rest := s.rest.drop text.length }
    return true
  else return false

/-- The character that follows the next one, passing over blanks and a comment mark in verbose
mode. -/
def peekPast : Reader (Option Char) := do
  let s ← get
  let after := s.rest.drop 1
  if s.verbose then
    let blank := after.dropWhile isBlank
    match blank with
    | '#' :: more => return (more.dropWhile isBlank).head?
    | _ => return blank.head?
  else return after.head?

/-- A number in ASCII digits, with blanks around it passed over. -/
def number : Reader (Except Cause Nat) := do
  modify fun s => { s with rest := s.rest.dropWhile isBlank }
  let digits ← digits ((← get).rest.length + 1)
  trailing ((← get).rest.length + 1)
  if digits.isEmpty then return .error .countNumberMissing
  match Decimal.readUpTo? Decimal.maxUInt32 digits with
  | some n => return .ok n
  | none => return .error .numberTooLarge
where
  /-- Digits, each with the blanks that verbose mode passes over after it. -/
  digits : Nat → Reader (List Char)
    | 0 => return []
    | fuel + 1 => do
      match ← peek with
      | some c =>
        if c.isDigit then
          advance
          return c :: (← digits fuel)
        else return []
      | none => return []
  /-- Blanks, each with the comments that verbose mode passes over after it. -/
  trailing : Nat → Reader Unit
    | 0 => return ()
    | fuel + 1 => do
      match ← peek with
      | some c =>
        if isBlank c then
          advance
          trailing fuel
      | none => return ()

/-- The value of a hexadecimal digit. -/
def hexDigit? (c : Char) : Option Nat :=
  if '0' ≤ c ∧ c ≤ '9' then some (c.toNat - 48)
  else if 'a' ≤ c ∧ c ≤ 'f' then some (c.toNat - 87)
  else if 'A' ≤ c ∧ c ≤ 'F' then some (c.toNat - 55)
  else none

/-- The character with a number written in hexadecimal digits. -/
def charOfHex? (digits : List Nat) : Option Char :=
  let n := digits.foldl (fun acc d => acc * 16 + d) 0
  if n.isValidChar then some (Char.ofNat n) else none

/-- A given number of hexadecimal digits. -/
def hexFixed : Nat → Bool → Reader (List Nat)
  | 0, _ => return []
  | n + 1, first => do
    unless first do advance
    match hexDigit? (← peekOr .escapeCutShort) with
    | some d => return d :: (← hexFixed n false)
    | none => throw .hexDigitInvalid

/-- Hexadecimal digits up to a closing brace. -/
def hexBraced : Nat → Reader (List Nat)
  | 0 => throw .escapeCutShort
  | fuel + 1 => do
    advance
    let c ← peekOr .escapeCutShort
    if c = '}' then return []
    match hexDigit? c with
    | some d => return d :: (← hexBraced fuel)
    | none => throw .hexDigitInvalid

/-- A character given by number, after the letter that says with how many digits. -/
def hexEscape (letter : Char) : Reader Literal := do
  advance
  let size := if letter = 'x' then 2 else if letter = 'u' then 4 else 8
  if (← peekOr .escapeCutShort) = '{' then
    let digits ← hexBraced ((← get).rest.length + 1)
    advance
    if digits.isEmpty then throw .hexMissing
    match charOfHex? digits with
    | some c => return ⟨c, false⟩
    | none => throw .hexNoCharacter
  else
    let digits ← hexFixed size true
    advance
    match charOfHex? digits with
    | some c => return ⟨c, size = 2⟩
    | none => throw .hexNoCharacter

/-- The characters up to a closing brace. -/
def braced : Nat → Reader (List Char)
  | 0 => throw .escapeCutShort
  | fuel + 1 => do
    advance
    let c ← peekOr .escapeCutShort
    if c = '}' then return [] else return c :: (← braced fuel)

/-- The query a name in braces makes, and whether it is negated. -/
def queryOf (name : List Char) : PropertyQuery × Bool :=
  match cut? ['!', '='] name with
  | some (n, v) => (.valued n v, true)
  | none =>
    match cut? [':'] name with
    | some (n, v) => (.valued n v, false)
    | none =>
      match cut? ['='] name with
      | some (n, v) => (.valued n v, false)
      | none => (.named name, false)

/-- One element of a pattern. -/
inductive Atom where
  | literal (l : Literal)
  | dot
  | assertion (a : Assertion)
  | kind (k : Kind) (negated : Bool)
  | property (q : PropertyQuery) (negated : Bool)

/-- An element by itself. -/
def Atom.tree : Atom → Tree
  | literal l => .literal l
  | dot => .dot
  | assertion a => .assertion a
  | kind k negated => .kind k negated
  | property q negated => .property q negated

/-- An element as a member of a class. -/
def Atom.member : Atom → Except Cause Members
  | literal l => .ok (.literal l)
  | kind k negated => .ok (.kind k negated)
  | property q negated => .ok (.property q negated)
  | _ => .error .escapeInClass

/-- An element as an end of a range. -/
def Atom.bound : Atom → Except Cause Literal
  | literal l => .ok l
  | _ => .error .classRangeBoundary

/-- A class by property, after its letter. -/
def propertyEscape (letter : Char) : Reader Atom := do
  advance
  let c ← peekOr .escapeCutShort
  let flip := letter = 'P'
  if c = '{' then
    let name ← braced ((← get).rest.length + 1)
    bump
    let (query, negated) := queryOf name
    return .property query (flip != negated)
  else if c = '\\' then throw .propertyInvalid
  else
    advance
    return .property (.named [c]) flip

/-- Characters that mean something in a pattern and stand for themselves after a backslash. -/
def isMeta (c : Char) : Bool :=
  ['\\', '.', '+', '*', '?', '(', ')', '|', '[', ']', '{', '}', '^', '$', '#', '&', '-',
    '~'].contains c

/-- Whether a character stands for itself after a backslash. -/
def isEscapable (c : Char) : Bool :=
  isMeta c || (c.toNat < 0x80 && !c.isAlphanum && c ≠ '<' && c ≠ '>')

/-- Whether a character can stand in the name of a special boundary. -/
def isBoundaryName (c : Char) : Bool := c.isAlpha || c = '-'

/-- The name of a special boundary, with blanks passed over in verbose mode. -/
def boundaryName : Nat → Reader (List Char)
  | 0 => return []
  | fuel + 1 => do
    match ← peek with
    | some c =>
      if isBoundaryName c then
        advance
        return c :: (← boundaryName fuel)
      else return []
    | none => return []

/-- A word boundary, perhaps of a special kind named in braces.  Braces that cannot hold a name are
left for a repetition. -/
def boundaryEscape : Reader Assertion := do
  if (← peek) ≠ some '{' then return .boundary
  let before ← get
  advance
  if !isBoundaryName (← peekOr .boundaryCutShort) then
    set before
    return .boundary
  let name ← boundaryName ((← get).rest.length + 1)
  if (← peekOr .boundaryUnclosed) ≠ '}' then throw .boundaryUnclosed
  bump
  match String.ofList name with
  | "start" => return .wordStart
  | "end" => return .wordEnd
  | "start-half" => return .wordStartHalf
  | "end-half" => return .wordEndHalf
  | _ => throw .boundaryUnknown

/-- An escape without operands, after the backslash and `c`. -/
def plainEscape (c : Char) : Reader Atom := do
  let char (d : Char) : Reader Atom := return .literal ⟨d, false⟩
  if isEscapable c then char c
  else match c with
    | 'a' => char '\x07'
    | 'f' => char '\x0c'
    | 't' => char '\t'
    | 'n' => char '\n'
    | 'r' => char '\r'
    | 'v' => char '\x0b'
    | 'A' => return .assertion .textStart
    | 'z' => return .assertion .textEnd
    | 'b' => return .assertion (← boundaryEscape)
    | 'B' => return .assertion .notBoundary
    | '<' => return .assertion .wordStart
    | '>' => return .assertion .wordEnd
    | _ => throw .escapeUnknown

/-- An element that begins with a backslash. -/
def escape : Reader Atom := do
  bump
  let c ← peekOr .escapeCutShort
  if c.isDigit then throw .backreference
  else if c = 'x' ∨ c = 'u' ∨ c = 'U' then return .literal (← hexEscape c)
  else if c = 'p' ∨ c = 'P' then propertyEscape c
  else
    bump
    match c with
    | 'd' => return .kind .digit false
    | 'D' => return .kind .digit true
    | 's' => return .kind .space false
    | 'S' => return .kind .space true
    | 'w' => return .kind .word false
    | 'W' => return .kind .word true
    | c => plainEscape c

/-- An element outside a class that begins with `c`. -/
def atom (c : Char) : Reader Atom := do
  match c with
  | '\\' => escape
  | '.' => bump; return .dot
  | '^' => bump; return .assertion .lineStart
  | '$' => bump; return .assertion .lineEnd
  | c => bump; return .literal ⟨c, false⟩

/-- An element of a class that begins with `c`. -/
def classAtom (c : Char) : Reader Atom := do
  if c = '\\' then escape
  else
    bump
    return .literal ⟨c, false⟩

/-- A member of a class: an element, or a range between two. -/
def classRange (c : Char) : Reader Members := do
  let first ← classAtom c
  space
  let next ← peekOr .classUnclosed
  let past ← peekPast
  if next ≠ '-' ∨ past = some ']' ∨ past = some '-' then first.member
  else
    advance
    let last ← classAtom (← peekOr .classUnclosed)
    let lo ← first.bound
    let hi ← last.bound
    if lo.char ≤ hi.char then return .range lo hi else throw .classRangeReversed

/-- The names of the ASCII classes. -/
def asciiNames : List String := [
    "alnum", "alpha", "ascii", "blank", "cntrl", "digit", "graph", "lower", "print", "punct",
    "space", "upper", "word", "xdigit"]

/-- An ASCII class such as `[:alpha:]`, if one comes next; otherwise nothing is passed over. -/
def asciiClass? : Reader (Option Members) := do
  let s ← get
  match s.rest with
  | '[' :: ':' :: more =>
    let (negated, more) := match more with
      | '^' :: more => (true, more)
      | more => (false, more)
    let name := String.ofList (more.takeWhile (· ≠ ':'))
    match more.dropWhile (· ≠ ':') with
    | ':' :: ']' :: after =>
      if asciiNames.contains name then
        set { s with rest := after }
        return some (.ascii name negated)
      else return none
    | _ => return none
  | _ => return none

/-- Hyphens at the front of a class. -/
def leadingHyphens : Nat → Reader (List Members)
  | 0 => return []
  | fuel + 1 => do
    if (← peekOr .classUnclosed) = '-' then
      advance
      return .literal ⟨'-', false⟩ :: (← leadingHyphens fuel)
    else return []

/-- The front of a class: whether it is negated, and the members that stand for themselves only
here. -/
def classOpen : Reader (Bool × List Members) := do
  advance
  let negated := (← peekOr .classUnclosed) = '^'
  if negated then advance
  let hyphens ← leadingHyphens ((← get).rest.length + 1)
  if hyphens.isEmpty ∧ (← peekOr .classUnclosed) = ']' then
    advance
    let _ ← peekOr .classUnclosed
    return (negated, [.literal ⟨']', false⟩])
  else return (negated, hyphens)

/-- The operation written by doubling a character. -/
def setOp? (c : Char) : Option SetOp :=
  if c = '&' then some .inter
  else if c = '-' then some .diff
  else if c = '~' then some .symmDiff
  else none

/-- The members so far: the items after the last operation, last first, below what stands before
it. -/
def closeItems (left : Option (SetOp × Members)) (items : List Members) : Members :=
  let right := Members.ofItems items.reverse
  match left with
  | some (o, l) => .op o l right
  | none => right

/-- The members of a class up to its closing bracket. -/
def classMembers : Nat → Option (SetOp × Members) → List Members → Reader Members
  | 0, _, _ => throw .classUnclosed
  | fuel + 1, left, items => do
    space
    let c ← peekOr .classUnclosed
    let doubled := (← get).rest[1]? = some c
    if c = '[' then
      match ← asciiClass? with
      | some m => classMembers fuel left (m :: items)
      | none =>
        let (negated, front) ← classOpen
        let inner ← classMembers fuel none front.reverse
        classMembers fuel left (.nested negated inner :: items)
    else if c = ']' then
      bump
      return closeItems left items
    else
      match if doubled then setOp? c else none with
      | some o =>
        bump
        bump
        classMembers fuel (some (o, closeItems left items)) []
      | none =>
        let m ← classRange c
        classMembers fuel left (m :: items)

/-- A class in brackets. -/
def bracket : Reader Tree := do
  let (negated, front) ← classOpen
  return .bracket negated (← classMembers ((← get).rest.length + 1) none front.reverse)

/-- The mode of a letter. -/
def modeOf : Char → Except Cause Mode
  | 'i' => .ok .ignoreCase
  | 'm' => .ok .multiLine
  | 's' => .ok .dotAll
  | 'U' => .ok .swapGreed
  | 'u' => .ok .unicode
  | 'R' => .ok .crlf
  | 'x' => .ok .verbose
  | _ => .error .modeUnknown

/-- Modes up to a colon or a closing parenthesis: `on` and `off` hold those read so far, `negating`
whether a hyphen was read, `dangling` whether it was read last. -/
def modeChange : Nat → List Mode → List Mode → Bool → Bool → Reader ModeChange
  | 0, _, _, _, _ => throw .modeCutShort
  | fuel + 1, on, off, negating, dangling => do
    let c ← peekOr .modeCutShort
    if c = ':' ∨ c = ')' then
      if dangling then throw .modeNegationDangling else return ⟨on, off⟩
    else if c = '-' then
      if negating then throw .modeNegationRepeated
      bump
      modeChange fuel on off true true
    else
      let m ← modeOf c
      if on.contains m ∨ off.contains m then throw .modeRepeated
      bump
      if negating then modeChange fuel on (off ++ [m]) true false
      else modeChange fuel (on ++ [m]) off false false

/-- Whether a character can stand in the name of a group. -/
def isNameChar (first : Bool) (c : Char) : Bool :=
  c = '_' || Property.isAlphabetic c
    || (!first && (c = '.' || c = '[' || c = ']' || Property.isNumeric c))

/-- The name of a group up to its closing angle bracket. -/
def groupName : Nat → Bool → Reader (List Char)
  | 0, _ => throw .nameUnclosed
  | fuel + 1, first => do
    let c ← peekOr .nameUnclosed
    if c = '>' then
      bump
      return []
    else if isNameChar first c then
      bump
      return c :: (← groupName fuel false)
    else throw .nameInvalid

/-- The name of a group, which must be new. -/
def newGroupName : Reader Unit := do
  let name ← groupName ((← get).rest.length + 1) true
  if name.isEmpty then throw .nameMissing
  let s ← get
  if s.names.contains name then throw .nameRepeated
  set { s with names := name :: s.names }

/-- What an opening parenthesis begins. -/
inductive Opening where
  /-- A switch of modes up to the end of the group around it. -/
  | modes (change : ModeChange)
  /-- A group. -/
  | group (captures : Bool) (change : ModeChange)

/-- What the opening parenthesis that comes next begins. -/
def opening : Reader Opening := do
  bump
  space
  if (← bumpText ['?', '=']) || (← bumpText ['?', '!']) || (← bumpText ['?', '<', '='])
      || (← bumpText ['?', '<', '!']) then
    throw .lookAround
  else if ← bumpText ['?', 'P', '<'] then
    newGroupName
    return .group true ⟨[], []⟩
  else if ← bumpText ['?', '<'] then
    newGroupName
    return .group true ⟨[], []⟩
  else if ← bumpText ['?'] then
    let _ ← peekOr .groupUnclosed
    let change ← modeChange ((← get).rest.length + 1) [] [] false false
    let closes := (← peek) = some ')'
    bump
    if closes then
      if change.on.isEmpty ∧ change.off.isEmpty then throw .repetitionOfNothing
      return .modes change
    else return .group false change
  else return .group true ⟨[], []⟩

/-- Switches verbose mode as a change says. -/
def switchVerbose (change : ModeChange) : Reader Unit :=
  modify fun s => { s with verbose := (change.of? .verbose).getD s.verbose }

/-- The counts in braces: the least and the greatest number of rounds. -/
def counts : Reader (Nat × Option Nat) := do
  advance
  let _ ← peekOr .countUnclosed
  let least ← number
  let c ← peekOr .countUnclosed
  let found ← if c = ',' then do
      advance
      if (← peekOr .countUnclosed) = '}' then
        pure (← least, none)
      else
        let lo ← least
        let hi ← number
        pure (lo, some (← hi))
    else do
      let n ← least
      pure (n, some n)
  if (← peek) ≠ some '}' then throw .countUnclosed
  advance
  if (← peek) = some '?' then bump
  match found with
  | (lo, some hi) => if lo ≤ hi then return found else throw .countReversed
  | _ => return found

/-- A repetition of the last of the parts read, which stand last first. -/
def repetition (c : Char) (parts : List Tree) : Reader (List Tree) := do
  match parts with
  | [] => throw .repetitionOfNothing
  | last :: before =>
    if last.isUnrepeatable then throw .repetitionOfNothing
    if c = '{' then
      let (least, most) ← counts
      return .rep last least most :: before
    else
      bump
      if (← peek) = some '?' then bump
      match c with
      | '?' => return .rep last 0 (some 1) :: before
      | '*' => return .rep last 0 none :: before
      | _ => return .rep last 1 none :: before

/-- A pattern up to the end of the group it stands in: `branches` holds the alternatives read so
far and `parts` the parts of the one being read, last first. -/
def branches : Nat → Bool → List Tree → List Tree → Reader Tree
  | 0, _, _, _ => throw .groupUnclosed
  | fuel + 1, inGroup, done, parts => do
    space
    match ← peek with
    | none => return Tree.ofBranches (Tree.ofParts parts.reverse :: done).reverse
    | some c =>
      match c with
      | ')' =>
        if inGroup then return Tree.ofBranches (Tree.ofParts parts.reverse :: done).reverse
        else throw .groupUnopened
      | '|' =>
        bump
        branches fuel inGroup (Tree.ofParts parts.reverse :: done) []
      | '(' =>
        match ← opening with
        | .modes change =>
          switchVerbose change
          branches fuel inGroup done (.modes change :: parts)
        | .group captures change =>
          let outer := (← get).verbose
          switchVerbose change
          let sub ← branches fuel true [] []
          let _ ← peekOr .groupUnclosed
          modify fun s => { s with verbose := outer }
          bump
          branches fuel inGroup done (.group captures change sub :: parts)
      | '[' =>
        let class' ← bracket
        branches fuel inGroup done (class' :: parts)
      | '?' | '*' | '+' | '{' =>
        let parts ← repetition c parts
        branches fuel inGroup done parts
      | c =>
        let a ← atom c
        branches fuel inGroup done (a.tree :: parts)

end Reader

/-- The greatest depth of nesting. -/
def nestLimit : Nat := 250

/-- The structure of a pattern. -/
def Tree.read (pattern : List Char) : Except Cause Tree := do
  let (tree, _) ← (Reader.branches (pattern.length + 1) false [] []).run ⟨pattern, false, []⟩
  if tree.depth ≤ nestLimit then return tree else throw (.nestedTooDeep nestLimit)

end Postroom.Pattern
