/-!
# Quoted texts of TOML

A text stands between quotes, where a backslash begins an escape, or between apostrophes, where it
stands for itself.  Three quotes or apostrophes in a row open a text of several lines, whose first
line break is left out and whose line breaks are read as line feeds; there a backslash at the end of
a line swallows all white space up to the next character.  One or two quotes may stand before the
three that close such a text.

Reading goes in two steps: what stands between the marks is cut out (`cutLine`, `cutLines`), and
then its escapes are resolved (`unescape`).
-/

namespace Postroom.Toml

/-- Whether a character can stand in a text or a comment: no control character but the tab. -/
def isPlain (c : Char) : Bool := c = '\t' || (' ' ≤ c && c ≠ '\x7f')

/-- The value of a hexadecimal digit. -/
def hexDigit? (c : Char) : Option Nat :=
  if '0' ≤ c ∧ c ≤ '9' then some (c.toNat - 48)
  else if 'a' ≤ c ∧ c ≤ 'f' then some (c.toNat - 87)
  else if 'A' ≤ c ∧ c ≤ 'F' then some (c.toNat - 55)
  else none

/-- The value of digits of some base. -/
def numberIn? (base : Nat) (digits : List Char) : Option Nat :=
  digits.foldlM (fun n c => ((hexDigit? c).filter (· < base)).map (n * base + ·)) 0

/-- The character with a number in hexadecimal, if there is one. -/
def numbered? (digits : List Char) : Option Char :=
  (numberIn? 16 digits).bind fun n => if n.isValidChar then some (Char.ofNat n) else none

/-- The character that an escape of one letter stands for. -/
def escaped? : Char → Option Char
  | 'b' => some '\x08'
  | 't' => some '\t'
  | 'n' => some '\n'
  | 'f' => some '\x0c'
  | 'r' => some '\r'
  | '"' => some '"'
  | '\\' => some '\\'
  | _ => none

/-- A piece of text and what follows it. -/
abbrev Cut : Type := List Char × List Char

/-- Puts characters in front of a piece. -/
def Cut.prepend (front : List Char) (cut : Cut) : Cut := (front ++ cut.1, cut.2)

/-- Cuts out what stands before a closing mark; a backslash takes the next character with it if
`escapes` says so. -/
def cutLine (mark : Char) (escapes : Bool) : List Char → Option Cut
  | [] => none
  | c :: rest =>
    if c = mark then some ([], rest)
    else if escapes && c = '\\' then
      match rest with
      | [] => none
      | d :: rest => (cutLine mark escapes rest).map (Cut.prepend [c, d])
    else (cutLine mark escapes rest).map (Cut.prepend [c])

/-- Cuts out what stands before three closing marks.  `marks` is the number of marks just read. -/
def cutLines (mark : Char) (escapes : Bool) (marks : Nat) : List Char → Option Cut
  | [] => if 3 ≤ marks ∧ marks ≤ 5 then some (List.replicate (marks - 3) mark, []) else none
  | c :: rest =>
    if c = mark then cutLines mark escapes (marks + 1) rest
    else if 3 ≤ marks then
      if marks ≤ 5 then some (List.replicate (marks - 3) mark, c :: rest) else none
    else
      let before := List.replicate marks mark
      if escapes && c = '\\' then
        match rest with
        | [] => none
        | d :: rest => (cutLines mark escapes 0 rest).map (Cut.prepend (before ++ [c, d]))
      else (cutLines mark escapes 0 rest).map (Cut.prepend (before ++ [c]))

/-- Whether white space is swallowed. -/
inductive Swallow where
  /-- It is not. -/
  | none
  /-- Up to the end of the line. -/
  | line
  /-- Up to the next character. -/
  | all
deriving DecidableEq

/-- Resolves escapes; line feeds are allowed if `several` lines are. -/
def unescape (several : Bool) (swallow : Swallow) : List Char → Option (List Char)
  | [] => if swallow = .line then none else some []
  | '\\' :: 'u' :: a :: b :: c :: d :: rest =>
    if swallow = .line then none
    else do return (← numbered? [a, b, c, d]) :: (← unescape several .none rest)
  | '\\' :: 'U' :: a :: b :: c :: d :: e :: f :: g :: h :: rest =>
    if swallow = .line then none
    else do return (← numbered? [a, b, c, d, e, f, g, h]) :: (← unescape several .none rest)
  | '\\' :: c :: rest =>
    if swallow = .line then none
    else if several && c = '\n' then unescape several .all rest
    else if several && (c = ' ' || c = '\t') then unescape several .line rest
    else do return (← escaped? c) :: (← unescape several .none rest)
  | c :: rest =>
    if several && c = '\n' then
      if swallow = .none then do return c :: (← unescape several .none rest)
      else unescape several .all rest
    else if swallow ≠ .none && (c = ' ' || c = '\t') then unescape several swallow rest
    else if swallow = .line || !isPlain c || c = '\\' then none
    else do return c :: (← unescape several .none rest)

/-- Turns every line break into a line feed; a carriage return cannot stand alone. -/
def lineFeeds : List Char → Option (List Char)
  | [] => some []
  | '\r' :: '\n' :: rest => do return '\n' :: (← lineFeeds rest)
  | c :: rest => if c = '\r' then none else do return c :: (← lineFeeds rest)

/-- Leaves out a line feed at the beginning. -/
def withoutFirstBreak : List Char → List Char
  | '\n' :: rest => rest
  | cs => cs

/-- Reads a text of one line after its opening mark. -/
def readLine (mark : Char) (rest : List Char) : Option Cut := do
  let quoted := mark = '"'
  let (raw, rest) ← cutLine mark quoted rest
  if quoted then return (← unescape false .none raw, rest)
  else if raw.all isPlain then return (raw, rest) else none

/-- Reads a text of several lines after its opening marks. -/
def readLines (mark : Char) (rest : List Char) : Option Cut := do
  let quoted := mark = '"'
  let (raw, rest) ← cutLines mark quoted 0 rest
  let raw := withoutFirstBreak (← lineFeeds raw)
  if quoted then return (← unescape true .none raw, rest)
  else if raw.all fun c => isPlain c || c = '\n' then return (raw, rest) else none

/-- Reads a quoted text, of several lines if `several` allows it. -/
def readQuotation (several : Bool) : List Char → Option Cut
  | '"' :: '"' :: '"' :: rest =>
    if several then readLines '"' rest else some ([], '"' :: rest)
  | '\'' :: '\'' :: '\'' :: rest =>
    if several then readLines '\'' rest else some ([], '\'' :: rest)
  | '"' :: rest => readLine '"' rest
  | '\'' :: rest => readLine '\'' rest
  | _ => none

end Postroom.Toml
