/-!
# Readers of a byte stream

What a server sends arrives bit by bit, so a reader has three outcomes: it has read something and
says what is left, the bytes so far are the start of something and `more` are needed, or they are
the start of nothing it knows.  A choice takes its second side only where the first has failed;
while the first could still go on, the choice waits as well.
-/

namespace Postroom.Wire

/-- What comes of reading. -/
inductive Outcome (α : Type) where
  /-- A value was read, and `rest` is left. -/
  | done (value : α) (rest : List UInt8)
  /-- What could be read goes on after the end of the bytes. -/
  | more
  /-- Nothing can be read. -/
  | fail
deriving Repr, DecidableEq

/-- A reader of bytes. -/
def Reader (α : Type) : Type := List UInt8 → Outcome α

namespace Reader

variable {α β : Type}

/-- Reads nothing. -/
def pure (a : α) : Reader α := fun input => .done a input

/-- Reads one thing, then another that may depend on it. -/
def bind (p : Reader α) (f : α → Reader β) : Reader β := fun input =>
  match p input with
  | .done a rest => f a rest
  | .more => .more
  | .fail => .fail

instance : Monad Reader where
  pure := pure
  bind := bind

/-- Fails. -/
def failure : Reader α := fun _ => .fail

/-- Reads the second where the first fails. -/
def orElse (p q : Reader α) : Reader α := fun input =>
  match p input with
  | .fail => q input
  | outcome => outcome

/-- The first reader of a list that does not fail. -/
def choice (ps : List (Reader α)) : Reader α := ps.foldr orElse failure

/-- Reads something if it is there. -/
def optional (p : Reader α) : Reader (Option α) :=
  orElse (p.bind fun a => pure (some a)) (pure none)

/-- Keeps what satisfies a test, which may change it as well. -/
def filterMap (f : α → Option β) (p : Reader α) : Reader β :=
  p.bind fun a => match f a with
    | some b => pure b
    | none => failure

/-- Reads as often as it goes, from the given bytes on; every round has to read something. -/
def manyFrom (p : Reader α) (input : List UInt8) : Outcome (List α) :=
  match p input with
  | .fail => .done [] input
  | .more => .more
  | .done a rest =>
    if rest.length < input.length then
      match manyFrom p rest with
      | .done as rest => .done (a :: as) rest
      | outcome => outcome
    else .fail
termination_by input.length

/-- Reads as often as it goes. -/
def many (p : Reader α) : Reader (List α) := manyFrom p

/-- Reads at least once. -/
def many1 (p : Reader α) : Reader (List α) := do return (← p) :: (← many p)

/-- Reads items with something between each two. -/
def sepBy1 (separator : Reader Unit) (p : Reader α) : Reader (List α) := do
  return (← p) :: (← many (separator.bind fun _ => p))

/-- Reads items with something between each two, or none. -/
def sepBy (separator : Reader Unit) (p : Reader α) : Reader (List α) :=
  orElse (sepBy1 separator p) (pure [])

/-- Reads exactly these bytes. -/
def bytes : List UInt8 → Reader Unit
  | [], input => .done () input
  | _ :: _, [] => .more
  | t :: ts, b :: rest => if t = b then bytes ts rest else .fail

/-- Reads one character of ASCII. -/
def char (c : Char) : Reader Unit := bytes [c.toUInt8]

/-- A byte without the case of an ASCII letter. -/
def foldByte (b : UInt8) : UInt8 := if 65 ≤ b ∧ b ≤ 90 then b + 32 else b

/-- Reads these bytes, in any case of ASCII letters. -/
def anyCase : List UInt8 → Reader Unit
  | [], input => .done () input
  | _ :: _, [] => .more
  | t :: ts, b :: rest => if foldByte t = foldByte b then anyCase ts rest else .fail

/-- Reads a word of ASCII, in any case of letters. -/
def word (w : String) : Reader Unit := anyCase (w.toList.map Char.toUInt8)

/-- Reads as long as a test holds; the byte that ends the run has to be there. -/
def takeWhile (p : UInt8 → Bool) : Reader (List UInt8)
  | [] => .more
  | b :: rest =>
    if p b then
      match takeWhile p rest with
      | .done bs rest => .done (b :: bs) rest
      | outcome => outcome
    else .done [] (b :: rest)

/-- Reads as long as a test holds, at least one byte. -/
def takeWhile1 (p : UInt8 → Bool) : Reader (List UInt8) :=
  (takeWhile p).filterMap fun bs => if bs.isEmpty then none else some bs

/-- Reads a number of bytes, whatever they are. -/
def take (n : Nat) : Reader (List UInt8) := fun input =>
  if input.length < n then .more else .done (input.take n) (input.drop n)

/-- Reads something between two characters. -/
def between (before after : Char) (p : Reader α) : Reader α := do
  char before
  let a ← p
  char after
  return a

/-- Reads something in parentheses. -/
def inParens (p : Reader α) : Reader α := between '(' ')' p

/-- Reads something after a word. -/
def after (w : String) (p : Reader α) : Reader α := (word w).bind fun _ => p

/-- Reads something after a blank. -/
def spaced (p : Reader α) : Reader α := (char ' ').bind fun _ => p

end Reader

end Postroom.Wire
