/-!
# Searching and splitting text

Where one text occurs in another, and the lines of a text.
-/

namespace Postroom.Text

variable {α : Type} [DecidableEq α]

/-- Whether a text occurs in another. -/
def occursIn (part : List α) : List α → Bool
  | [] => part.isEmpty
  | c :: rest => part.isPrefixOf (c :: rest) || occursIn part rest

/-- What stands before and after the first place where `mark` occurs. -/
def cut? (mark : List α) : List α → Option (List α × List α)
  | [] => if mark.isEmpty then some ([], []) else none
  | c :: rest =>
    if mark.isPrefixOf (c :: rest) then some ([], (c :: rest).drop mark.length)
    else (cut? mark rest).map fun (before, after) => (c :: before, after)

/-- A list without the items at its end that satisfy `p`. -/
def dropEndWhile (p : α → Bool) (xs : List α) : List α := (xs.reverse.dropWhile p).reverse

/-- The pieces between occurrences of a separator; `piece` holds the one being read, last character
first. -/
def splitFrom (separator : α) (piece : List α) : List α → List (List α)
  | [] => [piece.reverse]
  | c :: rest =>
    if c = separator then piece.reverse :: splitFrom separator [] rest
    else splitFrom separator (c :: piece) rest

/-- The pieces between occurrences of a separator. -/
def split (separator : α) (xs : List α) : List (List α) := splitFrom separator [] xs

/-- The lines of a text: a line feed ends a line, a carriage return before it belongs to the end,
and nothing after the last line feed is no line. -/
def lines (cs : List Char) : List (List Char) :=
  let pieces := split '\n' cs
  let whole := pieces.dropLast.map fun l => if l.getLast? = some '\r' then l.dropLast else l
  match pieces.getLast? with
  | some [] | none => whole
  | some last => whole ++ [last]

/-- A text that begins with another contains it. -/
theorem occursIn_append (part rest : List α) : occursIn part (part ++ rest) = true := by
  cases part with
  | nil => cases rest <;> simp [occursIn]
  | cons c cs => simp [occursIn]

/-- A text that contains another still does so after something is put before it. -/
theorem occursIn_append_left (part before rest : List α) (h : occursIn part rest = true) :
    occursIn part (before ++ rest) = true := by
  induction before with
  | nil => exact h
  | cons c cs ih => simp [occursIn, ih]

end Postroom.Text
