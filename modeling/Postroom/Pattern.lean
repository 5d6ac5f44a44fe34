import Postroom.Pattern.Reader
import Postroom.Pattern.Search
import Postroom.Pattern.Weight
import Postroom.Text.Lower
import Postroom.Text.Split

/-!
# Patterns

A pattern is compared with a value without regard to case.  The empty pattern matches the empty
value only.  A pattern that occurs in the value as plain text matches, whether or not it is a
regular expression; only a pattern that does not occur is read as one, and may be refused.
-/

namespace Postroom

namespace Pattern

/-- The expression of a pattern, if it is one and not too large. -/
def compile (pattern : List Char) : Except Cause Regular := do
  let tree ← Tree.read pattern
  let (e, _) ← Regular.ofTree Modes.initial tree
  if e.isTooLarge then throw (.tooLarge sizeLimit) else return e

/-- Whether a pattern matches a value. -/
def check (pattern value : List Char) : Except Cause Bool :=
  let value := Text.lowerChars value
  if pattern.isEmpty then .ok value.isEmpty
  else if Text.occursIn (Text.lowerChars pattern) value then .ok true
  else do return (← compile pattern).matches value

/-- Whether a pattern matches a value, or why the pattern is refused. -/
def matches? (pattern value : String) : Except Refusal Bool :=
  match check pattern.toList value.toList with
  | .ok b => .ok b
  | .error cause => .error ⟨pattern, cause⟩

end Pattern

end Postroom
