import Postroom.Text.Blank
import Postroom.Text.Decimal
import Postroom.Text.Quoted

/-!
# Durations

A duration is written as a number and a unit: seconds (also without a unit), milliseconds, minutes
or hours.  `Duration.read` accepts exactly that, with white space around either part, and says what
is wrong with anything else.
-/

namespace Postroom

/-- A length of time. -/
structure Duration where
  /-- Whole seconds. -/
  seconds : Nat
  /-- Nanoseconds beyond them. -/
  nanos : Nat
deriving Repr, DecidableEq

namespace Duration

/-- Why a text is no duration. -/
inductive Fault where
  /-- It does not begin with a number that can be held. -/
  | malformed (text : String)
  /-- In seconds it cannot be held. -/
  | tooLarge (text : String)
  /-- Its unit is not known. -/
  | unknownUnit (unit text : String)
deriving Repr, DecidableEq

/-- What is wrong with a duration, in words. -/
def Fault.message : Fault → String
  | malformed text => "invalid duration " ++ Text.quoted text
  | tooLarge text => "duration " ++ Text.quoted text ++ " is too large"
  | unknownUnit unit text =>
    "unknown duration unit " ++ Text.quoted unit ++ " in " ++ Text.quoted text

/-- A whole number of seconds. -/
def ofSeconds (n : Nat) : Duration := ⟨n, 0⟩

/-- A whole number of milliseconds. -/
def ofMillis (n : Nat) : Duration := ⟨n / 1000, n % 1000 * 1000000⟩

/-- `n` times `factor` seconds, if they can be held. -/
def scaled (text : String) (n factor : Nat) : Except Fault Duration :=
  if n * factor ≤ Text.Decimal.maxUInt64 then .ok (ofSeconds (n * factor))
  else .error (.tooLarge text)

/-- The duration of `n` units. -/
def ofUnit (text : String) (n : Nat) : String → Except Fault Duration
  | "" | "s" => .ok (ofSeconds n)
  | "ms" => .ok (ofMillis n)
  | "m" => scaled text n 60
  | "h" => scaled text n 3600
  | other => .error (.unknownUnit other text)

/-- Reads a duration. -/
def read (s : String) : Except Fault Duration :=
  let text := Text.trim s.toList
  let digits := text.takeWhile Char.isDigit
  let unit := Text.trim (text.dropWhile Char.isDigit)
  match Text.Decimal.readUpTo? Text.Decimal.maxUInt64 digits with
  | none => .error (.malformed (String.ofList text))
  | some n => ofUnit (String.ofList text) n (String.ofList unit)

end Duration

end Postroom
