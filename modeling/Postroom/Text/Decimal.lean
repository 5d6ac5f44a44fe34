/-!
# Decimal numbers

Reading unsigned numbers written in ASCII digits.
-/

namespace Postroom.Text.Decimal

/-- The value of an ASCII digit. -/
def digit? (c : Char) : Option Nat :=
  if '0' ≤ c ∧ c ≤ '9' then some (c.toNat - 48) else none

/-- The value of digits read after a prefix of value `acc`. -/
def readFrom (acc : Nat) : List Char → Option Nat
  | [] => some acc
  | c :: rest => (digit? c).bind fun d => readFrom (acc * 10 + d) rest

/-- The value of one or more digits; leading zeros are allowed. -/
def read? (cs : List Char) : Option Nat := if cs.isEmpty then none else readFrom 0 cs

/-- The value of one or more digits, if it is at most `limit`. -/
def readUpTo? (limit : Nat) (cs : List Char) : Option Nat := (read? cs).filter (· ≤ limit)

/-- The largest unsigned number of 64 bits. -/
def maxUInt64 : Nat := Nat.pow 2 64 - 1

/-- The largest unsigned number of 32 bits. -/
def maxUInt32 : Nat := Nat.pow 2 32 - 1

end Postroom.Text.Decimal
