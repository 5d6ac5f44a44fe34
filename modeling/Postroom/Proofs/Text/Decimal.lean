import Postroom.Text.Decimal

/-! # Numbers are read back from their digits -/

namespace Postroom.Text.Decimal

theorem digit?_of_isDigit {c : Char} (h : c.isDigit = true) :
    digit? c = some (c.toNat - '0'.toNat) := by
  have hrange : '0' ≤ c ∧ c ≤ '9' := by
    simpa [Char.isDigit, Char.le_def] using h
  rw [digit?, if_pos hrange]
  rfl

theorem readFrom_of_digits {cs : List Char} (h : ∀ c ∈ cs, c.isDigit = true) (acc : Nat) :
    readFrom acc cs = some (Nat.ofDigitChars 10 cs acc) := by
  induction cs generalizing acc with
  | nil => rfl
  | cons c cs ih =>
    rw [readFrom, digit?_of_isDigit (h c List.mem_cons_self), Option.bind_some,
      ih (fun d hd => h d (List.mem_cons_of_mem _ hd)), Nat.mul_comm]
    rfl

/-- Digits are read as the number they denote, unless it is too large. -/
theorem readUpTo?_of_digits {cs : List Char} (h : ∀ c ∈ cs, c.isDigit = true) (limit : Nat) :
    readUpTo? limit cs =
      if cs ≠ [] ∧ Nat.ofDigitChars 10 cs 0 ≤ limit then some (Nat.ofDigitChars 10 cs 0)
      else none := by
  cases cs with
  | nil => rfl
  | cons c cs =>
    rw [readUpTo?, read?, if_neg (by simp), readFrom_of_digits h, Option.filter_some]
    simp

/-- A number is read back from its digits. -/
theorem read?_repr (n : Nat) : read? n.repr.toList = some n := by
  rw [Nat.toList_repr, read?, if_neg (by simp [Nat.toDigits_ne_nil]),
    readFrom_of_digits fun c => Nat.isDigit_of_mem_toDigits (by decide) (by decide),
    Nat.ofDigitChars_toDigits (by decide) (by decide)]

theorem readUpTo?_repr {n limit : Nat} (h : n ≤ limit) :
    readUpTo? limit n.repr.toList = some n := by
  rw [readUpTo?, read?_repr, Option.filter_some]
  simp [h]

end Postroom.Text.Decimal
