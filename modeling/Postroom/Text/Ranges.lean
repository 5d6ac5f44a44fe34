/-!
# Ranges of code points

A set of code points is a list of ranges `(first, last)`, both ends included, in ascending order.
`Ranges.has` looks a code point up and stops at the first range that begins above it, so a look-up
among the low code points never walks the whole list.  On an ascending list that early stop loses
nothing (`Ranges.has_iff`).  A code point that a character can have is that of its character
(`toNat_ofNat`).
-/

namespace Postroom.Text

theorem toNat_ofNat {n : Nat} (h : n.isValidChar) : (Char.ofNat n).toNat = n := by
  rw [Char.ofNat, dif_pos h]
  rfl

/-- Ranges `(first, last)` of code points, both ends included, in ascending order. -/
abbrev Ranges := List (Nat × Nat)

namespace Ranges

/-- Whether a code point lies in one of the ranges. -/
def has : Ranges → Nat → Bool
  | [], _ => false
  | (lo, hi) :: rest, n => if n < lo then false else n ≤ hi || has rest n

/-- Every range begins above the end of the one before it, the first above `floor`. -/
def Ascending : Nat → Ranges → Prop
  | _, [] => True
  | floor, (lo, hi) :: rest => floor ≤ lo ∧ lo ≤ hi ∧ Ascending (hi + 1) rest

instance decidableAscending : (floor : Nat) → (rs : Ranges) → Decidable (Ascending floor rs)
  | _, [] => .isTrue trivial
  | floor, (lo, hi) :: rest =>
    have := decidableAscending (hi + 1) rest
    inferInstanceAs (Decidable (floor ≤ lo ∧ lo ≤ hi ∧ Ascending (hi + 1) rest))

@[simp] theorem has_nil (n : Nat) : has [] n = false := rfl

/-- Nothing below the floor of an ascending list is in it. -/
theorem has_eq_false_of_lt {rs : Ranges} {floor n : Nat} (h : Ascending floor rs) (hn : n < floor) :
    has rs n = false := by
  cases rs with
  | nil => rfl
  | cons r rest =>
    obtain ⟨lo, hi⟩ := r
    have : n < lo := by have := h.1; omega
    simp [has, this]

/-- A code point is in an ascending list exactly when some range encloses it. -/
theorem has_iff {rs : Ranges} {floor : Nat} (h : Ascending floor rs) (n : Nat) :
    has rs n = true ↔ ∃ r ∈ rs, r.1 ≤ n ∧ n ≤ r.2 := by
  induction rs generalizing floor with
  | nil => simp
  | cons r rest ih =>
    obtain ⟨lo, hi⟩ := r
    obtain ⟨_, hle, hrest⟩ := h
    have ih := ih hrest
    by_cases hlt : n < lo
    · have hno : has rest n = false := has_eq_false_of_lt hrest (by omega)
      rw [hno] at ih
      simp only [has, hlt, if_true, List.mem_cons, exists_eq_or_imp]
      constructor
      · intro h; cases h
      · rintro (⟨h, _⟩ | h)
        · omega
        · exact ih.2 h
    · simp only [has, hlt, if_false, Bool.or_eq_true, decide_eq_true_eq, ih, List.mem_cons,
        exists_eq_or_imp]
      constructor
      · rintro (h | h)
        · exact .inl ⟨by omega, h⟩
        · exact .inr h
      · rintro (⟨_, h⟩ | h)
        · exact .inl h
        · exact .inr h

end Ranges

end Postroom.Text
