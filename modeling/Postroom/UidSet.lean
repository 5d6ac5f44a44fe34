/-!
# Sets of message identifiers

The text that names a set of messages in a command: identifiers in ascending order, where a run of
consecutive ones is written as its two ends around a colon.
-/

namespace Postroom

/-- The identifier of a message in its mailbox. -/
abbrev Uid := Nat

namespace UidSet

/-- Puts a number into an ascending list without repetitions. -/
def insert (n : Nat) : List Nat → List Nat
  | [] => [n]
  | m :: rest => if n < m then n :: m :: rest else if n = m then m :: rest else m :: insert n rest

/-- The members of a list in ascending order, without repetitions. -/
def ascending (ns : List Nat) : List Nat := ns.foldr insert []

/-- The runs `(first, last)` of consecutive numbers of an ascending list. -/
def runs : List Nat → List (Nat × Nat)
  | [] => []
  | n :: rest =>
    match runs rest with
    | (lo, hi) :: more => if n + 1 = lo then (n, hi) :: more else (n, n) :: (lo, hi) :: more
    | [] => [(n, n)]

/-- A run as written. -/
def renderRun (r : Nat × Nat) : String :=
  if r.1 = r.2 then toString r.1 else toString r.1 ++ ":" ++ toString r.2

/-- The text of a set. -/
def render (uids : List Uid) : String :=
  String.intercalate "," ((runs (ascending uids)).map renderRun)

theorem mem_insert {a n : Nat} {ns : List Nat} : a ∈ insert n ns ↔ a = n ∨ a ∈ ns := by
  induction ns with
  | nil => simp [insert]
  | cons m rest ih => grind [insert]

theorem pairwise_insert {n : Nat} {ns : List Nat} (h : ns.Pairwise (· < ·)) :
    (insert n ns).Pairwise (· < ·) := by
  induction ns with
  | nil => exact List.pairwise_singleton _ n
  | cons m rest ih =>
    obtain ⟨hm, hrest⟩ := List.pairwise_cons.mp h
    rw [insert]
    split
    · next hlt =>
      refine List.pairwise_cons.mpr ⟨fun a ha => ?_, h⟩
      rcases List.mem_cons.mp ha with rfl | ha
      · exact hlt
      · exact Nat.lt_trans hlt (hm a ha)
    split
    · exact h
    · next hle hne =>
      refine List.pairwise_cons.mpr ⟨fun a ha => ?_, ih hrest⟩
      rcases mem_insert.mp ha with rfl | ha
      · omega
      · exact hm a ha

/-- Sorting leaves each member once, and a smaller one before a greater one. -/
theorem pairwise_ascending (ns : List Nat) : (ascending ns).Pairwise (· < ·) := by
  induction ns with
  | nil => exact List.Pairwise.nil
  | cons n rest ih => exact pairwise_insert ih

/-- Sorting keeps the members. -/
@[simp] theorem mem_ascending {a : Nat} {ns : List Nat} : a ∈ ascending ns ↔ a ∈ ns := by
  induction ns with
  | nil => simp [ascending]
  | cons n rest ih => simp [ascending, mem_insert] at ih ⊢; simp [ih]

end UidSet

end Postroom
