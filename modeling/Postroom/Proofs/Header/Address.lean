import Postroom.Header.Address

/-! # Addresses that were read

A list of addresses is read item by item, and an address joins those read so far in one
way only (`Cursor.add`), which refuses it without an at sign.  So every address of a
list has one (`contains_of_readList`).
-/

namespace Postroom.Header.Address

variable {s : Cursor} {atEnd : Bool}

theorem contains_of_make {name : Option (List Char)} {address : List Char} {a : Address}
    (h : make name address = .ok a) : '@' ∈ a.address := by
  unfold make at h
  split at h
  · next hat =>
    cases h
    simpa using hat
  · cases h

namespace Cursor

/-- Every address read so far has an at sign. -/
def Addressed (s : Cursor) : Prop := ∀ a ∈ s.done, '@' ∈ a.address

/-- If reading goes on, every address read so far has an at sign. -/
def StaysAddressed (r : Except Cause Cursor) : Prop := ∀ s, r = .ok s → s.Addressed

@[simp] theorem staysAddressed_ok : StaysAddressed (.ok s) ↔ s.Addressed := by
  simp [StaysAddressed]

@[simp] theorem staysAddressed_error (cause : Cause) : StaysAddressed (.error cause) := nofun

@[simp] theorem addressed_mk (state : State) (gap : List Char) (group : Option (List Char)) :
    Addressed ⟨s.done, state, gap, group⟩ ↔ s.Addressed := Iff.rfl

@[simp] theorem addressed_switch (state : State) : (s.switch state).Addressed ↔ s.Addressed :=
  Iff.rfl

@[simp] theorem addressed_leave : s.leave.Addressed ↔ s.Addressed := by
  unfold leave
  split <;> rfl

theorem Addressed.enter (h : s.Addressed) : StaysAddressed (s.enter atEnd) := by
  unfold Cursor.enter
  repeat' split
  all_goals simp [h]

theorem Addressed.add (h : s.Addressed) (name : Option (List Char)) (address : List Char)
    (state : State) : StaysAddressed (s.add name address state) := by
  intro t ht
  unfold Cursor.add at ht
  cases hmake : make name address with
  | error cause => simp [hmake, bind, Except.bind] at ht
  | ok a =>
    rw [hmake] at ht
    cases ht
    refine List.forall_mem_append.mpr ⟨h, List.forall_mem_singleton.mpr ?_⟩
    exact contains_of_make hmake

theorem StaysAddressed.leave {r : Except Cause Cursor} (h : StaysAddressed r) :
    StaysAddressed (Cursor.leave <$> r) := by
  cases r with
  | error cause => exact staysAddressed_error cause
  | ok t => exact staysAddressed_ok.mpr (addressed_leave.mpr (staysAddressed_ok.mp h))

/-- One more item leaves the addresses with at signs, whatever is being read. -/
theorem Addressed.step (h : s.Addressed) (item : Item) : StaysAddressed (s.step atEnd item) := by
  unfold Cursor.step
  split <;> repeat' split
  all_goals simp [h, h.enter, h.add, (h.add _ _ _).leave]

theorem Addressed.steps {items : List Item} (h : s.Addressed) : StaysAddressed (s.steps items) := by
  induction items generalizing s with
  | nil => exact staysAddressed_ok.mpr h
  | cons item rest ih =>
    have hstep : StaysAddressed (s.step rest.isEmpty item) := h.step item
    rw [Cursor.steps]
    cases hread : s.step rest.isEmpty item with
    | error cause => exact staysAddressed_error cause
    | ok t =>
      rw [hread, staysAddressed_ok] at hstep
      exact ih hstep

theorem Addressed.finish {addresses : List Address} (h : s.Addressed)
    (hread : s.finish = .ok addresses) : ∀ a ∈ addresses, '@' ∈ a.address := by
  unfold Cursor.finish at hread
  split at hread
  · cases hread
  · split at hread
    · cases hread
      exact h
    · cases hread
      exact h
    · next cs _ =>
      cases hmake : make none (Text.trimEnd cs) with
      | error cause => simp [hmake, bind, Except.bind] at hread
      | ok a =>
        rw [hmake] at hread
        cases hread
        refine List.forall_mem_append.mpr ⟨h, List.forall_mem_singleton.mpr ?_⟩
        exact contains_of_make hmake
    · cases hread

end Cursor

/-- Every address of a list that can be read has an at sign. -/
theorem contains_of_readList {tokens : List Token} {addresses : List Address}
    (h : readList tokens = .ok addresses) : ∀ a ∈ addresses, '@' ∈ a.address := by
  have hnone : Cursor.initial.Addressed := by
    intro a ha
    cases ha
  have hsteps : Cursor.StaysAddressed (Cursor.initial.steps (items tokens)) := hnone.steps
  unfold readList at h
  cases hread : Cursor.initial.steps (items tokens) with
  | error cause => simp [hread, bind, Except.bind] at h
  | ok s =>
    rw [hread] at h hsteps
    exact (Cursor.staysAddressed_ok.mp hsteps).finish h

end Postroom.Header.Address
