import Postroom.Proofs.Pattern.CharSet
import Postroom.Proofs.Text.CaseFold

/-! # Sets of letters in either case

A set with the letters of either case holds what is alike one of its members (`covers_foldCase`),
so it depends only on the classes its members are in.  It is the same set for a letter and for its
lower-case letter (`foldCase_single`), and for two unions whose parts are the same in that sense
(`foldCase_union`).
-/

namespace Postroom.Pattern.CharSet

open Text Text.CaseFold

variable {a b a' b' : CharSet} {n : Nat}

/-- The images of the points of a range that a run passes through. -/
theorem covers_imagePoints {first step image lo hi : Nat} (hlo : first ≤ lo) :
    Covers (imagePoints first step image lo hi) n ↔
      ∃ k, lo ≤ k ∧ k ≤ hi ∧ (k - first) % step = 0 ∧ n = image + (k - first) := by
  unfold imagePoints
  by_cases hstep : step = 1
  · subst hstep
    rw [if_pos rfl]
    by_cases hle : lo ≤ hi
    · simp only [if_pos hle, covers_cons, not_covers_nil, or_false, Nat.mod_one, true_and]
      constructor
      · rintro ⟨hlow, hhigh⟩
        exact ⟨first + (n - image), by omega, by omega, by omega⟩
      · rintro ⟨k, hk, hk', rfl⟩
        omega
    · rw [if_neg hle]
      refine iff_of_false not_covers_nil ?_
      rintro ⟨k, hk, hk', -⟩
      omega
  · rw [if_neg hstep, Covers]
    simp only [List.mem_filterMap, List.mem_range]
    constructor
    · rintro ⟨r, ⟨k, hk, hr⟩, hlow, hhigh⟩
      obtain ⟨hmod, hr⟩ := Option.ite_none_right_eq_some.mp hr
      cases Option.some.inj hr
      exact ⟨lo + k, by omega, by omega, hmod, by omega⟩
    · rintro ⟨k, hk, hk', hmod, rfl⟩
      refine ⟨_, ⟨k - lo, by omega, Option.ite_none_right_eq_some.mpr ⟨?_, rfl⟩⟩, ?_, ?_⟩
      · rwa [Nat.add_sub_cancel' hk]
      · dsimp only
        omega
      · dsimp only
        omega

/-- Letters that form a pair with one of a range. -/
theorem covers_pairsOfRange {r : Nat × Nat} :
    Covers (pairs.flatMap fun (first, last, step, image) =>
      imagePoints first step image (max r.1 first) (min r.2 last)
        ++ imagePoints image step first (max r.1 image) (min r.2 (image + (last - first)))) n ↔
      ∃ k, r.1 ≤ k ∧ k ≤ r.2 ∧ (Paired k n ∨ Paired n k) := by
  rw [covers_flatMap]
  constructor
  · rintro ⟨⟨first, last, step, image⟩, hs, hn⟩
    have hordered : first ≤ last := pairs_ordered _ hs
    rw [covers_append, covers_imagePoints (Nat.le_max_right _ _),
      covers_imagePoints (Nat.le_max_right _ _)] at hn
    rcases hn with ⟨k, hlow, hhigh, hmod, rfl⟩ | ⟨k, hlow, hhigh, hmod, rfl⟩
    · exact ⟨k, by omega, by omega, Or.inl ⟨_, hs, ⟨by omega, by omega, hmod⟩, rfl⟩⟩
    · refine ⟨k, by omega, by omega, Or.inr ⟨_, hs, ⟨Nat.le_add_right _ _, by omega, ?_⟩, ?_⟩⟩
      · rwa [Nat.add_sub_cancel_left]
      · dsimp only
        omega
  · rintro ⟨k, hlow, hhigh, ⟨⟨first, last, step, image⟩, hs, hk, rfl⟩ |
      ⟨⟨first, last, step, image⟩, hs, hn, rfl⟩⟩
    · obtain ⟨hfirst, hlast, hmod⟩ := hk
      refine ⟨_, hs, covers_append.mpr (Or.inl ?_)⟩
      exact (covers_imagePoints (Nat.le_max_right _ _)).mpr ⟨k, by omega, by omega, hmod, rfl⟩
    · obtain ⟨hfirst, hlast, hmod⟩ := hn
      dsimp only at hlow hhigh
      refine ⟨_, hs, covers_append.mpr (Or.inr ?_)⟩
      refine (covers_imagePoints (Nat.le_max_right _ _)).mpr
        ⟨image + (n - first), by omega, by omega, ?_, by omega⟩
      rwa [Nat.add_sub_cancel_left]

/-- Letters in a larger class with one of a range. -/
theorem covers_classesOfRange {r : Nat × Nat} :
    Covers (classes.flatMap fun c =>
      if c.any fun m => r.1 ≤ m && m ≤ r.2 then c.map fun m => (m, m) else []) n ↔
      ∃ k, r.1 ≤ k ∧ k ≤ r.2 ∧ Classmates k n := by
  have hpoints : ∀ c : List Nat, Covers (c.map fun m => (m, m)) n ↔ n ∈ c := by
    intro c
    simp only [Covers, List.mem_map]
    constructor
    · rintro ⟨_, ⟨m, hm, rfl⟩, hlow, hhigh⟩
      rwa [Nat.le_antisymm hhigh hlow]
    · intro hn
      exact ⟨_, ⟨n, hn, rfl⟩, Nat.le_refl _, Nat.le_refl _⟩
  rw [covers_flatMap]
  constructor
  · rintro ⟨c, hc, hn⟩
    by_cases hany : (c.any fun m => r.1 ≤ m && m ≤ r.2) = true
    · rw [if_pos hany, hpoints] at hn
      obtain ⟨k, hk, hin⟩ := List.any_eq_true.mp hany
      rw [Bool.and_eq_true, decide_eq_true_iff, decide_eq_true_iff] at hin
      exact ⟨k, hin.1, hin.2, c, hc, hk, hn⟩
    · rw [if_neg hany] at hn
      exact absurd hn not_covers_nil
  · rintro ⟨k, hlow, hhigh, c, hc, hk, hn⟩
    refine ⟨c, hc, ?_⟩
    rw [if_pos (List.any_eq_true.mpr ⟨k, hk, by simp [hlow, hhigh]⟩), hpoints]
    exact hn

/-- **A set with the letters of either case holds what is alike one of its members.** -/
theorem covers_foldCase : Covers (foldCase a) n ↔ ∃ k, Covers a k ∧ Alike k n := by
  rw [foldCase, covers_ofRanges, covers_append, covers_flatMap]
  constructor
  · rintro (hn | ⟨r, hr, hn⟩)
    · exact ⟨n, hn, alike_refl n⟩
    · rcases covers_append.mp hn with hpairs | hclasses
      · obtain ⟨k, hlow, hhigh, hk | hk⟩ := covers_pairsOfRange.mp hpairs
        · exact ⟨k, ⟨r, hr, hlow, hhigh⟩, Or.inr (Or.inl hk)⟩
        · exact ⟨k, ⟨r, hr, hlow, hhigh⟩, Or.inr (Or.inr (Or.inl hk))⟩
      · obtain ⟨k, hlow, hhigh, hk⟩ := covers_classesOfRange.mp hclasses
        exact ⟨k, ⟨r, hr, hlow, hhigh⟩, Or.inr (Or.inr (Or.inr hk))⟩
  · rintro ⟨k, ⟨r, hr, hlow, hhigh⟩, rfl | hk | hk | hk⟩
    · exact Or.inl ⟨r, hr, hlow, hhigh⟩
    · exact Or.inr ⟨r, hr, covers_append.mpr
        (Or.inl (covers_pairsOfRange.mpr ⟨k, hlow, hhigh, Or.inl hk⟩))⟩
    · exact Or.inr ⟨r, hr, covers_append.mpr
        (Or.inl (covers_pairsOfRange.mpr ⟨k, hlow, hhigh, Or.inr hk⟩))⟩
    · exact Or.inr ⟨r, hr, covers_append.mpr
        (Or.inr (covers_classesOfRange.mpr ⟨k, hlow, hhigh, hk⟩))⟩

theorem foldCase_eq_iff : foldCase a = foldCase b ↔
    ∀ n, (∃ k, Covers a k ∧ Alike k n) ↔ ∃ k, Covers b k ∧ Alike k n := by
  constructor
  · intro h n
    rw [← covers_foldCase, h, covers_foldCase]
  · intro h
    refine ofRanges_eq_iff.mpr fun n => ?_
    have hn := h n
    rwa [← covers_foldCase, ← covers_foldCase, foldCase, foldCase, covers_ofRanges,
      covers_ofRanges] at hn

@[simp] theorem covers_single {c : Char} : Covers (single c) n ↔ n = c.toNat := by
  simp only [single, covers_cons, not_covers_nil, or_false]
  omega

/-- The set that stands for a letter holds the letters alike. -/
theorem has_foldCase_single {c : Char} : (foldCase (single c)).has n = true ↔ Alike c.toNat n := by
  rw [foldCase, has_ofRanges, ← covers_ofRanges, ← foldCase, covers_foldCase]
  simp only [covers_single, exists_eq_left]

/-- One set stands for a letter and for another one alike. -/
theorem foldCase_single {c d : Char} (h : Alike c.toNat d.toNat) :
    foldCase (single c) = foldCase (single d) := by
  refine foldCase_eq_iff.mpr fun n => ?_
  simp only [covers_single, exists_eq_left]
  exact ⟨fun hn => alike_trans (alike_symm h) hn, fun hn => alike_trans h hn⟩

/-- The letters of a union are those of its parts. -/
theorem foldCase_union (ha : foldCase a = foldCase a') (hb : foldCase b = foldCase b') :
    foldCase (union a b) = foldCase (union a' b') := by
  rw [foldCase_eq_iff] at ha hb ⊢
  intro n
  simp only [union, covers_ofRanges, covers_append, or_and_right, exists_or, ha n, hb n]

end Postroom.Pattern.CharSet
