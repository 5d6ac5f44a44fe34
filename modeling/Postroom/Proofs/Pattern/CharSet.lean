import Postroom.Pattern.CharSet

/-! # One form for each set

Two sets of characters with the same members are made of the same ranges.  Any ranges cover some
code points (`Covers`); sorting them and joining neighbours keeps what they cover and leaves
ranges that are `Separated`, and separated ranges are determined by what they cover
(`Separated.ext`).  So the set of some ranges depends only on what they cover (`ofRanges_eq_iff`).
-/

namespace Postroom.Pattern.CharSet

open Text

/-- A code point is in one of the ranges, in whatever order they stand. -/
def Covers (rs : Ranges) (n : Nat) : Prop := ∃ r ∈ rs, r.1 ≤ n ∧ n ≤ r.2

/-- None of the ranges is empty, they ascend, and no two of them meet or touch. -/
def Separated (rs : Ranges) : Prop :=
  (∀ r ∈ rs, r.1 ≤ r.2) ∧ rs.Pairwise fun r s => r.2 + 1 < s.1

variable {rs ss : Ranges} {r s : Nat × Nat} {n : Nat}

@[simp] theorem not_covers_nil : ¬ Covers [] n := by simp [Covers]

@[simp] theorem covers_cons : Covers (r :: rs) n ↔ (r.1 ≤ n ∧ n ≤ r.2) ∨ Covers rs n := by
  simp [Covers]

@[simp] theorem covers_append : Covers (rs ++ ss) n ↔ Covers rs n ∨ Covers ss n := by
  simp [Covers, or_and_right, exists_or]

theorem covers_flatMap {α : Type} {xs : List α} {f : α → Ranges} :
    Covers (xs.flatMap f) n ↔ ∃ x ∈ xs, Covers (f x) n := by
  simp only [Covers, List.mem_flatMap]
  constructor
  · rintro ⟨r, ⟨x, hx, hr⟩, hn⟩
    exact ⟨x, hx, r, hr, hn⟩
  · rintro ⟨x, hx, r, hr, hn⟩
    exact ⟨r, ⟨x, hx, hr⟩, hn⟩

/-! ### Separated ranges -/

namespace Separated

theorem tail (h : Separated (r :: rs)) : Separated rs :=
  ⟨fun s hs => h.1 s (List.mem_cons_of_mem _ hs), (List.pairwise_cons.mp h.2).2⟩

/-- What the later ranges cover lies behind the first one, and not next to it. -/
theorem lt_of_covers (h : Separated (r :: rs)) (hn : Covers rs n) : r.2 + 1 < n := by
  obtain ⟨s, hs, hlow, -⟩ := hn
  have := (List.pairwise_cons.mp h.2).1 s hs
  omega

theorem ascending {floor : Nat} (h : Separated rs) (hfloor : ∀ r ∈ rs, floor ≤ r.1) :
    Ranges.Ascending floor rs := by
  induction rs generalizing floor with
  | nil => trivial
  | cons r rs ih =>
    refine ⟨hfloor r List.mem_cons_self, h.1 r List.mem_cons_self, ih h.tail fun s hs => ?_⟩
    have := (List.pairwise_cons.mp h.2).1 s hs
    omega

theorem has_iff (h : Separated rs) : Ranges.has rs n = true ↔ Covers rs n :=
  Ranges.has_iff (h.ascending fun _ _ => Nat.zero_le _) n

/-- The first range begins no later than one that covers the same. -/
theorem first_le (hr : Separated (r :: rs)) (hs : Separated (s :: ss))
    (h : ∀ n, Covers (r :: rs) n ↔ Covers (s :: ss) n) : r.1 ≤ s.1 := by
  have hhere : Covers (s :: ss) s.1 :=
    covers_cons.mpr (Or.inl ⟨Nat.le_refl _, hs.1 s List.mem_cons_self⟩)
  rcases covers_cons.mp ((h s.1).mpr hhere) with hin | hlater
  · exact hin.1
  · have := hr.lt_of_covers hlater
    have := hr.1 r List.mem_cons_self
    omega

/-- The first range ends no later than one that covers the same: the code point behind it is covered
by none. -/
theorem last_le (hs : Separated (s :: ss)) (hfirst : r.1 = s.1)
    (h : ∀ n, Covers (r :: rs) n ↔ Covers (s :: ss) n) : r.2 ≤ s.2 := by
  refine Nat.le_of_not_lt fun hlt => ?_
  have hsome := hs.1 s List.mem_cons_self
  have hnext : Covers (r :: rs) (s.2 + 1) := covers_cons.mpr (Or.inl ⟨by omega, by omega⟩)
  rcases covers_cons.mp ((h _).mp hnext) with hin | hlater
  · omega
  · have := hs.lt_of_covers hlater
    omega

/-- **Separated ranges are determined by what they cover.**  By induction on both. -/
theorem ext (hr : Separated rs) (hs : Separated ss) (h : ∀ n, Covers rs n ↔ Covers ss n) :
    rs = ss := by
  induction rs generalizing ss with
  | nil =>
    cases ss with
    | nil => rfl
    | cons s ss =>
      have hfirst := (h s.1).mpr
        (covers_cons.mpr (Or.inl ⟨Nat.le_refl _, hs.1 s List.mem_cons_self⟩))
      exact absurd hfirst not_covers_nil
  | cons r rs ih =>
    cases ss with
    | nil =>
      have hfirst := (h r.1).mp
        (covers_cons.mpr (Or.inl ⟨Nat.le_refl _, hr.1 r List.mem_cons_self⟩))
      exact absurd hfirst not_covers_nil
    | cons s ss =>
      have hfirst : r.1 = s.1 :=
        Nat.le_antisymm (first_le hr hs h) (first_le hs hr fun n => (h n).symm)
      have hlast : r.2 = s.2 :=
        Nat.le_antisymm (last_le hs hfirst h) (last_le hr hfirst.symm fun n => (h n).symm)
      obtain rfl : r = s := Prod.ext hfirst hlast
      have hrest : rs = ss := ih hr.tail hs.tail fun n => by
        have hboth := h n
        rw [covers_cons, covers_cons] at hboth
        constructor
        · intro hn
          have := hr.lt_of_covers hn
          exact (hboth.mp (Or.inr hn)).resolve_left fun hin => by omega
        · intro hn
          have := hs.lt_of_covers hn
          exact (hboth.mpr (Or.inr hn)).resolve_left fun hin => by omega
      rw [hrest]

end Separated

/-! ### Joining neighbours -/

/-- Joining keeps what ranges cover that are sorted by their first code point. -/
theorem covers_joinTo (hr : r.1 ≤ r.2) (hrs : ∀ s ∈ rs, s.1 ≤ s.2)
    (hsorted : (r :: rs).Pairwise fun r s => r.1 ≤ s.1) :
    Covers (joinTo r rs) n ↔ Covers (r :: rs) n := by
  induction rs generalizing r with
  | nil => rfl
  | cons s rs ih =>
    obtain ⟨hs, hrs⟩ := List.forall_mem_cons.mp hrs
    obtain ⟨hfirst, hsorted⟩ := List.pairwise_cons.mp hsorted
    obtain ⟨hrest, hlater⟩ := List.pairwise_cons.mp hsorted
    have hle := hfirst s List.mem_cons_self
    rw [joinTo]
    by_cases hmeet : s.1 ≤ r.2 + 1
    · have hjoined : ((r.1, max r.2 s.2) :: rs).Pairwise fun r s => r.1 ≤ s.1 :=
        List.pairwise_cons.mpr ⟨fun t ht => hfirst t (List.mem_cons_of_mem _ ht), hlater⟩
      rw [if_pos hmeet, ih (by simp only; omega) hrs hjoined, covers_cons, covers_cons, covers_cons,
        ← or_assoc]
      refine or_congr_left ?_
      simp only
      omega
    · rw [if_neg hmeet, covers_cons, ih hs hrs hsorted, ← covers_cons]

theorem separated_joinTo (hr : r.1 ≤ r.2) (hrs : ∀ s ∈ rs, s.1 ≤ s.2)
    (hsorted : (r :: rs).Pairwise fun r s => r.1 ≤ s.1) :
    Separated (joinTo r rs) ∧ ∀ s ∈ joinTo r rs, r.1 ≤ s.1 := by
  induction rs generalizing r with
  | nil => simp [joinTo, Separated, hr]
  | cons s rs ih =>
    obtain ⟨hs, hrs⟩ := List.forall_mem_cons.mp hrs
    obtain ⟨hfirst, hsorted⟩ := List.pairwise_cons.mp hsorted
    obtain ⟨hrest, hlater⟩ := List.pairwise_cons.mp hsorted
    have hle := hfirst s List.mem_cons_self
    rw [joinTo]
    by_cases hmeet : s.1 ≤ r.2 + 1
    · rw [if_pos hmeet]
      exact ih (r := (r.1, max r.2 s.2)) (by simp only; omega) hrs
        (List.pairwise_cons.mpr ⟨fun t ht => hfirst t (List.mem_cons_of_mem _ ht), hlater⟩)
    · obtain ⟨hseparated, hbehind⟩ := ih hs hrs hsorted
      rw [if_neg hmeet]
      refine ⟨⟨List.forall_mem_cons.mpr ⟨hr, hseparated.1⟩,
        List.pairwise_cons.mpr ⟨fun t ht => ?_, hseparated.2⟩⟩,
        List.forall_mem_cons.mpr ⟨Nat.le_refl _, fun t ht => ?_⟩⟩
      · have := hbehind t ht
        omega
      · have := hbehind t ht
        omega

/-! ### Sets of ranges -/

@[simp] theorem mem_place {r s : Nat × Nat} : s ∈ place r rs ↔ s = r ∨ s ∈ rs := by
  fun_induction place r rs with
  | case1 | case2 => simp
  | case3 t rest hlater ih => simp [ih, or_left_comm]

theorem pairwise_place (r : Nat × Nat) (h : rs.Pairwise fun r s => r.1 ≤ s.1) :
    (place r rs).Pairwise fun r s => r.1 ≤ s.1 := by
  fun_induction place r rs with
  | case1 => exact List.pairwise_singleton _ r
  | case2 s rest hfirst =>
    obtain ⟨hs, -⟩ := List.pairwise_cons.mp h
    refine List.pairwise_cons.mpr ⟨List.forall_mem_cons.mpr ⟨hfirst, fun t ht => ?_⟩, h⟩
    exact Nat.le_trans hfirst (hs t ht)
  | case3 s rest hlater ih =>
    obtain ⟨hs, hrest⟩ := List.pairwise_cons.mp h
    refine List.pairwise_cons.mpr ⟨fun t ht => ?_, ih hrest⟩
    rcases mem_place.mp ht with rfl | ht
    · omega
    · exact hs t ht

@[simp] theorem mem_sort {s : Nat × Nat} : s ∈ sort rs ↔ s ∈ rs := by
  induction rs with
  | nil => exact Iff.rfl
  | cons r rest ih => rw [sort, List.foldr_cons, mem_place, ← sort, ih, List.mem_cons]

theorem pairwise_sort (rs : Ranges) : (sort rs).Pairwise fun r s => r.1 ≤ s.1 := by
  induction rs with
  | nil => exact List.Pairwise.nil
  | cons r rest ih => exact pairwise_place r ih

theorem covers_sort_filter : Covers (sort (rs.filter fun r => r.1 ≤ r.2)) n ↔ Covers rs n := by
  simp only [Covers, mem_sort, List.mem_filter, decide_eq_true_eq]
  constructor
  · rintro ⟨r, ⟨hr, -⟩, hn⟩
    exact ⟨r, hr, hn⟩
  · rintro ⟨r, hr, hn⟩
    exact ⟨r, ⟨hr, Nat.le_trans hn.1 hn.2⟩, hn⟩

/-- The set of some ranges is separated and covers what they cover. -/
theorem separated_ofRanges (rs : Ranges) : Separated (ofRanges rs) ∧
    ∀ n, Covers (ofRanges rs) n ↔ Covers rs n := by
  have hsorted := pairwise_sort (rs.filter fun r => r.1 ≤ r.2)
  have hcovers := fun n => @covers_sort_filter rs n
  have hfull : ∀ r ∈ sort (rs.filter fun r => r.1 ≤ r.2), r.1 ≤ r.2 := by
    intro r hr
    rw [mem_sort, List.mem_filter] at hr
    exact of_decide_eq_true hr.2
  unfold ofRanges
  generalize sort (rs.filter fun r => r.1 ≤ r.2) = sorted at *
  cases sorted with
  | nil => exact ⟨⟨by simp [join], List.Pairwise.nil⟩, hcovers⟩
  | cons r sorted =>
    obtain ⟨hr, hfull⟩ := List.forall_mem_cons.mp hfull
    refine ⟨(separated_joinTo hr hfull hsorted).1, fun n => ?_⟩
    rw [join, covers_joinTo hr hfull hsorted, hcovers]

@[simp] theorem covers_ofRanges : Covers (ofRanges rs) n ↔ Covers rs n :=
  (separated_ofRanges rs).2 n

@[simp] theorem has_ofRanges : Ranges.has (ofRanges rs) n = true ↔ Covers rs n := by
  rw [(separated_ofRanges rs).1.has_iff, covers_ofRanges]

/-- **Ranges that cover the same are the same set.** -/
theorem ofRanges_eq_iff : ofRanges rs = ofRanges ss ↔ ∀ n, Covers rs n ↔ Covers ss n := by
  constructor
  · intro h n
    rw [← covers_ofRanges, h, covers_ofRanges]
  · intro h
    refine (separated_ofRanges rs).1.ext (separated_ofRanges ss).1 fun n => ?_
    rw [covers_ofRanges, covers_ofRanges, h]

end Postroom.Pattern.CharSet
