import Mathlib.Data.List.Pairwise
import Postroom.Proofs.Text.Lower
import Postroom.Text.CaseFold

/-! # Letters that differ in case only are a class

To differ in case at most is an equivalence (`alike_trans`), which is a property of the table: no
code point is at two places of it.  The places are compared as numbers whose bits stand for the
code points, as for the lower case, and no two of them have a bit in common (`spots_apart`).

A letter and its lower-case letter differ in case only, again by the table: what is lowered by some
distance is all among the places from which that distance leads to a letter alike
(`letters_covered`).
-/

namespace Postroom.Text

namespace Lower

/-- The bits of a row are `step` apart. -/
theorem exists_of_testBit_row {step count j : Nat} (h : (row step count).testBit j = true) :
    ∃ k < count, j = step * k := by
  induction count generalizing j with
  | zero =>
    rw [row, Nat.zero_testBit] at h
    cases h
  | succ count ih =>
    rw [row, Nat.testBit_or, Bool.or_eq_true, Nat.testBit_shiftLeft, Bool.and_eq_true,
      decide_eq_true_iff] at h
    rcases h with ⟨hle, hrest⟩ | hone
    · obtain ⟨k, hk, heq⟩ := ih hrest
      refine ⟨k + 1, Nat.succ_lt_succ hk, ?_⟩
      rw [Nat.mul_succ]
      omega
    · have hzero : j = 0 := by
        rw [Nat.testBit_one_eq_true_iff_self_eq_zero] at hone
        exact hone
      exact ⟨0, Nat.succ_pos count, by rw [hzero, Nat.mul_zero]⟩

/-- A bit among the places of a run, or of what they lead to, comes from one of them. -/
theorem within_of_testBit {r : Nat × Nat × Nat × Nat} {start n : Nat} (hr : r.1 ≤ r.2.1)
    (h : (places start r).testBit n = true) : ∃ k, Within k r ∧ n = start + (k - r.1) := by
  obtain ⟨first, last, step, image⟩ := r
  rw [places, Nat.testBit_shiftLeft, Bool.and_eq_true, decide_eq_true_iff] at h
  obtain ⟨hle, hbit⟩ := h
  obtain ⟨k, hk, heq⟩ := exists_of_testBit_row hbit
  have hbound : step * k ≤ last - first :=
    Nat.le_trans (Nat.mul_le_mul_left step (Nat.lt_succ_iff.mp hk)) (Nat.mul_div_le _ _)
  have hr : first ≤ last := hr
  refine ⟨first + step * k, ⟨Nat.le_add_right _ _, by omega, ?_⟩, ?_⟩
  · rw [Nat.add_sub_cancel_left, Nat.mul_mod_right]
  · simp only [Nat.add_sub_cancel_left]
    omega

end Lower

namespace CaseFold

open Lower

/-- A code point is at a place of a run of pairs, and another is what it leads to. -/
def Paired (n m : Nat) : Prop := ∃ r ∈ pairs, Within n r ∧ m = r.2.2.2 + (n - r.1)

/-- Two code points are in one of the larger classes. -/
def Classmates (n m : Nat) : Prop := ∃ c ∈ classes, n ∈ c ∧ m ∈ c

/-- Two code points differ in case at most. -/
def Alike (n m : Nat) : Prop := m = n ∨ Paired n m ∨ Paired m n ∨ Classmates n m

theorem pairs_ordered : ∀ r ∈ pairs, r.1 ≤ r.2.1 := by decide +kernel

/-- The table gives the other members of a class. -/
theorem mem_alikes_iff {n m : Nat} :
    m ∈ alikes n ↔ Paired n m ∨ Paired m n ∨ (Classmates n m ∧ m ≠ n) := by
  simp only [alikes, List.mem_append, List.mem_flatMap]
  constructor
  · rintro (⟨⟨first, last, step, image⟩, hr, hforth | hback⟩ | ⟨c, hc, hclass⟩)
    · obtain ⟨hwithin, hm⟩ := List.mem_ite_nil_right.mp hforth
      exact Or.inl ⟨_, hr, hwithin, List.mem_singleton.mp hm⟩
    · obtain ⟨⟨hle, hlast, hmod⟩, hm⟩ := List.mem_ite_nil_right.mp hback
      obtain rfl := List.mem_singleton.mp hm
      dsimp only at hle hlast hmod ⊢
      have hordered : first ≤ last := pairs_ordered _ hr
      refine Or.inr (Or.inl ⟨_, hr, ⟨Nat.le_add_right _ _, by omega, ?_⟩, ?_⟩)
      · rwa [Nat.add_sub_cancel_left]
      · dsimp only
        omega
    · obtain ⟨hn, hm⟩ := List.mem_ite_nil_right.mp hclass
      obtain ⟨hm, hne⟩ := List.mem_filter.mp hm
      exact Or.inr (Or.inr ⟨⟨c, hc, List.contains_iff_mem.mp hn, hm⟩, of_decide_eq_true hne⟩)
  · rintro (⟨r, hr, hwithin, hm⟩ | ⟨r, hr, hwithin, hn⟩ | ⟨⟨c, hc, hn, hm⟩, hne⟩)
    · refine Or.inl ⟨r, hr, Or.inl (List.mem_ite_nil_right.mpr ⟨hwithin, ?_⟩)⟩
      exact List.mem_singleton.mpr hm
    · obtain ⟨first, last, step, image⟩ := r
      obtain ⟨hfirst, hlast, hmod⟩ := hwithin
      dsimp only at hn
      subst hn
      refine Or.inl ⟨_, hr, Or.inr (List.mem_ite_nil_right.mpr ?_)⟩
      dsimp only
      rw [Nat.add_sub_cancel_left, List.mem_singleton]
      exact ⟨⟨Nat.le_add_right _ _, by omega, hmod⟩, by omega⟩
    · refine Or.inr ⟨c, hc, List.mem_ite_nil_right.mpr ⟨List.contains_iff_mem.mpr hn, ?_⟩⟩
      exact List.mem_filter.mpr ⟨hm, decide_eq_true hne⟩

theorem alike_iff {n m : Nat} : Alike n m ↔ m = n ∨ m ∈ alikes n := by
  rw [mem_alikes_iff, Alike]
  by_cases heq : m = n
  · simp [heq]
  · simp [heq]

/-! ### Places of the table -/

/-- A place in the table where a code point may stand: in front of a pair, behind one, or in a
larger class. -/
inductive Spot where
  /-- In front. -/
  | front (r : Nat × Nat × Nat × Nat)
  /-- Behind. -/
  | back (r : Nat × Nat × Nat × Nat)
  /-- In a class. -/
  | among (c : List Nat)
deriving DecidableEq

/-- All bits of some numbers. -/
def allBits (l : List Nat) : Nat := l.foldr (· ||| ·) 0

theorem testBit_allBits {l : List Nat} {n : Nat} :
    (allBits l).testBit n = true ↔ ∃ b ∈ l, b.testBit n = true := by
  induction l with
  | nil => simp [allBits]
  | cons b rest ih =>
    have hcons : allBits (b :: rest) = b ||| allBits rest := rfl
    rw [hcons, Nat.testBit_or, Bool.or_eq_true, ih]
    simp

/-- Code points as bits. -/
def bitsOf (c : List Nat) : Nat := allBits (c.map (1 <<< ·))

theorem testBit_bitsOf {c : List Nat} {n : Nat} : (bitsOf c).testBit n = true ↔ n ∈ c := by
  simp only [bitsOf, testBit_allBits, List.mem_map, exists_exists_and_eq_and, Nat.one_shiftLeft,
    Nat.testBit_two_pow, decide_eq_true_eq, exists_eq_right]

namespace Spot

/-- The code points that stand at a place. -/
def Holds (n : Nat) : Spot → Prop
  | front r => Within n r
  | back r => ∃ k, Within k r ∧ n = r.2.2.2 + (k - r.1)
  | among c => n ∈ c

/-- The code points of a place as bits. -/
def bits : Spot → Nat
  | front r => places r.1 r
  | back r => places r.2.2.2 r
  | among c => bitsOf c

theorem Holds.testBit {n : Nat} {spot : Spot} (h : Holds n spot) : spot.bits.testBit n = true := by
  cases spot with
  | front r =>
    have hbit := @testBit_places n r.1 r.2.1 r.2.2.1 r.2.2.2 h r.1
    rwa [Nat.add_sub_cancel' h.1] at hbit
  | back r =>
    obtain ⟨k, hk, rfl⟩ := h
    exact testBit_places hk r.2.2.2
  | among c => exact testBit_bitsOf.mpr h

end Spot

/-- The places of the table. -/
def spots : List Spot := pairs.map .front ++ pairs.map .back ++ classes.map .among

/-- No number has a bit in common with those before it. -/
def apart (taken : Nat) : List Nat → Bool
  | [] => true
  | b :: rest => taken &&& b == 0 && apart (taken ||| b) rest

/-- Numbers that are apart have no bit in common with each other, nor with what is taken. -/
theorem clear_of_apart {taken : Nat} {l : List Nat} (h : apart taken l = true) :
    (∀ b ∈ l, taken &&& b = 0) ∧ l.Pairwise fun a b => a &&& b = 0 := by
  induction l generalizing taken with
  | nil => exact ⟨by simp, List.Pairwise.nil⟩
  | cons b rest ih =>
    rw [apart, Bool.and_eq_true, beq_iff_eq] at h
    obtain ⟨hrest, hpairwise⟩ := ih h.2
    have hboth : ∀ a ∈ rest, taken &&& a = 0 ∧ b &&& a = 0 := by
      intro a ha
      have hclear := hrest a ha
      rwa [Nat.and_or_distrib_right, Nat.or_eq_zero_iff] at hclear
    exact ⟨List.forall_mem_cons.mpr ⟨h.1, fun a ha => (hboth a ha).1⟩,
      List.pairwise_cons.mpr ⟨fun a ha => (hboth a ha).2, hpairwise⟩⟩

theorem spots_apart : apart 0 (spots.map Spot.bits) = true := by decide +kernel

/-- A code point is at one place of the table at most. -/
theorem eq_of_holds {n : Nat} {s t : Spot} (hs : s ∈ spots) (ht : t ∈ spots) (hns : s.Holds n)
    (hnt : t.Holds n) : s = t := by
  have hpairwise := List.pairwise_map.mp (clear_of_apart spots_apart).2
  have : Std.Symm fun s t : Spot => s.bits &&& t.bits = 0 := ⟨fun s t h => by
    rwa [Nat.and_comm] at h⟩
  by_contra hne
  have hclear := congrArg (Nat.testBit · n) (hpairwise.forall hs ht hne)
  simp [Nat.testBit_and, hns.testBit, hnt.testBit] at hclear

theorem front_mem_spots {r : Nat × Nat × Nat × Nat} (h : r ∈ pairs) : Spot.front r ∈ spots := by
  simp [spots, h]

theorem back_mem_spots {r : Nat × Nat × Nat × Nat} (h : r ∈ pairs) : Spot.back r ∈ spots := by
  simp [spots, h]

theorem among_mem_spots {c : List Nat} (h : c ∈ classes) : Spot.among c ∈ spots := by
  simp [spots, h]

/-! ### Classes -/

/-- What is in front of a pair is behind none. -/
theorem Paired.not_back {n m k : Nat} (h : Paired n m) : ¬ Paired k n := by
  obtain ⟨r, hr, hn, -⟩ := h
  rintro ⟨s, hs, hk, rfl⟩
  exact nomatch eq_of_holds (front_mem_spots hr) (back_mem_spots hs) hn ⟨k, hk, rfl⟩

/-- What is in a pair is in no larger class. -/
theorem Paired.not_classmates {n m k : Nat} (h : Paired n m) :
    ¬ Classmates n k ∧ ¬ Classmates m k := by
  obtain ⟨r, hr, hn, rfl⟩ := h
  constructor
  · rintro ⟨c, hc, hmem, -⟩
    exact nomatch eq_of_holds (front_mem_spots hr) (among_mem_spots hc) hn hmem
  · rintro ⟨c, hc, hmem, -⟩
    exact nomatch eq_of_holds (back_mem_spots hr) (among_mem_spots hc) ⟨n, hn, rfl⟩ hmem

/-- A pair has one code point in front. -/
theorem Paired.front_unique {n m k : Nat} (hn : Paired n m) (hk : Paired k m) : n = k := by
  obtain ⟨r, hr, hn, rfl⟩ := hn
  obtain ⟨s, hs, hk, heq⟩ := hk
  obtain rfl := Spot.back.inj
    (eq_of_holds (back_mem_spots hr) (back_mem_spots hs) ⟨n, hn, rfl⟩ ⟨k, hk, heq⟩)
  have hfirst : r.1 ≤ n := hn.1
  have hfirst' : r.1 ≤ k := hk.1
  omega

/-- A pair has one code point behind. -/
theorem Paired.back_unique {n m k : Nat} (hm : Paired n m) (hk : Paired n k) : m = k := by
  obtain ⟨r, hr, hn, rfl⟩ := hm
  obtain ⟨s, hs, hn', rfl⟩ := hk
  obtain rfl := Spot.front.inj (eq_of_holds (front_mem_spots hr) (front_mem_spots hs) hn hn')
  rfl

theorem Classmates.symm {n m : Nat} (h : Classmates n m) : Classmates m n := by
  obtain ⟨c, hc, hn, hm⟩ := h
  exact ⟨c, hc, hm, hn⟩

theorem Classmates.trans {n m k : Nat} (hn : Classmates n m) (hm : Classmates m k) :
    Classmates n k := by
  obtain ⟨c, hc, hn, hmid⟩ := hn
  obtain ⟨d, hd, hmid', hk⟩ := hm
  obtain rfl := Spot.among.inj (eq_of_holds (among_mem_spots hc) (among_mem_spots hd) hmid hmid')
  exact ⟨c, hc, hn, hk⟩

@[simp] theorem alike_refl (n : Nat) : Alike n n := Or.inl rfl

theorem alike_symm {n m : Nat} (h : Alike n m) : Alike m n := by
  rcases h with rfl | h | h | h
  · exact alike_refl _
  · exact Or.inr (Or.inr (Or.inl h))
  · exact Or.inr (Or.inl h)
  · exact Or.inr (Or.inr (Or.inr h.symm))

/-- **Letters that differ in case only from the same letter do so from each other.** -/
theorem alike_trans {n m k : Nat} (hn : Alike n m) (hm : Alike m k) : Alike n k := by
  rcases hn with rfl | hn | hn | hn
  · exact hm
  · rcases hm with rfl | hm | hm | hm
    · exact Or.inr (Or.inl hn)
    · exact absurd hn hm.not_back
    · exact Or.inl (hn.front_unique hm).symm
    · exact absurd hm hn.not_classmates.2
  · rcases hm with rfl | hm | hm | hm
    · exact Or.inr (Or.inr (Or.inl hn))
    · exact Or.inl (hn.back_unique hm).symm
    · exact absurd hm hn.not_back
    · exact absurd hm hn.not_classmates.1
  · rcases hm with rfl | hm | hm | hm
    · exact Or.inr (Or.inr (Or.inr hn))
    · exact absurd hn.symm hm.not_classmates.1
    · exact absurd hn.symm hm.not_classmates.2
    · exact Or.inr (Or.inr (Or.inr (hn.trans hm)))

/-! ### Lower-case letters -/

/-- The runs of letters with a lower-case letter: those of ASCII and those of the table. -/
def letters : List (Nat × Nat × Nat × Nat) := (0x41, 0x5a, 1, 0x61) :: runs

/-- A run the other way round. -/
def turned (r : Nat × Nat × Nat × Nat) : Nat × Nat × Nat × Nat :=
  (r.2.2.2, r.2.2.2 + (r.2.1 - r.1), r.2.2.1, r.1)

/-- Whether two runs are the same. -/
def sameRun (r s : Nat × Nat × Nat × Nat) : Bool :=
  Nat.beq r.1 s.1 && (Nat.beq r.2.1 s.2.1 && (Nat.beq r.2.2.1 s.2.2.1 && Nat.beq r.2.2.2 s.2.2.2))

/-- The code points, as bits, from which the distance of a run leads along a pair. -/
def alongPairs (r : Nat × Nat × Nat × Nat) : Nat :=
  allBits (pairs.map fun s =>
    bif Nat.beq (r.2.2.2 + s.1) (s.2.2.2 + r.1) then places s.1 s else 0) |||
  allBits (pairs.map fun s =>
    bif Nat.beq (r.2.2.2 + s.2.2.2) (s.1 + r.1) then places s.2.2.2 s else 0)

/-- The code points, as bits, from which the distance of a run leads to one in the same class. -/
def alongClasses (r : Nat × Nat × Nat × Nat) : Nat :=
  allBits (classes.map fun c =>
    bitsOf (c.filter fun n => c.any fun m => Nat.beq (m + r.1) (r.2.2.2 + n)))

/-- Whether a run is one of pairs, in either direction, or leads from each of its places along a
pair or within a class. -/
def covered (r : Nat × Nat × Nat × Nat) : Bool :=
  pairs.any (sameRun r) || pairs.any (sameRun (turned r)) ||
    Nat.beq (places r.1 r &&& (alongPairs r ||| alongClasses r)) (places r.1 r)

theorem letters_covered : letters.all covered = true := by decide +kernel

theorem eq_of_sameRun {r s : Nat × Nat × Nat × Nat} (h : sameRun r s = true) : r = s := by
  simp only [sameRun, Bool.and_eq_true, Nat.beq_eq] at h
  obtain ⟨h₁, h₂, h₃, h₄⟩ := h
  exact Prod.ext h₁ (Prod.ext h₂ (Prod.ext h₃ h₄))

section

variable {r : Nat × Nat × Nat × Nat} {n : Nat}

/-- The distance of a run leads along a pair to a code point alike. -/
theorem alike_of_alongPairs (hr : r.1 ≤ n) (h : (alongPairs r).testBit n = true) :
    Alike n (r.2.2.2 + (n - r.1)) := by
  rw [alongPairs, Nat.testBit_or, Bool.or_eq_true, testBit_allBits, testBit_allBits] at h
  rcases h with ⟨b, hb, hbit⟩ | ⟨b, hb, hbit⟩
  · obtain ⟨s, hs, rfl⟩ := List.mem_map.mp hb
    cases hdistance : Nat.beq (r.2.2.2 + s.1) (s.2.2.2 + r.1) with
    | false => simp [hdistance] at hbit
    | true =>
      rw [hdistance, cond_true] at hbit
      have hdistance := Nat.eq_of_beq_eq_true hdistance
      obtain ⟨k, hk, hn⟩ := within_of_testBit (pairs_ordered s hs) hbit
      have hfirst : s.1 ≤ k := hk.1
      obtain rfl : n = k := by omega
      exact Or.inr (Or.inl ⟨s, hs, hk, by omega⟩)
  · obtain ⟨s, hs, rfl⟩ := List.mem_map.mp hb
    cases hdistance : Nat.beq (r.2.2.2 + s.2.2.2) (s.1 + r.1) with
    | false => simp [hdistance] at hbit
    | true =>
      rw [hdistance, cond_true] at hbit
      have hdistance := Nat.eq_of_beq_eq_true hdistance
      obtain ⟨k, hk, hn⟩ := within_of_testBit (pairs_ordered s hs) hbit
      have hfirst : s.1 ≤ k := hk.1
      obtain rfl : k = r.2.2.2 + (n - r.1) := by omega
      exact Or.inr (Or.inr (Or.inl ⟨s, hs, hk, hn⟩))

/-- The distance of a run leads within a class to a code point alike. -/
theorem alike_of_alongClasses (hr : r.1 ≤ n) (h : (alongClasses r).testBit n = true) :
    Alike n (r.2.2.2 + (n - r.1)) := by
  rw [alongClasses, testBit_allBits] at h
  obtain ⟨b, hb, hbit⟩ := h
  obtain ⟨c, hc, rfl⟩ := List.mem_map.mp hb
  obtain ⟨hn, hany⟩ := List.mem_filter.mp (testBit_bitsOf.mp hbit)
  obtain ⟨m, hm, hdistance⟩ := List.any_eq_true.mp hany
  have hdistance := Nat.eq_of_beq_eq_true hdistance
  obtain rfl : m = r.2.2.2 + (n - r.1) := by omega
  exact Or.inr (Or.inr (Or.inr ⟨c, hc, hn, hm⟩))

/-- What a run of letters leads to is alike. -/
theorem alike_of_within (hr : r ∈ letters) (hn : Within n r) : Alike n (r.2.2.2 + (n - r.1)) := by
  have hcovered := List.all_eq_true.mp letters_covered r hr
  simp only [covered, Bool.or_eq_true, or_assoc] at hcovered
  have hfirst : r.1 ≤ n := hn.1
  rcases hcovered with hsame | hturned | hbits
  · obtain ⟨s, hs, hsame⟩ := List.any_eq_true.mp hsame
    obtain rfl := eq_of_sameRun hsame
    exact Or.inr (Or.inl ⟨r, hs, hn, rfl⟩)
  · obtain ⟨s, hs, hsame⟩ := List.any_eq_true.mp hturned
    obtain rfl := eq_of_sameRun hsame
    have hlast : n ≤ r.2.1 := hn.2.1
    have hmod : (n - r.1) % r.2.2.1 = 0 := hn.2.2
    have hwithin : Within (r.2.2.2 + (n - r.1)) (turned r) := by
      refine ⟨Nat.le_add_right _ _, by omega, ?_⟩
      rwa [Nat.add_sub_cancel_left]
    refine Or.inr (Or.inr (Or.inl ⟨turned r, hs, hwithin, ?_⟩))
    dsimp only [turned]
    omega
  · have hbit := @testBit_places n r.1 r.2.1 r.2.2.1 r.2.2.2 hn r.1
    rw [Nat.add_sub_cancel' hfirst, ← Nat.eq_of_beq_eq_true hbits, Nat.testBit_and,
      Bool.and_eq_true, Nat.testBit_or, Bool.or_eq_true] at hbit
    rcases hbit.2 with hpairs | hclasses
    · exact alike_of_alongPairs hfirst hpairs
    · exact alike_of_alongClasses hfirst hclasses

end

/-- **A letter is alike its lower-case letter.**  The dotted capital I alone has two of them. -/
theorem alike_lowerChar {c : Char} (hc : c ≠ '\u0130') :
    ∃ d, lowerChar c = [d] ∧ Alike c.toNat d.toNat := by
  unfold lowerChar
  split
  · next hcapital =>
    have hlow : 0x41 ≤ c.toNat := hcapital.1
    have hhigh : c.toNat ≤ 0x5a := hcapital.2
    have hvalid : (c.toNat + 32).isValidChar := Or.inl (by omega)
    have halike := alike_of_within (r := (0x41, 0x5a, 1, 0x61)) List.mem_cons_self
      ⟨hlow, hhigh, Nat.mod_one _⟩
    refine ⟨_, rfl, ?_⟩
    rw [toNat_ofNat hvalid]
    rwa [show 0x61 + (c.toNat - 0x41) = c.toNat + 32 by omega] at halike
  · split
    · exact ⟨c, rfl, alike_refl _⟩
    · split
      · next n himage =>
        obtain ⟨r, hr, hwithin, hn⟩ := within_of_image? himage
        refine ⟨_, rfl, ?_⟩
        rw [toNat_ofNat (image_of_image? himage).2.2, hn]
        exact alike_of_within (List.mem_cons_of_mem _ hr) hwithin
      · exact ⟨c, rfl, alike_refl _⟩

/-- The three sigmas are alike. -/
theorem alike_sigma : Alike ('Σ').toNat ('σ').toNat ∧ Alike ('Σ').toNat ('ς').toNat :=
  ⟨Or.inr (Or.inr (Or.inr ⟨[0x3a3, 0x3c2, 0x3c3], by decide +kernel, by decide, by decide⟩)),
    Or.inr (Or.inr (Or.inr ⟨[0x3a3, 0x3c2, 0x3c3], by decide +kernel, by decide, by decide⟩))⟩

/-- A text in lower case begins with a letter alike, unless it begins with a dotted capital I. -/
theorem exists_lowerFrom_cons {c : Char} (hc : c ≠ '\u0130') (before : Bool) (rest : List Char) :
    ∃ d after, lowerFrom before (c :: rest) = d :: lowerFrom after rest ∧
      Alike c.toNat d.toNat := by
  by_cases hsigma : c = 'Σ'
  · subst hsigma
    rw [lowerFrom, if_pos rfl]
    refine ⟨_, _, rfl, ?_⟩
    split
    · exact alike_sigma.2
    · exact alike_sigma.1
  · obtain ⟨d, hd, halike⟩ := alike_lowerChar hc
    rw [lowerFrom, if_neg hsigma, hd]
    exact ⟨d, _, rfl, halike⟩

end CaseFold

end Postroom.Text
