import Postroom.Text.Lower
import Postroom.Text.Ranges

/-! # Lower case of lower case

A text in lower case is its own lower-case form (`lower_lower`), which is a property of
the table: what a run of it leads to is at no place of a run.  Code point by code point
there are over a thousand of either, so they are compared as two numbers whose bits stand
for the code points (`gather`).  They have no bit in common (`images_clear`).

The capital sigma needs no look at its neighbours here.  Both of its images are fixed.
-/

namespace Postroom.Text

namespace Lower

/-- A code point is at one of the places of a run. -/
def Within (n : Nat) : Nat × Nat × Nat × Nat → Prop
  | (first, last, step, _) => first ≤ n ∧ n ≤ last ∧ (n - first) % step = 0

/-! ### Code points as bits -/

/-- A number of bits, one in every `step`, from the lowest on. -/
def row (step : Nat) : Nat → Nat
  | 0 => 0
  | count + 1 => row step count <<< step ||| 1

theorem testBit_row (step : Nat) {count j : Nat} (hj : j < count) :
    (row step count).testBit (step * j) = true := by
  induction count generalizing j with
  | zero => exact absurd hj (Nat.not_lt_zero j)
  | succ count ih =>
    rw [row, Nat.testBit_or, Bool.or_eq_true]
    cases j with
    | zero =>
      rw [Nat.mul_zero]
      exact Or.inr rfl
    | succ j =>
      have hmul : step * (j + 1) = step * j + step := Nat.mul_succ step j
      have hrest := ih (Nat.lt_of_succ_lt_succ hj)
      refine Or.inl ?_
      rw [Nat.testBit_shiftLeft, hmul, Nat.add_sub_cancel, hrest]
      simp

/-- The places of a run, or what they lead to, from where it starts. -/
def places (start : Nat) : Nat × Nat × Nat × Nat → Nat
  | (first, last, step, _) => row step ((last - first) / step + 1) <<< start

theorem testBit_places {n first last step image : Nat}
    (hn : Within n (first, last, step, image)) (start : Nat) :
    (places start (first, last, step, image)).testBit (start + (n - first)) = true := by
  obtain ⟨hlow, hhigh, hmod⟩ := hn
  have hle : (n - first) / step ≤ (last - first) / step :=
    Nat.div_le_div_right (Nat.sub_le_sub_right hhigh first)
  have hbit := testBit_row step (Nat.lt_succ_of_le hle)
  rw [Nat.mul_div_cancel' (Nat.dvd_of_mod_eq_zero hmod)] at hbit
  rw [places, Nat.testBit_shiftLeft, Nat.add_sub_cancel_left, hbit]
  simp

/-- The places of all runs of a list together, or what they lead to. -/
def gather (start : Nat × Nat × Nat × Nat → Nat) (l : List (Nat × Nat × Nat × Nat)) : Nat :=
  l.foldr (fun r bits => places (start r) r ||| bits) 0

theorem testBit_gather {start : Nat × Nat × Nat × Nat → Nat} {l : List (Nat × Nat × Nat × Nat)}
    {r : Nat × Nat × Nat × Nat} {n : Nat} (hr : r ∈ l)
    (hn : (places (start r) r).testBit n = true) : (gather start l).testBit n = true := by
  induction l with
  | nil => cases hr
  | cons head rest ih =>
    rw [gather, List.foldr_cons, Nat.testBit_or, Bool.or_eq_true]
    rcases List.mem_cons.mp hr with rfl | hr
    · exact Or.inl hn
    · exact Or.inr (ih hr)

/-- The places of a run are among those of its list. -/
theorem testBit_of_within {l : List (Nat × Nat × Nat × Nat)} {r : Nat × Nat × Nat × Nat} {n : Nat}
    (hr : r ∈ l) (hn : Within n r) : (gather (·.1) l).testBit n = true := by
  have hplace := testBit_places hn r.1
  rw [Nat.add_sub_cancel' hn.1] at hplace
  exact testBit_gather hr hplace

/-! ### The table -/

/-- Characters that no run may lead to: the capitals of ASCII and the dotted capital I. -/
def barred : List (Nat × Nat × Nat × Nat) := [(0x41, 0x5a, 1, 0), (0x130, 0x130, 1, 0)]

/-- What the runs lead to has no bit in common with their places. -/
theorem images_clear : gather (·.2.2.2) runs &&& gather (·.1) (barred ++ runs) = 0 := by
  decide +kernel

/-- Every run leads to characters. -/
theorem image_valid : ∀ r ∈ runs, r.2.2.2 + (r.2.1 - r.1) < 0xd800 ∨
    0xe000 ≤ r.2.2.2 ∧ r.2.2.2 + (r.2.1 - r.1) < 0x110000 := by
  decide +kernel

theorem not_within_of_image {n : Nat} {r s : Nat × Nat × Nat × Nat} (hr : r ∈ runs)
    (hn : Within n r) (hs : s ∈ barred ++ runs) : ¬ Within (r.2.2.2 + (n - r.1)) s := by
  intro hm
  have himage := testBit_places hn r.2.2.2
  have hboth := congrArg (Nat.testBit · (r.2.2.2 + (n - r.1))) images_clear
  simp only [Nat.testBit_and, Nat.zero_testBit] at hboth
  rw [testBit_gather hr himage, testBit_of_within hs hm] at hboth
  cases hboth

theorem within_of_image? {n m : Nat} (h : image? n = some m) :
    ∃ r ∈ runs, Within n r ∧ m = r.2.2.2 + (n - r.1) := by
  obtain ⟨r, hr, hm⟩ := List.exists_of_findSome?_eq_some h
  obtain ⟨hwithin, hsome⟩ := Option.ite_none_right_eq_some.mp hm
  exact ⟨r, hr, hwithin, (Option.some.inj hsome).symm⟩

theorem image?_eq_none {n : Nat} (h : ∀ r ∈ runs, ¬ Within n r) : image? n = none := by
  refine List.findSome?_eq_none_iff.mpr fun r hr => ?_
  exact if_neg (h r hr)

/-- A code point whose bit is clear has no image. -/
theorem image?_eq_none_of_clear {n : Nat} (h : (gather (·.1) runs).testBit n = false) :
    image? n = none := by
  refine image?_eq_none fun r hr hn => ?_
  rw [testBit_of_within hr hn] at h
  cases h

/-- What a run leads to is a character that has no image and is not barred. -/
theorem image_of_image? {n m : Nat} (h : image? n = some m) :
    image? m = none ∧ (∀ r ∈ barred, ¬ Within m r) ∧ m.isValidChar := by
  obtain ⟨r, hr, hwithin, rfl⟩ := within_of_image? h
  have hnot : ∀ s ∈ barred ++ runs, ¬ Within (r.2.2.2 + (n - r.1)) s :=
    fun s hs => not_within_of_image hr hwithin hs
  refine ⟨image?_eq_none fun s hs => hnot s (List.mem_append_right _ hs),
    fun s hs => hnot s (List.mem_append_left _ hs), ?_⟩
  have hle : n ≤ r.2.1 := hwithin.2.1
  unfold Nat.isValidChar
  rcases image_valid r hr with hlow | ⟨hfrom, hlast⟩
  · exact Or.inl (by omega)
  · exact Or.inr ⟨by omega, by omega⟩

end Lower

open Lower

/-! ### Characters -/

/-- A character that lower-casing leaves alone, wherever it stands. -/
def Fixed (c : Char) : Prop := c ≠ 'Σ' ∧ lowerChar c = [c]

instance (c : Char) : Decidable (Fixed c) := inferInstanceAs (Decidable (_ ∧ _))

theorem fixed_small_letter : ∀ n < 26, Fixed (Char.ofNat (0x61 + n)) := by decide +kernel

theorem image?_sigma : image? 0x3a3 = some 0x3c3 := by decide +kernel

/-- A character that is no capital of ASCII, not the dotted I and without an image is fixed. -/
theorem fixed_of_image?_eq_none {c : Char} (hcapital : ¬ ('A' ≤ c ∧ c ≤ 'Z'))
    (hdotted : c ≠ '\u0130') (h : image? c.toNat = none) : Fixed c := by
  refine ⟨?_, ?_⟩
  · rintro rfl
    rw [show ('Σ' : Char).toNat = 0x3a3 from rfl, image?_sigma] at h
    cases h
  · by_cases hascii : c.toNat < 0x80
    · rw [lowerChar, if_neg hcapital, if_pos hascii]
    · simp only [lowerChar, if_neg hcapital, if_neg hascii, if_neg hdotted, h]

theorem fixed_of_ascii {c : Char} (hcapital : ¬ ('A' ≤ c ∧ c ≤ 'Z')) (h : c.toNat < 0x80) :
    Fixed c := by
  refine ⟨?_, ?_⟩
  · rintro rfl
    exact absurd h (by decide)
  · rw [lowerChar, if_neg hcapital, if_pos h]

/-- The character that a run leads to is fixed. -/
theorem fixed_of_image? {n m : Nat} (h : image? n = some m) : Fixed (Char.ofNat m) := by
  obtain ⟨hnone, hbarred, hvalid⟩ := image_of_image? h
  simp only [barred, List.forall_mem_cons, List.not_mem_nil, false_implies, implies_true, and_true,
    Within, Nat.mod_one] at hbarred
  obtain ⟨hcapital, hdotted⟩ := hbarred
  have htoNat : (Char.ofNat m).toNat = m := toNat_ofNat hvalid
  refine fixed_of_image?_eq_none ?_ ?_ (by rw [htoNat, hnone])
  · rintro ⟨hlow, hhigh⟩
    have hlow : 0x41 ≤ (Char.ofNat m).toNat := hlow
    have hhigh : (Char.ofNat m).toNat ≤ 0x5a := hhigh
    omega
  · intro heq
    have hm : (Char.ofNat m).toNat = 0x130 := congrArg Char.toNat heq
    omega

theorem fixed_dotted : ∀ d ∈ ['i', '\u0307'], Fixed d := by
  have hdot : image? 0x307 = none := image?_eq_none_of_clear (by decide +kernel)
  refine List.forall_mem_cons.mpr ⟨by decide +kernel, List.forall_mem_singleton.mpr ?_⟩
  exact fixed_of_image?_eq_none (by decide) (by decide) hdot

theorem fixed_sigma : ∀ d ∈ ['σ', 'ς'], Fixed d := by
  have hfinal : image? 0x3c2 = none := image?_eq_none_of_clear (by decide +kernel)
  refine List.forall_mem_cons.mpr ⟨fixed_of_image? image?_sigma, List.forall_mem_singleton.mpr ?_⟩
  exact fixed_of_image?_eq_none (by decide) (by decide) hfinal

/-- What a character is lowered to is fixed. -/
theorem fixed_of_mem_lowerChar {c d : Char} (hd : d ∈ lowerChar c) : Fixed d := by
  unfold lowerChar at hd
  split at hd
  · next hcapital =>
    obtain ⟨hlow, hhigh⟩ := hcapital
    have hlow : 0x41 ≤ c.toNat := hlow
    have hhigh : c.toNat ≤ 0x5a := hhigh
    obtain rfl := List.mem_singleton.mp hd
    have hletter := fixed_small_letter (c.toNat - 0x41) (by omega)
    rwa [show 0x61 + (c.toNat - 0x41) = c.toNat + 32 by omega] at hletter
  · next hcapital =>
    split at hd
    · next hascii =>
      obtain rfl := List.mem_singleton.mp hd
      exact fixed_of_ascii hcapital hascii
    · split at hd
      · exact fixed_dotted d hd
      · next hdotted =>
        split at hd
        · next himage =>
          obtain rfl := List.mem_singleton.mp hd
          exact fixed_of_image? himage
        · next himage =>
          obtain rfl := List.mem_singleton.mp hd
          exact fixed_of_image?_eq_none hcapital hdotted himage

/-! ### Texts -/

theorem fixed_of_mem_lowerFrom {cs : List Char} {before : Bool} {d : Char}
    (hd : d ∈ lowerFrom before cs) : Fixed d := by
  induction cs generalizing before with
  | nil => cases hd
  | cons c rest ih =>
    unfold lowerFrom at hd
    rcases List.mem_append.mp hd with hhere | hrest
    · split at hhere
      · have hsigma : d ∈ ['σ', 'ς'] := by
          obtain rfl := List.mem_singleton.mp hhere
          split <;> simp
        exact fixed_sigma d hsigma
      · exact fixed_of_mem_lowerChar hhere
    · exact ih hrest

theorem lowerFrom_of_fixed {cs : List Char} (h : ∀ c ∈ cs, Fixed c) (before : Bool) :
    lowerFrom before cs = cs := by
  induction cs generalizing before with
  | nil => rfl
  | cons c rest ih =>
    obtain ⟨⟨hsigma, hself⟩, hrest⟩ := List.forall_mem_cons.mp h
    unfold lowerFrom
    rw [if_neg hsigma, hself, ih hrest]
    rfl

/-- What stands behind a character that is fixed is put in lower case by itself. -/
theorem exists_lowerFrom_of_fixed {c : Char} (hc : Fixed c) (before : Bool) (rest : List Char) :
    ∃ after, lowerFrom before (c :: rest) = c :: lowerFrom after rest := by
  rw [lowerFrom, if_neg hc.1, hc.2]
  exact ⟨_, rfl⟩

@[simp] theorem lowerChars_lowerChars (cs : List Char) :
    lowerChars (lowerChars cs) = lowerChars cs :=
  lowerFrom_of_fixed (fun _ hc => fixed_of_mem_lowerFrom hc) false

/-- **Lower case is reached in one step.** -/
@[simp] theorem lower_lower (s : String) : lower (lower s) = lower s := by
  simp only [lower, String.toList_ofList, lowerChars_lowerChars]

theorem lowerChar_ne_nil (c : Char) : lowerChar c ≠ [] := by
  unfold lowerChar
  repeat' split
  all_goals simp

@[simp] theorem lowerChars_eq_nil {cs : List Char} : lowerChars cs = [] ↔ cs = [] := by
  cases cs with
  | nil => simp
  | cons c rest =>
    simp only [lowerChars, lowerFrom, List.append_eq_nil_iff, reduceCtorEq, iff_false]
    intro h
    split at h
    · simp at h
    · exact lowerChar_ne_nil c h.1

end Postroom.Text
