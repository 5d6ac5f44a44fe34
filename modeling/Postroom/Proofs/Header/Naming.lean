import Postroom.Header.Normal
import Postroom.Proofs.Text.Blank
import Postroom.Proofs.Text.Lower

/-! # Names and blanks in headers

A field is found by its name in two ways: the headers of a kind of their own by the
letters A to Z in any case, and all others by their lower-case form.  Every character of
a name is one byte, and among those the two ways agree wherever the name that is looked
for is ASCII (`isNamed_iff`).  So a field belongs to the header of its lower-case name,
and to no other.

Trimming and lower case take away white space and nothing else, so a field is blank
before them if it is empty after them (`isEmpty_plain`), and an at sign is neither lost
nor brought in (`contains_plain`).
-/

namespace Postroom.Text

open Lower

/-! ### Lower case of single bytes -/

/-- Below 256 a character has one lower-case form: that of ASCII, or one that is not ASCII. -/
theorem lowerChar_byte : ∀ n < 256, (Char.ofNat n ≠ 'Σ') ∧
    (lowerChar (Char.ofNat n) = [(Char.ofNat n).toLower] ∨
      ((lowerChar (Char.ofNat n)).map fun d => decide (128 ≤ d.toNat)) = [true] ∧
        128 ≤ (Char.ofNat n).toLower.toNat) := by
  decide +kernel

/-- Where bytes are characters, ASCII is reached in lower case exactly if it is reached by the
letters A to Z alone. -/
theorem lowerFrom_eq_iff {cs : List Char} (hcs : ∀ c ∈ cs, ∃ n < 256, c = Char.ofNat n)
    {name : List Char} (hname : ∀ c ∈ name, c.toNat < 128) (before : Bool) :
    lowerFrom before cs = name ↔ cs.map Char.toLower = name := by
  induction cs generalizing name before with
  | nil => simp [lowerFrom]
  | cons c rest ih =>
    obtain ⟨⟨n, hn, rfl⟩, hrest⟩ := List.forall_mem_cons.mp hcs
    obtain ⟨hsigma, hlower⟩ := lowerChar_byte n hn
    simp only [lowerFrom, if_neg hsigma, List.map_cons]
    cases name with
    | nil =>
      obtain ⟨d, hd⟩ : ∃ d, lowerChar (Char.ofNat n) = [d] := by
        rcases hlower with h | ⟨h, -⟩
        · exact ⟨_, h⟩
        · obtain ⟨d, hd, -⟩ := List.map_eq_singleton_iff.mp h
          exact ⟨d, hd⟩
      simp [hd]
    | cons d name =>
      obtain ⟨hd, hname⟩ := List.forall_mem_cons.mp hname
      rcases hlower with h | ⟨h, hlower⟩
      · simp only [h, List.singleton_append, List.cons.injEq]
        exact and_congr_right fun _ => ih hrest hname _
      · -- Neither of the two is ASCII here, so neither is the character that is looked for.
        obtain ⟨e, h, he⟩ := List.map_eq_singleton_iff.mp h
        have he : 128 ≤ e.toNat := of_decide_eq_true he
        have hleft : e ≠ d := by
          rintro rfl
          omega
        have hright : (Char.ofNat n).toLower ≠ d := by
          rintro rfl
          omega
        simp [h, hleft, hright]

/-! ### What lower case leaves -/

/-- No run of the table begins at or before the at sign. -/
theorem at_lt_images : ∀ r ∈ runs, 0x40 < r.2.2.2 := by decide +kernel

theorem eq_at_of_mem_lowerChar {c : Char} (h : '@' ∈ lowerChar c) : c = '@' := by
  unfold lowerChar at h
  split at h
  · next hcapital =>
    have hlow : 0x41 ≤ c.toNat := hcapital.1
    have hhigh : c.toNat ≤ 0x5a := hcapital.2
    have hnat : (Char.ofNat (c.toNat + 32)).toNat = c.toNat + 32 :=
      toNat_ofNat (Or.inl (by omega))
    have hat := congrArg Char.toNat (List.mem_singleton.mp h)
    rw [hnat] at hat
    have hat : 0x40 = c.toNat + 32 := hat
    omega
  · split at h
    · exact (List.mem_singleton.mp h).symm
    · split at h
      · exact absurd h (by decide)
      · split at h
        · next n himage =>
          obtain ⟨-, -, hvalid⟩ := image_of_image? himage
          obtain ⟨r, hr, -, rfl⟩ := within_of_image? himage
          have hnat : (Char.ofNat (r.2.2.2 + (c.toNat - r.1))).toNat =
              r.2.2.2 + (c.toNat - r.1) := toNat_ofNat hvalid
          have hat := congrArg Char.toNat (List.mem_singleton.mp h)
          rw [hnat] at hat
          have hat : 0x40 = r.2.2.2 + (c.toNat - r.1) := hat
          have hlarge := at_lt_images r hr
          omega
        · exact (List.mem_singleton.mp h).symm

@[simp] theorem at_mem_lowerFrom {cs : List Char} {before : Bool} :
    '@' ∈ lowerFrom before cs ↔ '@' ∈ cs := by
  induction cs generalizing before with
  | nil => simp [lowerFrom]
  | cons c rest ih =>
    simp only [lowerFrom, List.mem_append, ih, List.mem_cons]
    refine or_congr_left ⟨fun h => ?_, ?_⟩
    · split at h
      · split at h <;> exact absurd h (by decide)
      · exact (eq_at_of_mem_lowerChar h).symm
    · rintro rfl
      rw [if_neg (by decide)]
      decide

end Postroom.Text

namespace Postroom.Header

open Text

/-! ### Fields -/

/-- The names of the headers that have a kind of their own are in lower case and ASCII. -/
theorem kinds_plain : ∀ name ∈ addressNames ++ envelopeNames,
    lowerAscii name = name ∧ lower name = name ∧ name.toList.all (·.toNat < 128) = true := by
  decide +kernel

/-- A header of its own kind is found by lower-case names as well as without regard to case in
ASCII. -/
theorem isNamed_iff {name : String} (hname : name ∈ addressNames ++ envelopeNames) (f : Field) :
    f.isNamed name = true ↔ lower f.name = name := by
  obtain ⟨hascii, -, hall⟩ := kinds_plain name hname
  have hsmall : ∀ c ∈ name.toList, c.toNat < 128 :=
    fun c hc => of_decide_eq_true (List.all_eq_true.mp hall c hc)
  have hbytes : ∀ c ∈ latin1 f.key, ∃ n < 256, c = Char.ofNat n := by
    intro c hc
    obtain ⟨b, -, rfl⟩ := List.mem_map.mp hc
    exact ⟨b.toNat, b.toNat_lt, rfl⟩
  have hchars := lowerFrom_eq_iff hbytes hsmall false
  rw [Field.isNamed, decide_eq_true_iff, hascii, lowerAscii, Field.name, lower]
  rw [← String.toList_inj, String.toList_map, String.toList_ofList, ← hchars,
    ← String.toList_inj, String.toList_ofList]
  rfl

theorem isEmpty_plain (s : String) : (plain s).isEmpty = isBlankText s := by
  rw [Bool.eq_iff_iff, String.isEmpty_iff, plain, lower, ← String.toList_inj,
    String.toList_ofList, trimmed, String.toList_ofList, String.toList_empty, lowerChars_eq_nil,
    trim_eq_nil_iff, isBlankText, List.all_eq_true]

theorem contains_plain (s : String) : (plain s).toList.contains '@' = true ↔ '@' ∈ s.toList := by
  rw [List.contains_iff_mem, plain, lower, String.toList_ofList, lowerChars, at_mem_lowerFrom,
    trimmed, String.toList_ofList, mem_trim (by decide)]

end Postroom.Header
