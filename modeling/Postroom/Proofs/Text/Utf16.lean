import Postroom.Text.Ranges
import Postroom.Text.Utf16

/-! # UTF-16 is read back

A character is one unit or a pair of surrogates.  In both cases the units in front of any others are
read as that character (`decode?_unitsOfChar`), because no character is a surrogate itself; so a
text is read back from its units, and these are read back from their bytes.

Nothing else is read as a text (`ofBytes?_eq_some_iff`), so the bytes that are read are those in
pairs in which every surrogate has its other half (`exists_bytes_iff`).
-/

namespace Postroom.Text.Utf16

/-- No character is a surrogate, and none lies beyond the last plane. -/
theorem toNat_of_char (c : Char) : c.toNat < 0xd800 ∨ 0xdfff < c.toNat ∧ c.toNat < 0x110000 :=
  c.valid

/-! ### Units -/

theorem isHigh_iff (u : UInt16) : isHigh u = true ↔ 0xd800 ≤ u.toNat ∧ u.toNat < 0xdc00 := by
  simp [isHigh, UInt16.le_iff_toNat_le, UInt16.lt_iff_toNat_lt]

theorem isLow_iff (u : UInt16) : isLow u = true ↔ 0xdc00 ≤ u.toNat ∧ u.toNat < 0xe000 := by
  simp [isLow, UInt16.le_iff_toNat_le, UInt16.lt_iff_toNat_lt]

/-- The units of a character are read as that character, whatever follows. -/
theorem decode?_unitsOfChar (c : Char) (rest : List UInt16) :
    decode? (unitsOfChar c ++ rest) = (decode? rest).map (c :: ·) := by
  have hc := toNat_of_char c
  unfold unitsOfChar
  split
  · next hbasic =>
    have hunit := UInt16.toNat_ofNat_of_lt' hbasic
    have hhigh : isHigh (UInt16.ofNat c.toNat) = false := by
      rw [Bool.eq_false_iff, ne_eq, isHigh_iff]
      omega
    have hlow : isLow (UInt16.ofNat c.toNat) = false := by
      rw [Bool.eq_false_iff, ne_eq, isLow_iff]
      omega
    rw [List.singleton_append, decode?.eq_def]
    simp [hhigh, hlow, hunit]
  · next hbasic =>
    -- The surrogates carry ten bits each of the distance to the first character beyond a unit.
    have hfirst : 0xd800 + (c.toNat - 0x10000) / 0x400 < 65536 := by omega
    have hsecond : 0xdc00 + (c.toNat - 0x10000) % 0x400 < 65536 := by omega
    have hhigh : isHigh (UInt16.ofNat (0xd800 + (c.toNat - 0x10000) / 0x400)) = true := by
      rw [isHigh_iff, UInt16.toNat_ofNat_of_lt' hfirst]
      omega
    have hlow : isLow (UInt16.ofNat (0xdc00 + (c.toNat - 0x10000) % 0x400)) = true := by
      rw [isLow_iff, UInt16.toNat_ofNat_of_lt' hsecond]
      omega
    have hpair : pair (UInt16.ofNat (0xd800 + (c.toNat - 0x10000) / 0x400))
        (UInt16.ofNat (0xdc00 + (c.toNat - 0x10000) % 0x400)) = c := by
      have hsum : 0x10000 + (0xd800 + (c.toNat - 0x10000) / 0x400 - 0xd800) * 0x400 +
          (0xdc00 + (c.toNat - 0x10000) % 0x400 - 0xdc00) = c.toNat := by omega
      rw [pair, UInt16.toNat_ofNat_of_lt' hfirst, UInt16.toNat_ofNat_of_lt' hsecond, hsum,
        Char.ofNat_toNat]
    simp only [List.cons_append, List.nil_append, decode?, hhigh, hlow, if_true, hpair]

/-- A text is read back from its units. -/
theorem decode?_units (cs : List Char) : decode? (units cs) = some cs := by
  induction cs with
  | nil => rfl
  | cons c cs ih =>
    simp only [units] at ih
    rw [units, List.flatMap_cons, decode?_unitsOfChar, ih, Option.map_some]

/-! ### Bytes -/

theorem unitsOfBytes?_flatMap (us : List UInt16) :
    unitsOfBytes? (us.flatMap bytesOfUnit) = some us := by
  induction us with
  | nil => rfl
  | cons u us ih =>
    have hu := u.toNat_lt
    have hhigh : (UInt8.ofNat (u.toNat / 256)).toNat = u.toNat / 256 :=
      UInt8.toNat_ofNat_of_lt' (show u.toNat / 256 < 256 by omega)
    have hlow : (UInt8.ofNat (u.toNat % 256)).toNat = u.toNat % 256 :=
      UInt8.toNat_ofNat_of_lt' (show u.toNat % 256 < 256 by omega)
    have hunit : UInt16.ofNat (u.toNat / 256 * 256 + u.toNat % 256) = u := by
      rw [Nat.div_add_mod', UInt16.ofNat_toNat]
    simp only [List.flatMap_cons, bytesOfUnit, List.cons_append, List.nil_append, unitsOfBytes?, ih,
      Option.map_some, hhigh, hlow, hunit]

/-- A text is read back from its bytes. -/
theorem ofBytes?_bytes (cs : List Char) : ofBytes? (bytes cs) = some cs := by
  rw [ofBytes?, bytes, unitsOfBytes?_flatMap, Option.bind_some, decode?_units]

theorem bytes_ne_nil {cs : List Char} (h : cs ≠ []) : bytes cs ≠ [] := by
  cases cs with
  | nil => exact absurd rfl h
  | cons c cs =>
    have hunits : unitsOfChar c ≠ [] := by
      unfold unitsOfChar
      split <;> simp
    obtain ⟨u, us, hfirst⟩ := List.exists_cons_of_ne_nil hunits
    simp [bytes, units, hfirst, bytesOfUnit]

/-! ### What is read is what was written -/

/-- A unit that is no surrogate is that of a character. -/
theorem unitsOfChar_of_unit {u : UInt16} (hhigh : isHigh u = false) (hlow : isLow u = false) :
    unitsOfChar (Char.ofNat u.toNat) = [u] := by
  have hu := u.toNat_lt
  rw [Bool.eq_false_iff, ne_eq, isHigh_iff] at hhigh
  rw [Bool.eq_false_iff, ne_eq, isLow_iff] at hlow
  have hvalid : u.toNat.isValidChar := by
    unfold Nat.isValidChar
    omega
  rw [unitsOfChar, toNat_ofNat hvalid, if_pos hu, UInt16.ofNat_toNat]

/-- A pair of surrogates is that of a character. -/
theorem unitsOfChar_pair {u v : UInt16} (hu : isHigh u = true) (hv : isLow v = true) :
    unitsOfChar (pair u v) = [u, v] := by
  rw [isHigh_iff] at hu
  rw [isLow_iff] at hv
  have hvalid : (0x10000 + (u.toNat - 0xd800) * 0x400 + (v.toNat - 0xdc00)).isValidChar := by
    unfold Nat.isValidChar
    omega
  have hfirst : 0xd800 + ((u.toNat - 0xd800) * 0x400 + (v.toNat - 0xdc00)) / 0x400 = u.toNat := by
    omega
  have hsecond : 0xdc00 + ((u.toNat - 0xd800) * 0x400 + (v.toNat - 0xdc00)) % 0x400 = v.toNat := by
    omega
  have hdistance : 0x10000 + (u.toNat - 0xd800) * 0x400 + (v.toNat - 0xdc00) - 0x10000 =
      (u.toNat - 0xd800) * 0x400 + (v.toNat - 0xdc00) := by omega
  rw [unitsOfChar, pair, toNat_ofNat hvalid, if_neg (by omega)]
  simp only [hdistance, hfirst, hsecond, UInt16.ofNat_toNat]

/-- Units in which every surrogate has its other half. -/
inductive Paired : List UInt16 → Prop where
  /-- There is none. -/
  | nil : Paired []
  /-- One that is no surrogate. -/
  | unit {u : UInt16} {us : List UInt16} (high : isHigh u = false) (low : isLow u = false)
      (rest : Paired us) : Paired (u :: us)
  /-- The two halves, one behind the other. -/
  | pair {u v : UInt16} {us : List UInt16} (high : isHigh u = true) (low : isLow v = true)
      (rest : Paired us) : Paired (u :: v :: us)

/-- Units that are read are those of the text, and are paired. -/
theorem units_of_decode? {us : List UInt16} {cs : List Char} (h : decode? us = some cs) :
    units cs = us ∧ Paired us := by
  fun_induction decode? us generalizing cs with
  | case1 =>
    obtain rfl := Option.some.inj h
    exact ⟨rfl, .nil⟩
  | case2 u hu v rest hv ih =>
    obtain ⟨cs, hrest, rfl⟩ := Option.map_eq_some_iff.mp h
    obtain ⟨hunits, hpaired⟩ := ih hrest
    have hunits : cs.flatMap unitsOfChar = rest := hunits
    refine ⟨?_, .pair hu hv hpaired⟩
    rw [units, List.flatMap_cons, unitsOfChar_pair hu hv, hunits]
    rfl
  | case3 | case4 | case5 => cases h
  | case6 u rest hu hlow ih =>
    obtain ⟨cs, hrest, rfl⟩ := Option.map_eq_some_iff.mp h
    obtain ⟨hunits, hpaired⟩ := ih hrest
    have hunits : cs.flatMap unitsOfChar = rest := hunits
    have hu : isHigh u = false := Bool.eq_false_iff.mpr hu
    have hlow : isLow u = false := Bool.eq_false_iff.mpr hlow
    refine ⟨?_, .unit hu hlow hpaired⟩
    rw [units, List.flatMap_cons, unitsOfChar_of_unit hu hlow, hunits]
    rfl

/-- Paired units are those of a text. -/
theorem Paired.exists_units {us : List UInt16} (h : Paired us) : ∃ cs, units cs = us := by
  induction h with
  | nil => exact ⟨[], rfl⟩
  | unit hhigh hlow _ ih =>
    obtain ⟨cs, rfl⟩ := ih
    exact ⟨_ :: cs, by rw [units, List.flatMap_cons, unitsOfChar_of_unit hhigh hlow]; rfl⟩
  | pair hhigh hlow _ ih =>
    obtain ⟨cs, rfl⟩ := ih
    exact ⟨_ :: cs, by rw [units, List.flatMap_cons, unitsOfChar_pair hhigh hlow]; rfl⟩

theorem flatMap_of_unitsOfBytes? {bs : List UInt8} {us : List UInt16}
    (h : unitsOfBytes? bs = some us) : us.flatMap bytesOfUnit = bs := by
  fun_induction unitsOfBytes? bs generalizing us with
  | case1 =>
    obtain rfl := Option.some.inj h
    rfl
  | case2 => cases h
  | case3 hi lo rest ih =>
    obtain ⟨us, hrest, rfl⟩ := Option.map_eq_some_iff.mp h
    have hhi := hi.toNat_lt
    have hlo := lo.toNat_lt
    have hunit : (UInt16.ofNat (hi.toNat * 256 + lo.toNat)).toNat = hi.toNat * 256 + lo.toNat :=
      UInt16.toNat_ofNat_of_lt' (show hi.toNat * 256 + lo.toNat < 65536 by omega)
    have hfirst : (hi.toNat * 256 + lo.toNat) / 256 = hi.toNat := by omega
    have hsecond : (hi.toNat * 256 + lo.toNat) % 256 = lo.toNat := by omega
    rw [List.flatMap_cons, ih hrest, bytesOfUnit, hunit, hfirst, hsecond, UInt8.ofNat_toNat,
      UInt8.ofNat_toNat]
    rfl

/-- Bytes are read as a text exactly if they are its bytes. -/
theorem ofBytes?_eq_some_iff {bs : List UInt8} {cs : List Char} :
    ofBytes? bs = some cs ↔ bytes cs = bs := by
  constructor
  · intro h
    obtain ⟨us, hus, hcs⟩ := Option.bind_eq_some_iff.mp h
    rw [bytes, (units_of_decode? hcs).1, flatMap_of_unitsOfBytes? hus]
  · rintro rfl
    exact ofBytes?_bytes cs

/-- The bytes of texts are those that are pairs, the high byte of each first, in which every
surrogate has its other half. -/
theorem exists_bytes_iff {bs : List UInt8} :
    (∃ cs, bytes cs = bs) ↔ ∃ us, us.flatMap bytesOfUnit = bs ∧ Paired us := by
  constructor
  · rintro ⟨cs, rfl⟩
    exact ⟨units cs, rfl, (units_of_decode? (decode?_units cs)).2⟩
  · rintro ⟨us, rfl, hpaired⟩
    obtain ⟨cs, rfl⟩ := hpaired.exists_units
    exact ⟨cs, rfl⟩

end Postroom.Text.Utf16
