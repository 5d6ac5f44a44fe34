import Mathlib.Algebra.Group.Nat.Defs
import Postroom.Proofs.Text.Base64

/-! # Base64 as a row of bits

A character of base64 stands for six bits and a byte for eight.  A text spells some bytes if its
bits are those of the bytes, with fewer zeros behind them than a character has (`Spells`); how many
there are follows from the number of bytes.  What is written for some bytes has these bits
(`bits_sextets`), and numbers of six bits are fixed by theirs (`eq_of_bits_eq`), so no other text
spells the same bytes.  The reader accepts exactly the texts that spell something
(`decode?_eq_some_iff`).
-/

namespace Postroom.Text.Base64

/-! ### Bits -/

/-- The last `w` bits of a number, the highest first. -/
def bits : Nat → Nat → List Bool
  | 0, _ => []
  | w + 1, n => bits w (n / 2) ++ [decide (n % 2 = 1)]

@[simp] theorem length_bits (w n : Nat) : (bits w n).length = w := by
  induction w generalizing n with
  | zero => rfl
  | succ w ih => simp [bits, ih]

/-- The last bits follow those before them. -/
theorem bits_add (v w n : Nat) : bits (v + w) n = bits v (n / 2 ^ w) ++ bits w n := by
  induction w generalizing n with
  | zero => simp [bits]
  | succ w ih =>
    have hdiv : n / 2 / 2 ^ w = n / 2 ^ (w + 1) := by rw [Nat.div_div_eq_div_mul, Nat.pow_succ']
    rw [← Nat.add_assoc, bits, ih, hdiv, List.append_assoc, bits]

/-- What is beyond the last bits does not count. -/
theorem bits_mod (w n : Nat) : bits w (n % 2 ^ w) = bits w n := by
  induction w generalizing n with
  | zero => rfl
  | succ w ih =>
    have hhalf : n % 2 ^ (w + 1) / 2 = n / 2 % 2 ^ w := by
      rw [Nat.pow_succ', Nat.mod_mul_right_div_self]
    have hlast : n % 2 ^ (w + 1) % 2 = n % 2 := by
      rw [Nat.pow_succ', Nat.mod_mul_right_mod]
    rw [bits, bits, hhalf, ih, hlast]

/-- The bits of a number and of a second one beneath it, in a row. -/
theorem bits_join (v w : Nat) {a b : Nat} (hb : b < 2 ^ w) :
    bits (v + w) (a * 2 ^ w + b) = bits v a ++ bits w b := by
  have hdiv : (a * 2 ^ w + b) / 2 ^ w = a := by
    rw [Nat.mul_comm, Nat.mul_add_div (Nat.two_pow_pos w), Nat.div_eq_of_lt hb, Nat.add_zero]
  have hmod : (a * 2 ^ w + b) % 2 ^ w = b := by
    rw [Nat.mul_comm, Nat.mul_add_mod, Nat.mod_eq_of_lt hb]
  rw [bits_add, hdiv, ← bits_mod w (a * 2 ^ w + b), hmod]

/-- A number that has no more bits is fixed by them. -/
theorem eq_of_bits_eq {w n m : Nat} (hn : n < 2 ^ w) (hm : m < 2 ^ w) (h : bits w n = bits w m) :
    n = m := by
  induction w generalizing n m with
  | zero => omega
  | succ w ih =>
    obtain ⟨hhalf, hlast⟩ := List.append_inj h (by simp)
    have hhalf : n / 2 = m / 2 := ih (by omega) (by omega) hhalf
    have hlast : n % 2 = 1 ↔ m % 2 = 1 := by simpa using hlast
    omega

/-- Numbers of six bits are fixed by their bits in a row. -/
theorem eq_of_flatMap_bits_eq {ns ms : List Nat} (hns : ∀ n ∈ ns, n < 64) (hms : ∀ m ∈ ms, m < 64)
    (h : ns.flatMap (bits 6) = ms.flatMap (bits 6)) : ns = ms := by
  induction ns generalizing ms with
  | nil =>
    cases ms with
    | nil => rfl
    | cons m ms => simp [bits] at h
  | cons n ns ih =>
    cases ms with
    | nil => simp [bits] at h
    | cons m ms =>
      obtain ⟨hn, hns⟩ := List.forall_mem_cons.mp hns
      obtain ⟨hm, hms⟩ := List.forall_mem_cons.mp hms
      obtain ⟨hfirst, hrest⟩ := List.append_inj h (by simp)
      rw [eq_of_bits_eq hn hm hfirst, ih hns hms hrest]

theorem length_flatMap_bits (w : Nat) (ns : List Nat) :
    (ns.flatMap (bits w)).length = w * ns.length := by
  induction ns with
  | nil => rfl
  | cons n ns ih =>
    rw [List.flatMap_cons, List.length_append, length_bits, ih, List.length_cons, Nat.mul_succ,
      Nat.add_comm]

/-! ### Bytes -/

/-- The bits of some bytes. -/
def bitsOfBytes (bs : List UInt8) : List Bool := (bs.map UInt8.toNat).flatMap (bits 8)

/-- Four characters have the bits of three bytes. -/
theorem bits_three {n x y z : Nat} (hy : y < 256) (hz : z < 256)
    (hn : n = x * 65536 + y * 256 + z) :
    bits 6 (n / 262144) ++ (bits 6 (n / 4096 % 64) ++ (bits 6 (n / 64 % 64) ++ bits 6 (n % 64))) =
      bits 8 x ++ (bits 8 y ++ bits 8 z) := by
  have hchars : n / 262144 * 2 ^ 18 + (n / 4096 % 64 * 2 ^ 12 + (n / 64 % 64 * 2 ^ 6 + n % 64)) =
      x * 2 ^ 16 + (y * 2 ^ 8 + z) := by omega
  have hbits := congrArg (bits 24) hchars
  rwa [bits_join 6 18 (by omega), bits_join 6 12 (by omega), bits_join 6 6 (by omega),
    bits_join 8 16 (by omega), bits_join 8 8 (by omega)] at hbits

/-- Three characters have the bits of two bytes and two more. -/
theorem bits_two {n x y : Nat} (hy : y < 256) (hn : n = x * 1024 + y * 4) :
    bits 6 (n / 4096) ++ (bits 6 (n / 64 % 64) ++ bits 6 (n % 64)) =
      bits 8 x ++ (bits 8 y ++ List.replicate 2 false) := by
  have hchars : n / 4096 * 2 ^ 12 + (n / 64 % 64 * 2 ^ 6 + n % 64) =
      x * 2 ^ 10 + (y * 2 ^ 2 + 0) := by omega
  have hbits := congrArg (bits 18) hchars
  rwa [bits_join 6 12 (by omega), bits_join 6 6 (by omega), bits_join 8 10 (by omega),
    bits_join 8 2 (by omega)] at hbits

/-- Two characters have the bits of one byte and four more. -/
theorem bits_one {n x : Nat} (hn : n = x * 16) :
    bits 6 (n / 64) ++ bits 6 (n % 64) = bits 8 x ++ List.replicate 4 false := by
  have hchars : n / 64 * 2 ^ 6 + n % 64 = x * 2 ^ 4 + 0 := by omega
  have hbits := congrArg (bits 12) hchars
  rwa [bits_join 6 6 (by omega), bits_join 8 4 (by omega)] at hbits

/-- What is written for some bytes has their bits, filled up with zeros. -/
theorem bits_sextets (bs : List UInt8) :
    ∃ unused < 6,
      (sextets bs).flatMap (bits 6) = bitsOfBytes bs ++ List.replicate unused false := by
  fun_induction sextets bs with
  | case1 x y z rest n ih =>
    obtain ⟨unused, hunused, ih⟩ := ih
    have hbits := congrArg (· ++ (sextets rest).flatMap (bits 6))
      (bits_three (x := x.toNat) y.toNat_lt z.toNat_lt (n := n) rfl)
    refine ⟨unused, hunused, ?_⟩
    simpa only [bitsOfBytes, List.map_cons, List.flatMap_cons, List.append_assoc, ih] using hbits
  | case2 x y n =>
    refine ⟨2, by omega, ?_⟩
    simpa only [bitsOfBytes, List.map_cons, List.map_nil, List.flatMap_cons, List.flatMap_nil,
      List.append_nil, List.append_assoc] using bits_two (x := x.toNat) y.toNat_lt (n := n) rfl
  | case3 x n =>
    refine ⟨4, by omega, ?_⟩
    simpa only [bitsOfBytes, List.map_cons, List.map_nil, List.flatMap_cons, List.flatMap_nil,
      List.append_nil, List.append_assoc] using bits_one (x := x.toNat) (n := n) rfl
  | case4 => exact ⟨0, by omega, rfl⟩

/-- Numbers that are read as some bytes are those that are written for them. -/
theorem sextets_of_bytesOfValues? {ns : List Nat} {bs : List UInt8} (hns : ∀ n ∈ ns, n < 64)
    (h : bytesOfValues? false ns = some bs) : ns = sextets bs := by
  fun_induction bytesOfValues? false ns generalizing bs with
  | case1 p q r s rest ih =>
    obtain ⟨bs, hrest, rfl⟩ := Option.map_eq_some_iff.mp h
    simp only [List.forall_mem_cons] at hns
    obtain ⟨hp, hq, hr, hs, hns⟩ := hns
    generalize hn : p * 262144 + q * 4096 + r * 64 + s = n
    have hx : (UInt8.ofNat (n / 65536)).toNat = n / 65536 :=
      UInt8.toNat_ofNat_of_lt' (show n / 65536 < 256 by omega)
    have hy : (UInt8.ofNat (n / 256 % 256)).toNat = n / 256 % 256 :=
      UInt8.toNat_ofNat_of_lt' (show n / 256 % 256 < 256 by omega)
    have hz : (UInt8.ofNat (n % 256)).toNat = n % 256 :=
      UInt8.toNat_ofNat_of_lt' (show n % 256 < 256 by omega)
    simp only [threeBytes, List.cons_append, List.nil_append, sextets, hx, hy, hz, ← ih hns hrest,
      List.cons.injEq, and_true]
    refine ⟨?_, ?_, ?_, ?_⟩ <;> omega
  | case2 p q r n =>
    obtain rfl := Option.some.inj h
    simp only [List.forall_mem_cons] at hns
    have hzero : n % 4 = 0 := by simpa using ‹false = true ∨ n % 4 = 0›
    have hx : (UInt8.ofNat (n / 1024)).toNat = n / 1024 :=
      UInt8.toNat_ofNat_of_lt' (show n / 1024 < 256 by omega)
    have hy : (UInt8.ofNat (n / 4 % 256)).toNat = n / 4 % 256 :=
      UInt8.toNat_ofNat_of_lt' (show n / 4 % 256 < 256 by omega)
    simp only [sextets, hx, hy, List.cons.injEq, and_true]
    refine ⟨?_, ?_, ?_⟩ <;> omega
  | case4 p q n =>
    obtain rfl := Option.some.inj h
    simp only [List.forall_mem_cons] at hns
    have hzero : n % 16 = 0 := by simpa using ‹false = true ∨ n % 16 = 0›
    have hx : (UInt8.ofNat (n / 16)).toNat = n / 16 :=
      UInt8.toNat_ofNat_of_lt' (show n / 16 < 256 by omega)
    simp only [sextets, hx, List.cons.injEq, and_true]
    refine ⟨?_, ?_⟩ <;> omega
  | case3 | case5 | case6 => cases h
  | case7 =>
    obtain rfl := Option.some.inj h
    rfl

/-- Numbers of six bits are read as the bytes of which they have the bits, if less than one of them
is left over and that is zero. -/
theorem bytesOfValues?_eq_some_iff {ns : List Nat} (hns : ∀ n ∈ ns, n < 64) {bs : List UInt8} :
    bytesOfValues? false ns = some bs ↔
      ∃ unused < 6, ns.flatMap (bits 6) = bitsOfBytes bs ++ List.replicate unused false := by
  constructor
  · intro h
    rw [sextets_of_bytesOfValues? hns h]
    exact bits_sextets bs
  · rintro ⟨unused, hunused, hbits⟩
    obtain ⟨unused', hunused', hbits'⟩ := bits_sextets bs
    -- How many bits are left over follows from the number of bytes.
    have hlength := congrArg List.length hbits
    have hlength' := congrArg List.length hbits'
    rw [length_flatMap_bits, List.length_append, bitsOfBytes, length_flatMap_bits, List.length_map,
      List.length_replicate] at hlength hlength'
    obtain rfl : unused = unused' := by omega
    rw [eq_of_flatMap_bits_eq hns lt_of_mem_sextets (hbits.trans hbits'.symm),
      bytesOfValues?_sextets]

/-! ### Characters -/

/-- The characters for the numbers of six bits, in order. -/
def letters : List Char :=
  "ABCDEFGHIJKLMNOPQRSTUVWXYZabcdefghijklmnopqrstuvwxyz0123456789+,".toList

/-- A text spells some bytes: its characters stand for their bits, and there are fewer bits more
than a character has, all of which are zero. -/
def Spells (cs : List Char) (bs : List UInt8) : Prop :=
  ∃ ns : List Nat, ns.map (letters[·]?) = cs.map some ∧
    ∃ unused < 6, ns.flatMap (bits 6) = bitsOfBytes bs ++ List.replicate unused false

theorem value?_letters : ∀ n < 64, (letters[n]?).bind mailbox.value? = some n := by decide +kernel

theorem letters_value? : ∀ n < 128, ∀ m ∈ mailbox.value? (Char.ofNat n),
    letters[m]? = some (Char.ofNat n) := by decide +kernel

theorem value?_eq_none_of_le {c : Char} (h : 128 ≤ c.toNat) : mailbox.value? c = none := by
  have hle {d : Char} (hd : d.toNat < 128) : ¬ c ≤ d := fun hcd => by
    rw [Char.le_def, UInt32.le_iff_toNat_le] at hcd
    exact absurd (Nat.le_trans h hcd) (Nat.not_le.mpr hd)
  have hne {d : Char} (hd : d.toNat < 128) : c ≠ d := fun hcd => hle hd (hcd ▸ Char.le_refl c)
  rw [Alphabet.value?, if_neg fun hc => hle (by decide) hc.2, if_neg fun hc => hle (by decide) hc.2,
    if_neg fun hc => hle (by decide) hc.2, if_neg (hne (by decide)), if_neg (hne (by decide))]

/-- A character has the value of its place among the letters. -/
theorem value?_eq_some_iff {c : Char} {n : Nat} :
    mailbox.value? c = some n ↔ letters[n]? = some c := by
  constructor
  · intro h
    rcases Nat.lt_or_ge c.toNat 128 with hc | hc
    · have hletter := letters_value? c.toNat hc n (by rwa [Char.ofNat_toNat])
      rwa [Char.ofNat_toNat] at hletter
    · rw [value?_eq_none_of_le hc] at h
      cases h
  · intro h
    have hn : n < 64 := (List.getElem?_eq_some_iff.mp h).1
    have hvalue := value?_letters n hn
    rwa [h] at hvalue

theorem mapM_value?_eq_some_iff {cs : List Char} {ns : List Nat} :
    cs.mapM mailbox.value? = some ns ↔ ns.map (letters[·]?) = cs.map some := by
  induction cs generalizing ns with
  | nil =>
    rw [List.mapM_nil, List.map_nil, List.map_eq_nil_iff]
    exact ⟨fun h => (Option.some.inj h).symm, fun h => h ▸ rfl⟩
  | cons c cs ih =>
    rw [List.mapM_cons, Option.bind_eq_bind, Option.bind_eq_some_iff]
    constructor
    · rintro ⟨n, hn, hmore⟩
      obtain ⟨rest, hrest, heq⟩ := Option.bind_eq_some_iff.mp hmore
      obtain rfl := Option.some.inj heq
      rw [List.map_cons, List.map_cons, value?_eq_some_iff.mp hn, ih.mp hrest]
    · intro h
      cases ns with
      | nil => cases h
      | cons n rest =>
        obtain ⟨hn, hrest⟩ := List.cons.inj h
        exact ⟨n, value?_eq_some_iff.mpr hn, Option.bind_eq_some_iff.mpr ⟨rest, ih.mpr hrest, rfl⟩⟩

/-- A text is read exactly as the bytes that it spells. -/
theorem decode?_eq_some_iff {cs : List Char} {bs : List UInt8} :
    decode? mailbox cs = some bs ↔ Spells cs bs := by
  rw [decode?, Option.bind_eq_some_iff, Spells]
  refine exists_congr fun ns => ?_
  rw [mapM_value?_eq_some_iff]
  refine and_congr_right fun hns => bytesOfValues?_eq_some_iff fun n hn => ?_
  have hletter : letters[n]? ∈ cs.map some := hns ▸ List.mem_map_of_mem hn
  obtain ⟨c, -, hc⟩ := List.mem_map.mp hletter
  exact (List.getElem?_eq_some_iff.mp hc.symm).1

/-- No letter is a hyphen. -/
theorem Spells.hyphen_notMem {cs : List Char} {bs : List UInt8} (h : Spells cs bs) : '-' ∉ cs := by
  obtain ⟨ns, hns, -⟩ := h
  intro hmem
  have hletter : some '-' ∈ ns.map (letters[·]?) := hns ▸ List.mem_map_of_mem hmem
  obtain ⟨n, -, hn⟩ := List.mem_map.mp hletter
  exact absurd (List.mem_of_getElem? hn) (by decide)

end Postroom.Text.Base64
