import Postroom.Text.Utf8

/-! # The bytes of a text

`bytes` goes over a string's own store of bytes.  Here it is brought to the list of its characters
(`bytes_eq_encode`), so that what holds of the bytes can be shown a character at a time.  A byte of
ASCII stands for its own character and for nothing else (`mem_bytes_iff`), and a text of ASCII has
one byte to a character and is read back from them.
-/

namespace Postroom.Text.Utf8

/-! ### From a string to its characters -/

theorem toList_loop (bs : ByteArray) (i : Nat) (taken : List UInt8) :
    ByteArray.toList.loop bs i taken = taken.reverse ++ bs.data.toList.drop i := by
  fun_induction ByteArray.toList.loop bs i taken with
  | case1 i taken hlt ih =>
    have hlength : i < bs.data.toList.length := by simpa using hlt
    have hget : bs.get! i = bs.data.toList[i] := by
      rw [Array.getElem_toList]
      exact getElem!_pos bs.data i hlt
    rw [ih, List.drop_eq_getElem_cons hlength, hget, List.reverse_cons, List.append_assoc,
      List.singleton_append]
  | case2 i taken hlt =>
    rw [List.drop_eq_nil_of_le (by simpa using Nat.le_of_not_lt hlt), List.append_nil]

theorem bytes_eq_encode (s : String) : bytes s = encode s.toList := by
  have hstore : s.toByteArray.data.toList = s.toList.flatMap String.utf8EncodeChar := by
    rw [← String.utf8Encode_toList, List.utf8Encode, List.data_toByteArray]
  rw [bytes, String.toUTF8_eq_toByteArray, ByteArray.toList, toList_loop, hstore]
  rfl

theorem bytes_append (s t : String) : bytes (s ++ t) = bytes s ++ bytes t := by
  simp [bytes_eq_encode, encode]

theorem bytes_ofList (cs : List Char) : bytes (String.ofList cs) = encode cs := by
  simp [bytes_eq_encode]

/-! ### ASCII -/

/-- Whether a character is one of ASCII. -/
def isAsciiChar (c : Char) : Bool := c.toNat < 128

theorem encodeChar_of_ascii {c : Char} (h : isAsciiChar c) : encodeChar c = [c.toUInt8] := by
  have hle : c.val.toNat ≤ 127 := by
    simp only [isAsciiChar, Char.toNat, decide_eq_true_eq] at h
    omega
  simp only [encodeChar, String.utf8EncodeChar, if_pos hle]
  rfl

/-- A text of ASCII has one byte to a character. -/
theorem encode_of_ascii {cs : List Char} (h : ∀ c ∈ cs, isAsciiChar c) :
    encode cs = cs.map Char.toUInt8 := by
  induction cs with
  | nil => rfl
  | cons c cs ih =>
    have hrest := ih fun d hd => h d (List.mem_cons_of_mem _ hd)
    simp only [encode] at hrest
    rw [encode, List.flatMap_cons, encodeChar_of_ascii (h c List.mem_cons_self), hrest]
    rfl

theorem toNat_toUInt8 {c : Char} (h : isAsciiChar c) : c.toUInt8.toNat = c.toNat := by
  simp only [isAsciiChar, decide_eq_true_eq] at h
  simp only [Char.toUInt8, UInt32.toNat_toUInt8, Char.toNat] at h ⊢
  omega

/-- The bytes of a character beyond ASCII are beyond ASCII. -/
theorem le_of_mem_encodeChar {c : Char} {b : UInt8} (hc : ¬ isAsciiChar c)
    (hb : b ∈ encodeChar c) : 128 ≤ b.toNat := by
  have hgt : ¬ c.val.toNat ≤ 127 := by
    simp only [isAsciiChar, Char.toNat, decide_eq_true_eq] at hc
    omega
  simp only [encodeChar, String.utf8EncodeChar, if_neg hgt] at hb
  split at hb
  · simp only [List.mem_cons, List.not_mem_nil, or_false] at hb
    rcases hb with rfl | rfl <;> simp only [UInt8.toNat_ofNat'] <;> omega
  · split at hb
    · simp only [List.mem_cons, List.not_mem_nil, or_false] at hb
      rcases hb with rfl | rfl | rfl <;> simp only [UInt8.toNat_ofNat'] <;> omega
    · simp only [List.mem_cons, List.not_mem_nil, or_false] at hb
      rcases hb with rfl | rfl | rfl | rfl <;> simp only [UInt8.toNat_ofNat'] <;> omega

/-- A byte of ASCII stands among the bytes of a text exactly if its character is in the text. -/
theorem mem_bytes_iff {c : Char} {s : String} (hc : isAsciiChar c) :
    c.toUInt8 ∈ bytes s ↔ c ∈ s.toList := by
  rw [bytes_eq_encode, encode, List.mem_flatMap]
  constructor
  · rintro ⟨d, hd, hmem⟩
    by_cases hascii : isAsciiChar d
    · rw [encodeChar_of_ascii hascii, List.mem_singleton] at hmem
      have hnat : c.toNat = d.toNat := by
        rw [← toNat_toUInt8 hc, ← toNat_toUInt8 hascii, hmem]
      exact Char.toNat_inj.mp hnat ▸ hd
    · have hle := le_of_mem_encodeChar hascii hmem
      rw [toNat_toUInt8 hc] at hle
      simp only [isAsciiChar, decide_eq_true_eq] at hc
      omega
  · intro hmem
    exact ⟨c, hmem, by simp [encodeChar_of_ascii hc]⟩

/-- A character with a byte of ASCII is ASCII, and has no other byte. -/
theorem encodeChar_eq_append_cons {c : Char} {before after : List UInt8} {b : UInt8}
    (hb : b.toNat < 128) (h : encodeChar c = before ++ b :: after) :
    isAsciiChar c = true ∧ c.toUInt8 = b ∧ before = [] ∧ after = [] := by
  have hmem : b ∈ encodeChar c := h ▸ List.mem_append_right _ List.mem_cons_self
  by_cases hc : isAsciiChar c = true
  · rw [encodeChar_of_ascii hc] at h
    obtain ⟨rfl, h⟩ | ⟨-, hnil⟩ := List.singleton_eq_append_iff.mp h
    · obtain ⟨rfl, rfl⟩ := List.cons.inj h
      exact ⟨hc, rfl, rfl, rfl⟩
    · cases hnil
  · have hle := le_of_mem_encodeChar hc hmem
    omega

/-- A byte of ASCII stands between the bytes of two texts, and never inside a character. -/
theorem encode_eq_append_cons {cs : List Char} {before after : List UInt8} {b : UInt8}
    (hb : b.toNat < 128) (h : encode cs = before ++ b :: after) :
    ∃ us c vs, cs = us ++ c :: vs ∧ isAsciiChar c = true ∧ c.toUInt8 = b ∧
      encode us = before ∧ encode vs = after := by
  induction cs generalizing before with
  | nil => simp [encode] at h
  | cons c cs ih =>
    have hlater : ∀ more, before = encodeChar c ++ more → encode cs = more ++ b :: after →
        ∃ us d vs, c :: cs = us ++ d :: vs ∧ isAsciiChar d = true ∧ d.toUInt8 = b ∧
          encode us = before ∧ encode vs = after := by
      rintro more rfl hcs
      obtain ⟨us, d, vs, rfl, hd, hbyte, rfl, hafter⟩ := ih hcs
      exact ⟨c :: us, d, vs, rfl, hd, hbyte, rfl, hafter⟩
    have hfront : encodeChar c ++ encode cs = before ++ b :: after := h
    rcases List.append_eq_append_iff.mp hfront with ⟨more, hbefore, hcs⟩ | ⟨more, hchar, hrest⟩
    · exact hlater more hbefore hcs
    · cases more with
      | nil => exact hlater [] (by simpa using hchar.symm) hrest.symm
      | cons d more =>
        obtain ⟨rfl, hafter⟩ := List.cons.inj hrest
        obtain ⟨hc, hbyte, rfl, rfl⟩ := encodeChar_eq_append_cons hb hchar
        exact ⟨[], c, cs, rfl, hc, hbyte, rfl, hafter.symm⟩

/-- Where a character of ASCII stands among the bytes of a text, it divides the text. -/
theorem bytes_eq_append_cons {s : String} {mark : Char} (hmark : isAsciiChar mark)
    {before after : List UInt8} (h : bytes s = before ++ mark.toUInt8 :: after) :
    ∃ t u, s = t ++ String.singleton mark ++ u ∧ bytes t = before ∧ bytes u = after := by
  have hbyte : mark.toUInt8.toNat < 128 := by
    rw [toNat_toUInt8 hmark]
    simpa [isAsciiChar] using hmark
  rw [bytes_eq_encode] at h
  obtain ⟨us, c, vs, hcs, hc, heq, rfl, rfl⟩ := encode_eq_append_cons hbyte h
  obtain rfl : c = mark :=
    Char.toNat_inj.mp (by rw [← toNat_toUInt8 hc, ← toNat_toUInt8 hmark, heq])
  refine ⟨String.ofList us, String.ofList vs, ?_, bytes_ofList us, bytes_ofList vs⟩
  rw [← String.toList_inj, hcs]
  simp

theorem front_of_ascii {b : UInt8} (hb : b < 0x80) (rest : List UInt8) :
    front b rest = .char (Char.ofNat b.toNat) 1 := by
  unfold front
  exact if_pos hb

/-- A text of ASCII is read back from its bytes. -/
theorem decode?_of_ascii {cs : List Char} (h : ∀ c ∈ cs, isAsciiChar c) :
    decode? (cs.map Char.toUInt8) = some cs := by
  induction cs with
  | nil => rfl
  | cons c cs ih =>
    have hc : isAsciiChar c := h c List.mem_cons_self
    have hbyte : c.toUInt8 < 0x80 := by
      rw [UInt8.lt_iff_toNat_lt, toNat_toUInt8 hc]
      simpa [isAsciiChar] using hc
    have hrest := ih fun d hd => h d (List.mem_cons_of_mem _ hd)
    rw [decode?] at hrest ⊢
    simp only [List.map_cons, decodeFrom, front_of_ascii hbyte, toNat_toUInt8 hc, Char.ofNat_toNat,
      Front.extra, Nat.sub_self, hrest, Option.map_some]

theorem string?_of_ascii {cs : List Char} (h : ∀ c ∈ cs, isAsciiChar c) :
    string? (cs.map Char.toUInt8) = some (String.ofList cs) := by
  rw [string?, decode?_of_ascii h, Option.map_some]

end Postroom.Text.Utf8
