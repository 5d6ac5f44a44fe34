import Postroom.MailboxName
import Postroom.Proofs.Text.Base64
import Postroom.Proofs.Text.Utf16

/-! # Mailbox names come back from the wire

The wire form of a name is a row of pieces: a printable character, an ampersand with a hyphen, or a
run of other characters between the two.  Each piece is read as what it was written for, whatever
follows it (`decodeFrom?_encodeRun`, `decodeFrom?_encodePrintable`); the run that is pending while a
name is written is the induction's parameter (`decodeFrom?_encodeFrom`).
-/

namespace Postroom.MailboxName

open Text

/-! ### Pieces -/

theorem decodeFrom?_cons {c : Char} (hc : c ≠ '&') (rest : List Char) :
    decodeFrom? none (c :: rest) = (decodeFrom? none rest).map (c :: ·) := by
  rw [decodeFrom?]
  simp only [if_neg hc]

/-- What stands before the next hyphen is read as a shift. -/
theorem decodeFrom?_shift (read inner rest : List Char) (h : '-' ∉ inner) :
    decodeFrom? (some read) (inner ++ '-' :: rest) =
      (decodeShift? (read ++ inner)).bind fun cs => (decodeFrom? none rest).map (cs ++ ·) := by
  induction inner generalizing read with
  | nil => simp [decodeFrom?]
  | cons c inner ih =>
    have hc : c ≠ '-' := fun heq => h (by simp [heq])
    have hinner : '-' ∉ inner := fun hmem => h (List.mem_cons_of_mem _ hmem)
    rw [List.cons_append, decodeFrom?]
    simp only [if_neg hc]
    rw [ih (read ++ [c]) hinner, List.append_assoc, List.singleton_append]

/-- What a character of a shift can be. -/
theorem mem_shift {run : List Char} {c : Char}
    (h : c ∈ Base64.encode Base64.mailbox (Utf16.bytes run)) :
    '+' ≤ c ∧ c ≤ 'z' ∧ c ≠ '-' ∧ c ≠ '\\' := by
  rw [Base64.encode_eq_map, List.mem_map] at h
  obtain ⟨n, hn, rfl⟩ := h
  exact Base64.mem_mailbox_range (Base64.lt_of_mem_sextets n hn)

theorem decodeShift?_encode {run : List Char} (h : run ≠ []) :
    decodeShift? (Base64.encode Base64.mailbox (Utf16.bytes run)) = some run := by
  have hne := Base64.encode_ne_nil Base64.mailbox (Utf16.bytes_ne_nil h)
  rw [decodeShift?, if_neg (by simpa using hne), Base64.decode?_encode Base64.mailbox_reads,
    Option.bind_some, Utf16.ofBytes?_bytes]

theorem decodeFrom?_encodeRun (run rest : List Char) :
    decodeFrom? none (encodeRun run ++ rest) = (decodeFrom? none rest).map (run ++ ·) := by
  cases run with
  | nil => simp [encodeRun]
  | cons c run =>
    have hhyphen : '-' ∉ Base64.encode Base64.mailbox (Utf16.bytes (c :: run)) :=
      fun hmem => (mem_shift hmem).2.2.1 rfl
    have hstart : encodeRun (c :: run) ++ rest =
        '&' :: (Base64.encode Base64.mailbox (Utf16.bytes (c :: run)) ++ '-' :: rest) := by
      simp [encodeRun]
    rw [hstart, decodeFrom?]
    simp only [if_true]
    rw [decodeFrom?_shift [] _ rest hhyphen, List.nil_append,
      decodeShift?_encode (List.cons_ne_nil c run), Option.bind_some]

theorem decodeFrom?_encodePrintable (c : Char) (rest : List Char) :
    decodeFrom? none (encodePrintable c ++ rest) = (decodeFrom? none rest).map (c :: ·) := by
  by_cases hc : c = '&'
  · -- The ampersand is a shift of its own, with nothing between it and the hyphen.
    subst hc
    have hshift := decodeFrom?_shift [] [] rest (by simp)
    rw [encodePrintable, if_pos rfl, List.cons_append, decodeFrom?]
    simpa [decodeShift?] using hshift
  · rw [encodePrintable, if_neg hc, List.singleton_append, decodeFrom?_cons hc]

/-! ### Names -/

/-- A name is read back from its wire form, with the run that was pending before it. -/
theorem decodeFrom?_encodeFrom (run cs : List Char) :
    decodeFrom? none (encodeFrom run cs) = some (run ++ cs) := by
  -- The pending run is written out before the next printable character, or at the end.
  induction cs generalizing run with
  | nil => simpa [encodeFrom, decodeFrom?] using decodeFrom?_encodeRun run []
  | cons c cs ih =>
    by_cases hc : isPrintable c
    · rw [encodeFrom, if_pos hc, List.append_assoc, decodeFrom?_encodeRun,
        decodeFrom?_encodePrintable, ih []]
      simp
    · rw [encodeFrom, if_neg hc, ih (run ++ [c]), List.append_assoc, List.singleton_append]

theorem decodeChars?_encodeChars (cs : List Char) : decodeChars? (encodeChars cs) = some cs :=
  decodeFrom?_encodeFrom [] cs

/-- A name is read back from its wire form. -/
theorem decode_encode (name : String) : decode (encode name) = name := by
  simp [decode, encode, decodeChars?_encodeChars]

/-! ### The wire form -/

theorem isPrintable_iff (c : Char) : isPrintable c = true ↔ 32 ≤ c.toNat ∧ c.toNat ≤ 126 := by
  rw [isPrintable, Bool.and_eq_true, decide_eq_true_eq, decide_eq_true_eq, Char.le_def,
    Char.le_def, UInt32.le_iff_toNat_le, UInt32.le_iff_toNat_le]
  rfl

theorem isPrintable_of_mem_encodeRun {run : List Char} : ∀ c ∈ encodeRun run, isPrintable c := by
  intro c hc
  unfold encodeRun at hc
  split at hc
  · cases hc
  · simp only [List.mem_cons, List.mem_append, List.not_mem_nil, or_false] at hc
    rcases hc with rfl | hc | rfl
    · rfl
    · obtain ⟨hlow, hhigh, -⟩ := mem_shift hc
      rw [Char.le_def, UInt32.le_iff_toNat_le] at hlow hhigh
      rw [isPrintable_iff]
      exact ⟨Nat.le_trans (by decide) hlow, Nat.le_trans hhigh (by decide)⟩
    · rfl

/-- The wire form of a name is printable. -/
theorem isPrintable_of_mem_encodeFrom {run cs : List Char} :
    ∀ c ∈ encodeFrom run cs, isPrintable c := by
  induction cs generalizing run with
  | nil => exact isPrintable_of_mem_encodeRun
  | cons d cs ih =>
    by_cases hd : isPrintable d
    · rw [encodeFrom, if_pos hd]
      intro c hc
      rcases List.mem_append.mp hc with hc | hc
      · rcases List.mem_append.mp hc with hc | hc
        · exact isPrintable_of_mem_encodeRun c hc
        · unfold encodePrintable at hc
          split at hc
          · simp only [List.mem_cons, List.not_mem_nil, or_false] at hc
            rcases hc with rfl | rfl <;> rfl
          · exact List.mem_singleton.mp hc ▸ hd
      · exact ih c hc
    · rw [encodeFrom, if_neg hd]
      exact ih

theorem isPrintable_of_mem_encode {name : String} :
    ∀ c ∈ (encode name).toList, isPrintable c := by
  intro c hc
  exact isPrintable_of_mem_encodeFrom c (by simpa [encode, encodeChars] using hc)

end Postroom.MailboxName
