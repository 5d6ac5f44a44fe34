import Postroom.Proofs.MailboxName
import Postroom.Proofs.Text.Base64.Bits
import Postroom.Proofs.Text.Utf8

/-! # The wire form of mailbox names

A wire form is a row of pieces (`Piece`): text that stands for itself, an ampersand with a hyphen,
or base64 between the two.  A piece is read as what it means, whatever follows it
(`decodeFrom?_written`), so every row of pieces is read as what they mean
(`decodeChars?_written`).  And a text that is read at all can be cut into pieces
(`exists_pieces`): up to an ampersand it stands for itself, and from there to the next hyphen it
is a piece, since no piece has a hyphen inside it.

A text may be cut in several ways, as text that stands for itself can be divided anywhere; what it
means is always the same.
-/

namespace Postroom.MailboxName

open Text

/-- A piece of a wire form. -/
inductive Piece where
  /-- Text that stands for itself. -/
  | plain (text : List Char) (free : '&' ∉ text)
  /-- An ampersand with a hyphen behind it. -/
  | ampersand
  /-- Between an ampersand and a hyphen the base64 of bytes, which are the UTF-16 of a text. -/
  | shift (inner : List Char) (bs : List UInt8) (text : List Char) (filled : inner ≠ [])
      (spelled : Base64.Spells inner bs) (encoded : Utf16.bytes text = bs)

namespace Piece

/-- A piece as it is written. -/
def written : Piece → List Char
  | plain text _ => text
  | ampersand => ['&', '-']
  | shift inner _ _ _ _ _ => '&' :: (inner ++ ['-'])

/-- What a piece means. -/
def meaning : Piece → List Char
  | plain text _ => text
  | ampersand => ['&']
  | shift _ _ text _ _ _ => text

end Piece

/-! ### Pieces are read -/

theorem decodeShift?_eq_some_iff {inner text : List Char} (hfilled : inner ≠ []) :
    decodeShift? inner = some text ↔ Base64.Spells inner (Utf16.bytes text) := by
  rw [decodeShift?, if_neg (by simpa using hfilled), Option.bind_eq_some_iff]
  constructor
  · rintro ⟨bs, hbs, htext⟩
    rw [Utf16.ofBytes?_eq_some_iff.mp htext]
    exact Base64.decode?_eq_some_iff.mp hbs
  · intro h
    exact ⟨_, Base64.decode?_eq_some_iff.mpr h, Utf16.ofBytes?_bytes text⟩

theorem decodeFrom?_plain {text : List Char} (free : '&' ∉ text) (rest : List Char) :
    decodeFrom? none (text ++ rest) = (decodeFrom? none rest).map (text ++ ·) := by
  induction text with
  | nil => simp
  | cons c text ih =>
    obtain ⟨hc, hfree⟩ := not_or.mp (mt List.mem_cons.mpr free)
    rw [List.cons_append, decodeFrom?_cons (Ne.symm hc), ih hfree, Option.map_map]
    rfl

/-- A shift is read up to the next hyphen. -/
theorem decodeFrom?_ampersand {inner : List Char} (h : '-' ∉ inner) (rest : List Char) :
    decodeFrom? none ('&' :: (inner ++ '-' :: rest)) =
      (decodeShift? inner).bind fun cs => (decodeFrom? none rest).map (cs ++ ·) := by
  rw [decodeFrom?]
  simp only [if_true]
  rw [decodeFrom?_shift [] inner rest h, List.nil_append]

/-- A piece is read as what it means. -/
theorem decodeFrom?_written (p : Piece) (rest : List Char) :
    decodeFrom? none (p.written ++ rest) = (decodeFrom? none rest).map (p.meaning ++ ·) := by
  cases p with
  | plain text free => exact decodeFrom?_plain free rest
  | ampersand =>
    -- There is nothing between the two, which stands for the ampersand.
    exact decodeFrom?_ampersand List.not_mem_nil rest
  | shift inner bs text filled spelled encoded =>
    have hstart : (Piece.shift inner bs text filled spelled encoded).written ++ rest =
        '&' :: (inner ++ '-' :: rest) := by simp [Piece.written]
    subst encoded
    rw [hstart, decodeFrom?_ampersand spelled.hyphen_notMem,
      (decodeShift?_eq_some_iff filled).mpr spelled, Option.bind_some]
    rfl

/-- A row of pieces is read as what they mean. -/
theorem decodeChars?_written (ps : List Piece) :
    decodeChars? (ps.flatMap Piece.written) = some (ps.flatMap Piece.meaning) := by
  rw [decodeChars?]
  induction ps with
  | nil => rfl
  | cons p ps ih => rw [List.flatMap_cons, decodeFrom?_written, ih, Option.map_some]; rfl

/-! ### What is read consists of pieces -/

/-- What is read behind an ampersand has a hyphen, up to which it is the rest of a shift. -/
theorem exists_hyphen {read cs out : List Char} (h : decodeFrom? (some read) cs = some out) :
    ∃ inner rest, cs = inner ++ '-' :: rest ∧ '-' ∉ inner := by
  induction cs generalizing read with
  | nil => cases h
  | cons c cs ih =>
    by_cases hc : c = '-'
    · exact ⟨[], cs, by rw [hc]; rfl, by simp⟩
    · rw [decodeFrom?] at h
      simp only [if_neg hc] at h
      obtain ⟨inner, rest, rfl, hinner⟩ := ih h
      exact ⟨c :: inner, rest, rfl, by simp [Ne.symm hc, hinner]⟩

/-- A shift that is read is a piece. -/
theorem exists_piece {inner text : List Char} (h : decodeShift? inner = some text) :
    ∃ p : Piece, p.written = '&' :: (inner ++ ['-']) := by
  by_cases hfilled : inner = []
  · exact ⟨.ampersand, by rw [hfilled]; rfl⟩
  · exact ⟨.shift inner _ text hfilled ((decodeShift?_eq_some_iff hfilled).mp h) rfl, rfl⟩

/-- A text that is read consists of pieces. -/
theorem exists_pieces {cs out : List Char} (h : decodeFrom? none cs = some out) :
    ∃ ps : List Piece, ps.flatMap Piece.written = cs := by
  -- What follows a piece is shorter, and is read as well.
  induction hlength : cs.length using Nat.strongRecOn generalizing cs out with
  | ind length ih =>
    subst hlength
    cases cs with
    | nil => exact ⟨[], rfl⟩
    | cons c cs =>
      by_cases hc : c = '&'
      · subst hc
        have hshift : decodeFrom? (some []) cs = some out := by
          rw [decodeFrom?] at h
          simpa only [if_true] using h
        obtain ⟨inner, rest, rfl, hinner⟩ := exists_hyphen hshift
        rw [decodeFrom?_ampersand hinner] at h
        obtain ⟨text, htext, hrest⟩ := Option.bind_eq_some_iff.mp h
        obtain ⟨later, hlater, -⟩ := Option.map_eq_some_iff.mp hrest
        obtain ⟨p, hp⟩ := exists_piece htext
        obtain ⟨ps, rfl⟩ := ih _ (by simp; omega) hlater rfl
        exact ⟨p :: ps, by simp [hp]⟩
      · rw [decodeFrom?_cons hc] at h
        obtain ⟨later, hlater, -⟩ := Option.map_eq_some_iff.mp h
        obtain ⟨ps, rfl⟩ := ih _ (by simp) hlater rfl
        exact ⟨.plain [c] (by simpa using Ne.symm hc) :: ps, rfl⟩

/-! ### Names -/

/-- The string that pieces write. -/
def wireOf (ps : List Piece) : String := String.ofList (ps.flatMap Piece.written)

/-- The string that pieces mean. -/
def nameOf (ps : List Piece) : String := String.ofList (ps.flatMap Piece.meaning)

/-- **Exactly the wire forms are decoded.**  Whatever can be cut into pieces is decoded as what the
pieces mean, and every other text as itself.  The bytes in a piece of base64 are pairs, the high
byte of each first, in which every surrogate has its other half; all such bytes can stand there.  A
text is cut at ampersands and hyphens only, which divide its bytes into those of texts, so that no
character is cut.  The wire form of a name can be cut into pieces that mean the name. -/
theorem decode_exact (w : String) :
    (∀ ps, wireOf ps = w → decode w = nameOf ps) ∧
    ((¬ ∃ ps, wireOf ps = w) → decode w = w) ∧
    (∀ bs, (∃ text, Utf16.bytes text = bs) ↔
      ∃ us, us.flatMap Utf16.bytesOfUnit = bs ∧ Utf16.Paired us) ∧
    (∀ mark ∈ ['&', '-'], ∀ before after, Utf8.bytes w = before ++ mark.toUInt8 :: after →
      ∃ t u, w = t ++ String.singleton mark ++ u ∧ Utf8.bytes t = before ∧ Utf8.bytes u = after) ∧
    ∀ name, ∃ ps, wireOf ps = encode name ∧ nameOf ps = name := by
  refine ⟨fun ps hps => ?_, fun hnone => ?_, fun bs => Utf16.exists_bytes_iff,
    fun mark hmark before after h => ?_, fun name => ?_⟩
  · rw [← hps, decode, wireOf, String.toList_ofList, decodeChars?_written]
    rfl
  · have hrefused : decodeChars? w.toList = none := by
      rw [Option.eq_none_iff_forall_ne_some]
      intro out hout
      obtain ⟨ps, hps⟩ := exists_pieces hout
      exact hnone ⟨ps, by rw [wireOf, hps, String.ofList_toList]⟩
    rw [decode, hrefused]
  · have hascii : Utf8.isAsciiChar mark = true := by
      simp only [List.mem_cons, List.not_mem_nil, or_false] at hmark
      rcases hmark with rfl | rfl <;> rfl
    exact Utf8.bytes_eq_append_cons hascii h
  · obtain ⟨ps, hps⟩ := exists_pieces (decodeFrom?_encodeFrom [] name.toList)
    have hmeaning : ps.flatMap Piece.meaning = name.toList := by
      rw [← Option.some_inj, ← decodeChars?_written, hps]
      exact decodeFrom?_encodeFrom [] name.toList
    exact ⟨ps, congrArg String.ofList hps, by rw [nameOf, hmeaning, String.ofList_toList]⟩

/-- A name with an ampersand and an umlaut in pieces, and the same without its last hyphen. -/
theorem pieces_decoded :
    (∃ ps, wireOf ps = "R&-J&APw-" ∧ decode "R&-J&APw-" = nameOf ps ∧ nameOf ps = "R&Jü") ∧
      (¬ ∃ ps, wireOf ps = "R&-J&APw") ∧ decode "R&-J&APw" = "R&-J&APw" ∧
      Utf8.bytes "ü&" = [195, 188] ++ '&'.toUInt8 :: [] ∧ ∃ t u, "ü&" = t ++ "&" ++ u := by
  have hspelled : Base64.Spells "APw".toList (Utf16.bytes ['ü']) :=
    Base64.decode?_eq_some_iff.mp (by decide +kernel)
  let ps : List Piece := [.plain ['R'] (by decide), .ampersand, .plain ['J'] (by decide),
    .shift "APw".toList _ ['ü'] (by decide) hspelled rfl]
  have hwire : wireOf ps = "R&-J&APw-" := by rfl
  have hnone : ¬ ∃ ps, wireOf ps = "R&-J&APw" := by
    rintro ⟨ps, hps⟩
    have hread := decodeChars?_written ps
    have hwritten : ps.flatMap Piece.written = "R&-J&APw".toList := by
      rw [← hps, wireOf, String.toList_ofList]
    have hrefused : decodeChars? "R&-J&APw".toList = none := by decide +kernel
    rw [hwritten, hrefused] at hread
    cases hread
  have hbytes : Utf8.bytes "ü&" = [195, 188] ++ '&'.toUInt8 :: [] := by decide +kernel
  obtain ⟨t, u, hcut, -⟩ := (decode_exact "ü&").2.2.2.1 '&' (by decide) _ _ hbytes
  exact ⟨⟨ps, hwire, (decode_exact _).1 ps hwire, by rfl⟩, hnone,
    (decode_exact _).2.1 hnone, hbytes, t, u, hcut⟩

end Postroom.MailboxName
