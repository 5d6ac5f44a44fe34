import Postroom.Proofs.MailboxName
import Postroom.Proofs.Text.Utf8
import Postroom.Request
import Postroom.Wire.Argument

/-! # What arguments put into a command

The text of a command is put together from words, sets of identifiers, flags and quoted strings.
For each of these it is said here which characters it can bring along: identifiers, flags that have
been checked and mailbox names in quotes are printable (`isBare_of_render`, `isBare_of_checkFlag`,
`isPrintable_inQuotes`), and a text in quotes has no line break, because one that has is refused
(`quotedText_eq_ok_iff`).  The one exception are the keywords that a search is for, which go into
the command as they are (`oneLine_criteria`).
-/

namespace Postroom.Wire

open Text MailboxName

/-! ### Texts whose characters meet a test -/

/-- Every character of a text meets a test. -/
def AllChars (test : Char → Bool) (s : String) : Prop := ∀ c ∈ s.toList, test c = true

namespace AllChars

variable {p q : Char → Bool} {s t : String}

instance : Decidable (AllChars p s) := List.decidableBAll (p · = true) s.toList

@[simp] theorem append_iff : AllChars p (s ++ t) ↔ AllChars p s ∧ AllChars p t := by
  simp [AllChars, or_imp, forall_and]

theorem mono (hpq : ∀ c, p c = true → q c = true) (h : AllChars p s) : AllChars q s :=
  fun c hc => hpq c (h c hc)

/-- Parts with something between each two meet a test if the parts do. -/
theorem intercalate_iff {separator : String} {parts : List String} (h : AllChars p separator) :
    AllChars p (String.intercalate separator parts) ↔ ∀ part ∈ parts, AllChars p part := by
  induction parts with
  | nil => simp [AllChars]
  | cons part parts ih =>
    cases parts with
    | nil => simp
    | cons next more =>
      rw [String.intercalate_cons_cons, append_iff, append_iff, ih]
      simp [h]

end AllChars

/-- Whether a character can stand within a line. -/
def isInLine (c : Char) : Bool := c != '\r' && c != '\n'

/-- Whether a character is printable and no quote. -/
def isBare (c : Char) : Bool := isPrintable c && c != '"'

theorem isInLine_of_isPrintable {c : Char} (h : isPrintable c = true) : isInLine c = true := by
  have hc : c ≠ '\r' ∧ c ≠ '\n' := by
    rw [isPrintable_iff] at h
    constructor <;> rintro rfl <;> exact absurd h (by decide)
  simp [isInLine, hc]

theorem isPrintable_of_isBare {c : Char} (h : isBare c = true) : isPrintable c = true := by
  rw [isBare, Bool.and_eq_true] at h
  exact h.1

/-- A text without a line break. -/
abbrev OneLine (s : String) : Prop := AllChars isInLine s

theorem oneLine_of_isPrintable {s : String} (h : AllChars isPrintable s) : OneLine s :=
  h.mono fun _ => isInLine_of_isPrintable

theorem oneLine_of_isBare {s : String} (h : AllChars isBare s) : OneLine s :=
  oneLine_of_isPrintable (h.mono fun _ => isPrintable_of_isBare)

/-! ### The bytes of texts of ASCII -/

theorem isAsciiChar_of_isPrintable {c : Char} (h : isPrintable c = true) :
    Utf8.isAsciiChar c = true := by
  rw [isPrintable_iff] at h
  simp only [Utf8.isAsciiChar, decide_eq_true_eq]
  omega

theorem ascii_of_isPrintable {s : String} (h : AllChars isPrintable s) :
    AllChars Utf8.isAsciiChar s := h.mono fun _ => isAsciiChar_of_isPrintable

theorem ascii_of_isBare {s : String} (h : AllChars isBare s) : AllChars Utf8.isAsciiChar s :=
  ascii_of_isPrintable (h.mono fun _ => isPrintable_of_isBare)

/-- A text of ASCII passes a test to its bytes if each character of ASCII does. -/
theorem forall_mem_bytes {p : Char → Bool} {q : UInt8 → Bool} {s : String}
    (hascii : AllChars Utf8.isAsciiChar s) (hs : AllChars p s)
    (hpq : ∀ n < 128, p (Char.ofNat n) = true → q (Char.ofNat n).toUInt8 = true) :
    ∀ b ∈ Utf8.bytes s, q b = true := by
  intro b hb
  rw [Utf8.bytes_eq_encode, Utf8.encode_of_ascii hascii] at hb
  obtain ⟨c, hc, rfl⟩ := List.mem_map.mp hb
  have hlt : c.toNat < 128 := by simpa [Utf8.isAsciiChar] using hascii c hc
  simpa using hpq c.toNat hlt (by simpa using hs c hc)

/-- A text has a line break exactly if one of its bytes is one. -/
theorem oneLine_iff_bytes (s : String) :
    OneLine s ↔ 13 ∉ Utf8.bytes s ∧ 10 ∉ Utf8.bytes s := by
  have hreturn : (13 : UInt8) ∈ Utf8.bytes s ↔ '\r' ∈ s.toList :=
    Utf8.mem_bytes_iff (c := '\r') rfl
  have hfeed : (10 : UInt8) ∈ Utf8.bytes s ↔ '\n' ∈ s.toList :=
    Utf8.mem_bytes_iff (c := '\n') rfl
  rw [hreturn, hfeed]
  constructor
  · intro h
    exact ⟨fun hmem => absurd (h _ hmem) (by decide), fun hmem => absurd (h _ hmem) (by decide)⟩
  · rintro ⟨hreturn, hfeed⟩ c hc
    have hne : c ≠ '\r' ∧ c ≠ '\n' :=
      ⟨fun heq => hreturn (heq ▸ hc), fun heq => hfeed (heq ▸ hc)⟩
    simp [isInLine, hne]

/-! ### Sets of identifiers -/

theorem isBare_of_isDigit {c : Char} (h : c.isDigit = true) : isBare c = true := by
  simp only [Char.isDigit, Bool.and_eq_true, decide_eq_true_eq, ge_iff_le,
    UInt32.le_iff_toNat_le] at h
  have hlow : 48 ≤ c.toNat := h.1
  have hhigh : c.toNat ≤ 57 := h.2
  have hquote : c ≠ '"' := by
    rintro rfl
    exact absurd hlow (by decide)
  have hprintable : isPrintable c = true := (isPrintable_iff c).mpr ⟨by omega, by omega⟩
  simp [isBare, hprintable, hquote]

theorem isBare_of_repr (n : Nat) : AllChars isBare n.repr := by
  intro c hc
  rw [Nat.toList_repr] at hc
  exact isBare_of_isDigit (Nat.isDigit_of_mem_toDigits (by decide) (by decide) hc)

theorem isBare_of_render (uids : List Uid) : AllChars isBare (UidSet.render uids) := by
  rw [UidSet.render, AllChars.intercalate_iff (by decide)]
  intro part hpart
  obtain ⟨run, -, rfl⟩ := List.mem_map.mp hpart
  unfold UidSet.renderRun
  split
  · exact isBare_of_repr run.1
  · rw [AllChars.append_iff, AllChars.append_iff]
    exact ⟨⟨isBare_of_repr run.1, by decide⟩, isBare_of_repr run.2⟩

/-! ### Flags -/

theorem isBare_of_isAtomChar {c : Char} (h : isAtomChar c = true) : isBare c = true := by
  simp only [isAtomChar, Bool.and_eq_true, decide_eq_true_eq, Bool.not_eq_true'] at h
  obtain ⟨⟨hlow, hhigh⟩, hspecial⟩ := h
  rw [Char.le_def, UInt32.le_iff_toNat_le] at hlow hhigh
  have hprintable : isPrintable c = true :=
    (isPrintable_iff c).mpr ⟨Nat.le_trans (by decide) hlow, hhigh⟩
  have hquote : c ≠ '"' := by
    rintro rfl
    exact absurd hspecial (by decide)
  simp [isBare, hprintable, hquote]

/-- A keyword that can be sent is an atom, with a backslash before it or without. -/
theorem checkFlag_keyword_iff {name : String} :
    checkFlag (.keyword name) = .ok () ↔
      withoutBackslash name.toList ≠ [] ∧
        ∀ c ∈ withoutBackslash name.toList, isAtomChar c = true := by
  cases hatom : withoutBackslash name.toList with
  | nil => simp [checkFlag, hatom]
  | cons c cs =>
    cases hfind : (c :: cs).find? (!isAtomChar ·) with
    | none =>
      have hall := List.find?_eq_none.mp hfind
      simp only [checkFlag, hatom, hfind, ne_eq, reduceCtorEq, not_false_eq_true, true_and,
        true_iff]
      intro d hd
      simpa using hall d hd
    | some d =>
      have hd := List.find?_some hfind
      have hmem := List.mem_of_find?_eq_some hfind
      simp only [checkFlag, hatom, hfind, reduceCtorEq, false_iff, not_and]
      intro _ hall
      simp [hall d hmem] at hd

theorem mem_of_mem_withoutBackslash {cs : List Char} {c : Char} (h : c ∈ cs) :
    c ∈ withoutBackslash cs ∨ c = '\\' := by
  unfold withoutBackslash
  split
  · exact (List.mem_cons.mp h).symm
  · exact .inl h

/-- A flag that can be sent is printable. -/
theorem isBare_of_checkFlag {f : Flag} (h : checkFlag f = .ok ()) : AllChars isBare f.toString := by
  cases f with
  | keyword name =>
    intro c hc
    rcases mem_of_mem_withoutBackslash hc with hatom | rfl
    · exact isBare_of_isAtomChar ((checkFlag_keyword_iff.mp h).2 c hatom)
    · decide
  | _ => decide

theorem forM_eq_ok_iff {ε α : Type} {f : α → Except ε Unit} {as : List α} :
    as.forM f = .ok () ↔ ∀ a ∈ as, f a = .ok () := by
  induction as with
  | nil => simp [pure, Except.pure]
  | cons a as ih =>
    change (f a >>= fun _ => as.forM f) = .ok () ↔ _
    rw [bind_eq_ok_iff, List.forall_mem_cons, ← ih]
    exact ⟨fun ⟨_, hfirst, hrest⟩ => ⟨hfirst, hrest⟩, fun ⟨hfirst, hrest⟩ => ⟨(), hfirst, hrest⟩⟩

/-- Flags are sent as they are named, if each of them can be sent. -/
theorem flagText_eq_ok_iff {flags : List Flag} {t : String} :
    flagText flags = .ok t ↔ (∀ f ∈ flags, checkFlag f = .ok ()) ∧ t = Flag.join flags := by
  rw [flagText, bind_eq_ok_iff, ← forM_eq_ok_iff]
  constructor
  · rintro ⟨_, hflags, ht⟩
    exact ⟨hflags, (Except.ok.inj ht).symm⟩
  · rintro ⟨hflags, rfl⟩
    exact ⟨(), hflags, rfl⟩

theorem isBare_of_flagText {flags : List Flag} {t : String} (h : flagText flags = .ok t) :
    AllChars isBare t := by
  obtain ⟨hflags, rfl⟩ := flagText_eq_ok_iff.mp h
  rw [Flag.join, AllChars.intercalate_iff (by decide)]
  intro part hpart
  obtain ⟨f, hf, rfl⟩ := List.mem_map.mp hpart
  exact isBare_of_checkFlag (hflags f hf)

/-! ### Quoted strings -/

/-- A text in quotes. -/
def inQuotes (s : String) : String := String.ofList ('"' :: s.toList.flatMap escape ++ ['"'])

/-- A text is put in quotes if it has no line break. -/
theorem quotedText_eq_ok_iff {s t : String} :
    quotedText s = .ok t ↔ OneLine s ∧ t = inQuotes s := by
  have hline : OneLine s ↔ '\n' ∉ s.toList ∧ '\r' ∉ s.toList := by
    simp only [AllChars, isInLine, Bool.and_eq_true, bne_iff_ne, ne_eq]
    constructor
    · exact fun h => ⟨fun hmem => (h _ hmem).2 rfl, fun hmem => (h _ hmem).1 rfl⟩
    · rintro ⟨hfeed, hreturn⟩ c hc
      exact ⟨fun heq => hreturn (heq ▸ hc), fun heq => hfeed (heq ▸ hc)⟩
  rw [hline]
  by_cases hfeed : '\n' ∈ s.toList
  · simp [quotedText, hfeed]
  · by_cases hreturn : '\r' ∈ s.toList
    · simp [quotedText, hfeed, hreturn]
    · simp [quotedText, hfeed, hreturn, inQuotes, eq_comm]

theorem mem_escape {c d : Char} (h : d ∈ escape c) : d = c ∨ d = '\\' := by
  unfold escape at h
  split at h <;> simp_all [or_comm]

theorem mem_inQuotes {s : String} {c : Char} (h : c ∈ (inQuotes s).toList) :
    c ∈ s.toList ∨ c = '\\' ∨ c = '"' := by
  simp only [inQuotes, String.toList_ofList, List.cons_append, List.mem_cons, List.mem_append,
    List.mem_flatMap, List.not_mem_nil, or_false] at h
  rcases h with rfl | ⟨d, hd, hc⟩ | rfl
  · simp
  · rcases mem_escape hc with rfl | rfl
    · exact .inl hd
    · simp
  · simp

/-- What a test that backslash and quote meet says of a text it says of the text in quotes. -/
theorem AllChars.inQuotes {p : Char → Bool} {s : String} (hbackslash : p '\\' = true)
    (hquote : p '"' = true) (h : AllChars p s) : AllChars p (inQuotes s) := by
  intro c hc
  rcases mem_inQuotes hc with hc | rfl | rfl
  · exact h c hc
  · exact hbackslash
  · exact hquote

theorem oneLine_of_quotedText {s t : String} (h : quotedText s = .ok t) : OneLine t := by
  obtain ⟨hline, rfl⟩ := quotedText_eq_ok_iff.mp h
  exact hline.inQuotes rfl rfl

theorem isPrintable_encode (name : String) : AllChars isPrintable (encode name) :=
  fun c hc => isPrintable_of_mem_encode c hc

/-- Every mailbox name can be sent. -/
theorem quotedMailbox_eq (name : String) : quotedMailbox name = .ok (inQuotes (encode name)) :=
  quotedText_eq_ok_iff.mpr ⟨oneLine_of_isPrintable (isPrintable_encode name), rfl⟩

theorem isPrintable_inQuotes (name : String) : AllChars isPrintable (inQuotes (encode name)) :=
  (isPrintable_encode name).inQuotes rfl rfl

/-! ### Search keys -/

/-- The key for a flag has a line break exactly if the flag has one. -/
theorem oneLine_keys (f : Flag) :
    (OneLine (Criteria.keys f).1 ↔ OneLine f.toString) ∧
      (OneLine (Criteria.keys f).2 ↔ OneLine f.toString) := by
  cases f with
  | keyword name =>
    have hpresent : OneLine "KEYWORD " := by decide
    have habsent : OneLine "UNKEYWORD " := by decide
    simp [Criteria.keys, hpresent, habsent]
  | _ => decide

/-- Search criteria have a line break exactly if one of their flags has one. -/
theorem oneLine_criteria (c : Criteria) :
    OneLine c.toString ↔ ∀ f ∈ c.present ++ c.absent, OneLine f.toString := by
  unfold Criteria.toString
  split
  · next hempty =>
    have hall : OneLine "ALL" := by decide
    simp_all
  · have hblank : OneLine " " := by decide
    rw [OneLine, AllChars.intercalate_iff hblank]
    simp [or_imp, forall_and, oneLine_keys]

end Postroom.Wire
