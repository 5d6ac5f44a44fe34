import Postroom.Proofs.Text.Words
import Postroom.Proofs.Wire.Rendering
import Postroom.Proofs.Wire.Sending

/-! # Flags on the wire

The requests that set flags write them in parentheses, with a blank between each two.  A keyword
goes into the list as it is, so it is refused if it could be taken for something else there: if it
is empty, or has a character that is no part of an atom, where one backslash in front is left out
(`refusedFor_iff`).  The first keyword that is refused decides for the whole list, and nothing is
written (`flagText_eq_error_iff`).  Otherwise the words of the list are the flags again, system
flags and keywords alike (`isFlagList_join`), so what is meant in memory is what a server reads
(`flags_carried`).
-/

namespace Postroom

namespace Flag

theorem isSystem_of_system? {name : String} {f : Flag} (h : system? name = some f) :
    f.isSystem = true := by
  unfold system? at h
  split at h <;> cases h <;> rfl

/-- A flag that was read from a name is read back from its own name. -/
theorem ofString_toString_ofString (name : String) :
    ofString (ofString name).toString = ofString name := by
  cases h : system? name with
  | none => simp [ofString, h]
  | some f =>
    have hname : ofString name = f := by simp [ofString, h]
    rw [hname, ofString_toString_of_isSystem (isSystem_of_system? h)]

end Flag

namespace Wire

open Text MailboxName

/-! ### Keywords that are refused -/

/-- A character that is no part of an atom: a blank or another control character, one beyond ASCII,
or one with a meaning of its own. -/
def IsStray (c : Char) : Prop :=
  c = ' ' ∨ c.toNat < 32 ∨ 127 ≤ c.toNat ∨ c ∈ ['(', ')', '{', '%', '*', '"', '\\', ']']

theorem isStray_iff {c : Char} : IsStray c ↔ isAtomChar c = false := by
  have hlow : '!' ≤ c ↔ 33 ≤ c.toNat := by rw [Char.le_def, UInt32.le_iff_toNat_le]; rfl
  have hhigh : c ≤ '~' ↔ c.toNat ≤ 126 := by rw [Char.le_def, UInt32.le_iff_toNat_le]; rfl
  have hblank : c = ' ' ↔ c.toNat = 32 := by rw [← Char.toNat_inj]; rfl
  rw [IsStray, hblank, ← Bool.not_eq_true, isAtomChar]
  simp only [Bool.and_eq_true, Bool.not_eq_true', decide_eq_true_eq, hlow, hhigh,
    List.contains_eq_mem, decide_eq_false_iff_not]
  by_cases hmem : c ∈ ['(', ')', '{', '%', '*', '"', '\\', ']']
  · simp [hmem]
  · simp only [hmem, or_false, not_false_eq_true, and_true]
    omega

/-- The character for which a keyword is refused: the first one that is no part of an atom, where a
backslash in front is left out, or the backslash if nothing is left. -/
inductive RefusedFor (name : String) : Char → Prop
  | empty (h : withoutBackslash name.toList = []) : RefusedFor name '\\'
  | stray {before after : List Char} {c : Char}
      (h : withoutBackslash name.toList = before ++ c :: after)
        (hbefore : ∀ d ∈ before, ¬ IsStray d)
      (hc : IsStray c) : RefusedFor name c

theorem refusedFor_iff {name : String} {c : Char} :
    RefusedFor name c ↔ checkFlag (.keyword name) = .error (.invalidChar c) := by
  have hfind (cs : List Char) : cs.find? (!isAtomChar ·) = some c ↔
      ∃ before after, cs = before ++ c :: after ∧ (∀ d ∈ before, ¬ IsStray d) ∧ IsStray c := by
    simp only [List.find?_eq_some_iff_append, isStray_iff]
    grind
  cases hname : withoutBackslash name.toList with
  | nil =>
    have hchecked : checkFlag (.keyword name) = .error (.invalidChar '\\') := by
      simp [checkFlag, hname]
    rw [hchecked]
    constructor
    · rintro (_ | ⟨h, -, -⟩)
      · rfl
      · simp [hname] at h
    · intro h
      cases h
      exact .empty hname
  | cons first rest =>
    have hchecked : checkFlag (.keyword name) = .error (.invalidChar c) ↔
        (first :: rest).find? (!isAtomChar ·) = some c := by
      simp only [checkFlag, hname]
      cases (first :: rest).find? (!isAtomChar ·) <;> simp
    rw [hchecked, hfind]
    constructor
    · rintro (h | ⟨h, hbefore, hc⟩)
      · simp [hname] at h
      · exact ⟨_, _, hname ▸ h, hbefore, hc⟩
    · rintro ⟨before, after, h, hbefore, hc⟩
      exact .stray (hname.trans h) hbefore hc

/-- A flag is refused for a character, or not at all. -/
theorem checkFlag_eq_ok_or (f : Flag) :
    checkFlag f = .ok () ∨ ∃ c, checkFlag f = .error (.invalidChar c) := by
  unfold checkFlag
  split
  · split
    · exact .inr ⟨_, rfl⟩
    · split
      · exact .inr ⟨_, rfl⟩
      · exact .inl rfl
  · exact .inl rfl

/-- A flag that is refused for no character is not refused. -/
theorem checkFlag_eq_ok_iff {f : Flag} :
    checkFlag f = .ok () ↔ ∀ name c, f = .keyword name → ¬ RefusedFor name c := by
  constructor
  · rintro h name c rfl hrefused
    rw [refusedFor_iff, h] at hrefused
    cases hrefused
  · intro h
    refine (checkFlag_eq_ok_or f).resolve_right ?_
    rintro ⟨c, hc⟩
    cases f with
    | keyword name => exact h name c rfl (refusedFor_iff.mpr hc)
    | _ => cases hc

/-- Flags are refused for the character for which the first keyword is that is refused at all. -/
def FirstRefused (flags : List Flag) (c : Char) : Prop :=
  ∃ before name after, flags = before ++ .keyword name :: after ∧
    (∀ f ∈ before, ∀ other d, f = .keyword other → ¬ RefusedFor other d) ∧ RefusedFor name c

theorem not_firstRefused_nil {c : Char} : ¬ FirstRefused [] c := by
  rintro ⟨before, name, after, h, -⟩
  exact List.append_ne_nil_of_right_ne_nil before (List.cons_ne_nil _ after) h.symm

theorem firstRefused_cons {f : Flag} {flags : List Flag} {c : Char} :
    FirstRefused (f :: flags) c ↔
      checkFlag f = .error (.invalidChar c) ∨ checkFlag f = .ok () ∧ FirstRefused flags c := by
  constructor
  · rintro ⟨before, name, after, h, hbefore, hrefused⟩
    cases before with
    | nil =>
      obtain ⟨rfl, -⟩ := List.cons.inj h
      exact .inl (refusedFor_iff.mp hrefused)
    | cons first before =>
      obtain ⟨rfl, rfl⟩ := List.cons.inj h
      obtain ⟨hfirst, hbefore⟩ := List.forall_mem_cons.mp hbefore
      exact .inr ⟨checkFlag_eq_ok_iff.mpr hfirst, before, name, after, rfl, hbefore, hrefused⟩
  · rintro (h | ⟨h, before, name, after, rfl, hbefore, hrefused⟩)
    · cases f with
      | keyword name => exact ⟨[], name, flags, rfl, by simp, refusedFor_iff.mpr h⟩
      | _ => cases h
    · exact ⟨f :: before, name, after, rfl,
        List.forall_mem_cons.mpr ⟨checkFlag_eq_ok_iff.mp h, hbefore⟩, hrefused⟩

/-- The first keyword that is refused decides for all flags.  By induction on the flags. -/
theorem flagText_eq_error_iff {flags : List Flag} {fault : Fault} :
    flagText flags = .error fault ↔ ∃ c, fault = .invalidChar c ∧ FirstRefused flags c := by
  have htext {flags : List Flag} :
      flagText flags = .error fault ↔ flags.forM checkFlag = .error fault := by
    rw [flagText]
    cases flags.forM checkFlag <;> simp [bind, Except.bind, pure, Except.pure]
  rw [htext]
  induction flags with
  | nil => simp [not_firstRefused_nil, pure, Except.pure]
  | cons f flags ih =>
    change (checkFlag f >>= fun _ => flags.forM checkFlag) = .error fault ↔ _
    simp only [firstRefused_cons]
    rcases checkFlag_eq_ok_or f with h | ⟨c, h⟩
    · simpa [h, bind, Except.bind] using ih
    · simp [h, bind, Except.bind, eq_comm]

/-! ### Lists of flags -/

/-- Whether a character can stand in a flag that is sent. -/
def isMarkChar (c : Char) : Bool := isAtomChar c || c == '\\' || c == '*'

/-- A flag that can be sent has a name without blanks and parentheses. -/
theorem isMarkChar_of_checkFlag {f : Flag} (h : checkFlag f = .ok ()) :
    f.toString ≠ "" ∧ AllChars isMarkChar f.toString := by
  cases f with
  | keyword name =>
    obtain ⟨hne, hatom⟩ := checkFlag_keyword_iff.mp h
    refine ⟨?_, fun c hc => ?_⟩
    · rintro heq
      simp only [Flag.toString_keyword] at heq
      subst heq
      exact hne rfl
    · rcases mem_of_mem_withoutBackslash hc with hmem | rfl
      · simp [isMarkChar, hatom c hmem]
      · rfl
  | _ => exact ⟨by decide, by decide⟩

/-- A text is read as flags when it stands in parentheses: it has none itself, the words between its
blanks name the flags, and the grammar of the wire reads the whole as these words. -/
structure IsFlagList (flags : List Flag) (inner : String) : Prop where
  /-- The list ends with the parenthesis behind the text. -/
  closed : '(' ∉ inner.toList ∧ ')' ∉ inner.toList
  /-- The words are the flags, in order. -/
  named : (words inner).map Flag.ofString = flags
  /-- So the grammar reads them. -/
  read (rest : List UInt8) :
    flagList (Utf8.bytes ("(" ++ inner ++ ")") ++ rest) = .done (words inner) rest

/-- Flags that can be sent and are read back from their own names are read as themselves. -/
theorem isFlagList_join {flags : List Flag} (hnamed : ∀ f ∈ flags, Flag.ofString f.toString = f)
    (h : ∀ f ∈ flags, checkFlag f = .ok ()) : IsFlagList flags (Flag.join flags) := by
  have hwords : words (Flag.join flags) = flags.map Flag.toString := by
    refine words_intercalate_of_isWord ?_
    simp only [List.forall_mem_map]
    intro f hf
    obtain ⟨hne, hchars⟩ := isMarkChar_of_checkFlag (h f hf)
    exact ⟨hne, fun hmem => absurd (hchars _ hmem) (by decide)⟩
  have hchars : AllChars (fun c => isMarkChar c || c == ' ') (Flag.join flags) := by
    rw [Flag.join, AllChars.intercalate_iff (by decide)]
    simp only [List.forall_mem_map]
    exact fun f hf => (isMarkChar_of_checkFlag (h f hf)).2.mono fun c hc => by simp [hc]
  have hbytes : Utf8.bytes ("(" ++ Flag.join flags ++ ")") = flagBytes flags := by
    have hopening : Utf8.bytes "(" = [40] := by decide +kernel
    have hclosing : Utf8.bytes ")" = [41] := by decide +kernel
    rw [Utf8.bytes_append, Utf8.bytes_append, hopening, hclosing]
    rfl
  refine ⟨⟨fun hmem => ?_, fun hmem => ?_⟩, ?_, fun rest => ?_⟩
  · exact absurd (hchars _ hmem) (by decide)
  · exact absurd (hchars _ hmem) (by decide)
  · rw [hwords, List.map_map]
    exact (List.map_congr_left hnamed).trans (List.map_id flags)
  · rw [hbytes, hwords]
    exact flagList_flagBytes h rest

namespace Client

/-- A request with flags is refused for one of them, or writes them in a list.  `text` is the text
of the command around the words of the list. -/
structure Marks (c : Client) (r : Request) (flags : List Flag) (text : String → String) : Prop where
  /-- The call fails before anything is done exactly if the flags are refused, for the same
  character. -/
  refused (char : Char) : FirstRefused flags char ↔
    (record c (.request r)).outcome = .error (.invalidChar char) ∧ (record c (.request r)).after = c
  /-- Otherwise the list is written, if anything can be. -/
  written : (∀ char, ¬ FirstRefused flags char) → ∃ inner, IsFlagList flags inner ∧
    (c.blocked = none →
      commandLine (c.tag + 1) (text inner) <+: (record c (.request r)).written)

variable {c : Client} {call : Call} {text : String}

/-- The line of a command is written first. -/
theorem line_of_command (hopen : c.blocked = none) (h : call.command = .ok (some text)) :
    commandLine (c.tag + 1) text <+: (record c call).written := by
  rcases written_of_sent (sent_of_command hopen h) with hwritten | ⟨bs, -, hwritten⟩
  · exact hwritten ▸ List.prefix_refl _
  · exact hwritten ▸ List.prefix_append _ _

/-- A command whose text is put together from flags that are checked before does with them what it
should. -/
theorem marks_of_command {r : Request} {flags : List Flag} {text : String → String}
    (hnamed : ∀ f ∈ flags, Flag.ofString f.toString = f)
    (hcommand : (Call.request r).command = (flagText flags).map fun inner => some (text inner))
    (c : Client) : Marks c r flags text := by
  have hrefused {char : Char} (h : FirstRefused flags char) :
      (record c (.request r)).outcome = .error (.invalidChar char) ∧
        (record c (.request r)).after = c := by
    rw [flagText_eq_error_iff.mpr ⟨char, rfl, h⟩] at hcommand
    exact (conduct_of_command c hcommand).of_refused
  have hsent (h : ∀ char, ¬ FirstRefused flags char) : flagText flags = .ok (Flag.join flags) := by
    cases htext : flagText flags with
    | ok inner => rw [(flagText_eq_ok_iff.mp htext).2]
    | error fault =>
      obtain ⟨char, -, hchar⟩ := flagText_eq_error_iff.mp htext
      exact absurd hchar (h char)
  constructor
  · intro char
    refine ⟨hrefused, fun ⟨houtcome, hafter⟩ => ?_⟩
    by_cases hsome : ∃ other, FirstRefused flags other
    · obtain ⟨other, hother⟩ := hsome
      have hsame := houtcome.symm.trans (hrefused hother).1
      cases hsame
      exact hother
    · -- A tag would have been used up.
      rw [hsent (not_exists.mp hsome)] at hcommand
      have htag := (conduct_of_command c hcommand).tag_eq
      rw [hafter] at htag
      omega
  · intro hnone
    have htext := hsent hnone
    refine ⟨_, isFlagList_join hnamed (flagText_eq_ok_iff.mp htext).1, fun hopen => ?_⟩
    rw [htext] at hcommand
    exact line_of_command hopen hcommand

/-- **Flags mean on the wire what they mean in memory.**  Flags that were read from names are put
into a list whose words are these flags, in order, both to change those of messages and to add a
message; the latter writes no list for no flags.  The call fails before anything is done exactly if
a keyword is refused, for the first stray character of the first one. -/
theorem flags_carried (c : Client) (names : List String) :
    let flags := names.map Flag.ofString
    (∀ uids mode, uids ≠ [] → Marks c (.store uids mode flags) flags fun inner =>
      "UID STORE " ++ UidSet.render uids ++ " " ++ (mode.toString ++ ".SILENT (" ++ inner ++ ")")) ∧
      ∀ mailbox content, Marks c (.append mailbox flags content) flags fun inner =>
        "APPEND " ++ inQuotes (encode mailbox) ++
          (if flags.isEmpty then "" else " (" ++ inner ++ ")") ++
          " \x7b" ++ content.length.repr ++ "\x7d" := by
  intro flags
  have hnamed : ∀ f ∈ flags, Flag.ofString f.toString = f := by
    rw [List.forall_mem_map]
    exact fun name _ => Flag.ofString_toString_ofString name
  refine ⟨fun uids mode huids => marks_of_command hnamed ?_ c,
    fun mailbox content => marks_of_command hnamed ?_ c⟩
  · have hsome : ¬ uids.isEmpty = true := by simpa using huids
    simp only [Call.command, Order.ofRequest, if_neg hsome]
    cases flagText flags <;> rfl
  · change ((Order.append mailbox flags content).command >>= fun text => pure (some text)) = _
    rw [Order.command_append_eq, Order.flagArgument_eq]
    cases flagText flags <;> rfl

/-- System flags are written as they are spelled, a keyword keeps its backslash, and a blank in the
second of two keywords keeps a message back. -/
theorem mixed_flags_carried :
    let c := ofScript [] none none
    let flags : List Flag := [.seen, .mayCreate, .keyword "$Work", .keyword "\\Junk"]
    (∃ inner, IsFlagList flags inner ∧
      commandLine (c.tag + 1) ("UID STORE 2,4 " ++ ("+FLAGS.SILENT (" ++ inner ++ ")")) <+:
        (record c (.request (.store [4, 2] .add flags))).written) ∧
      (record c (.request (.append "Work" [.keyword "ok", .keyword "a b"] []))).outcome =
        .error (.invalidChar ' ') := by
  intro c flags
  have hflags : flags = ["\\SEEN", "\\*", "$Work", "\\Junk"].map Flag.ofString := by decide +kernel
  have hrefused : FirstRefused (["ok", "a b"].map Flag.ofString) ' ' :=
    ⟨[.keyword "ok"], "a b", [], by decide +kernel,
      List.forall_mem_singleton.mpr (checkFlag_eq_ok_iff.mp (by decide +kernel)),
      refusedFor_iff.mpr (by decide +kernel)⟩
  have hnone (char : Char) : ¬ FirstRefused flags char := by
    intro h
    have herror := flagText_eq_error_iff.mpr ⟨char, rfl, h⟩
    rw [show flagText flags = .ok "\\Seen \\* $Work \\Junk" by decide +kernel] at herror
    cases herror
  have hstore := (flags_carried c ["\\SEEN", "\\*", "$Work", "\\Junk"]).1 [4, 2] .add (by decide)
  rw [← hflags] at hstore
  obtain ⟨inner, hlist, hwritten⟩ := hstore.written hnone
  have hset : UidSet.render [4, 2] = "2,4" := by decide +kernel
  have happend := (flags_carried c ["ok", "a b"]).2 "Work" []
  rw [show ["ok", "a b"].map Flag.ofString = [.keyword "ok", .keyword "a b"] by decide +kernel]
    at happend hrefused
  refine ⟨⟨inner, hlist, ?_⟩, ((happend.refused ' ').mp hrefused).1⟩
  simpa [hset, StoreMode.toString] using hwritten rfl

end Client

end Wire

end Postroom
