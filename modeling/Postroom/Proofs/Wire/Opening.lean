import Postroom.Proofs.Wire.Searching

/-! # What is reported of a mailbox that is opened

A server that opens a mailbox says line by line what there is to know of it: its flags, how many
messages it holds, and with codes which identifiers come next, which message was not seen and
whether messages can be changed.  A client adds line by line to what it knows.  Looked at from the
end, a number is the last one told and the flags are all the flags told (`report`), because one more
line changes what is reported just as it changes what the client knows (`addStatus?_report`).

The completion is no such line.  Of its code a client keeps only where copies went, and a server
that says there, and nowhere else, that the mailbox was opened for reading is not heard
(`opening_reported_iff`, `read_only_in_completion_lost`).
-/

namespace Postroom.Wire

open Text Reader

/-! ### What the lines say -/

/-- The flags that may be changed for good, as far as a code tells them. -/
def Code.marks : Code → List Flag
  | .permanentFlags names => names.map Flag.ofString
  | _ => []

/-- The number of the first message not seen, if a code tells it. -/
def Code.unseen? : Code → Option Nat
  | .unseen n => some n
  | _ => none

/-- The next identifier to be given, if a code tells it. -/
def Code.uidNext? : Code → Option Nat
  | .uidNext n => some n
  | _ => none

/-- The validity of identifiers, if a code tells it. -/
def Code.uidValidity? : Code → Option Nat
  | .uidValidity n => some n
  | _ => none

namespace Response

/-- The flags in use that a response tells. -/
def marks : Response → List Flag
  | .flags names => names.map Flag.ofString
  | _ => []

/-- The number of messages, if a response tells it. -/
def messages? : Response → Option Nat
  | .messages n => some n
  | _ => none

/-- The number of messages that arrived last, if a response tells it. -/
def recent? : Response → Option Nat
  | .recent n => some n
  | _ => none

/-- The code of a success that belongs to no command. -/
def code? : Response → Option Code
  | .status .ok remark => remark.code
  | _ => none

end Response

/-- The last value that one of some responses gives. -/
def lastTold {α : Type} (value? : Response → Option α) (rs : List Response) : Option α :=
  (rs.filterMap value?).getLast?

/-- What responses tell of a mailbox: of each number the last one, of flags all of them. -/
def report (rs : List Response) : MailboxStatus where
  flags := rs.flatMap Response.marks
  messages := (lastTold Response.messages? rs).getD 0
  recent := (lastTold Response.recent? rs).getD 0
  unseen := lastTold (fun r => r.code?.bind Code.unseen?) rs
  permanentFlags := (rs.filterMap Response.code?).flatMap Code.marks
  uidNext := lastTold (fun r => r.code?.bind Code.uidNext?) rs
  uidValidity := lastTold (fun r => r.code?.bind Code.uidValidity?) rs
  readOnly := rs.any fun r => r.code? = some .readOnly

/-- Whether a mailbox was opened for reading, as far as the server tells it: with success that
belongs to no command, or with the completion. -/
def ToldReadOnly (rs : List Response) (completion : Remark) : Prop :=
  (∃ r ∈ rs, r.code? = some .readOnly) ∨ completion.code = some .readOnly

theorem readOnly_report {rs : List Response} :
    (report rs).readOnly = true ↔ ∃ r ∈ rs, r.code? = some .readOnly := by
  simp [report]

section

variable {α : Type} {value? : Response → Option α} {r : Response}

/-- A later response has the last word if it gives a value, and none otherwise. -/
theorem lastTold_concat (rs : List Response) :
    lastTold value? (rs ++ [r]) = (value? r).or (lastTold value? rs) := by
  cases hr : value? r with
  | none => simp [lastTold, hr]
  | some a => simp [lastTold, hr]

end

/-- One more response adds to what is reported what a client adds to what it knows. -/
theorem addStatus?_report (before : List Response) (r : Response) :
    (addStatus? (report before) r).getD (report before) = report (before ++ [r]) := by
  unfold report
  simp only [lastTold_concat, List.flatMap_append, List.filterMap_append, List.any_append]
  cases r with
  | status s remark =>
    obtain ⟨code, text⟩ := remark
    cases s with
    | ok =>
      cases code with
      | none =>
        simp [addStatus?, Response.marks, Response.messages?, Response.recent?, Response.code?]
      | some code =>
        cases code <;>
          simp [addStatus?, addCode, Response.marks, Response.messages?, Response.recent?,
            Response.code?, Code.marks, Code.unseen?, Code.uidNext?, Code.uidValidity?]
    | _ => simp [addStatus?, Response.marks, Response.messages?, Response.recent?, Response.code?]
  | _ => simp [addStatus?, Response.marks, Response.messages?, Response.recent?, Response.code?]

/-- A client that goes through responses knows what they report.  By induction on the responses that
are still to come. -/
theorem collect_report {rs : List Response} (hrs : ∀ r ∈ rs, r.isAside = true)
    (before : List Response) :
    collect addStatus? (report before) rs = .ok (report (before ++ rs)) := by
  induction rs generalizing before with
  | nil => simp [collect]
  | cons r rs ih =>
    obtain ⟨hr, hrs⟩ := List.forall_mem_cons.mp hrs
    have hstep := addStatus?_report before r
    have hrest := ih hrs (before ++ [r])
    rw [List.append_assoc, List.singleton_append] at hrest
    rw [collect]
    cases hadd : addStatus? (report before) r with
    | some s =>
      rw [hadd, Option.getD_some] at hstep
      simpa only [hstep] using hrest
    | none =>
      rw [hadd, Option.getD_none] at hstep
      simp only [Response.unasked_of_isAside hr, Except.bind]
      rw [hstep, hrest]

theorem opened_of_forall₂ {data : List (List UInt8)} {rs : List Response}
    (hdata : List.Forall₂ IsWhole data rs) (hrs : ∀ r ∈ rs, r.isAside = true) :
    opened data.flatten = .ok (report rs) :=
  collectFrom_of_forall₂ hdata (collect_report hrs [])

/-! ### Lines as written -/

/-- Flags that can be sent. -/
abbrev Marks : Type := { flags : List Flag // ∀ f ∈ flags, checkFlag f = .ok () }

/-- A code with which a server says something of a mailbox. -/
inductive Note where
  /-- The first message not seen. -/
  | unseen (n : Numeral)
  /-- The next identifier to be given. -/
  | uidNext (n : Numeral)
  /-- The validity of identifiers. -/
  | uidValidity (n : Numeral)
  /-- Flags that can be changed for good. -/
  | permanentFlags (flags : Marks)
  /-- The mailbox was opened for reading. -/
  | readOnly
  /-- The mailbox was opened for changes. -/
  | readWrite

namespace Note

/-- A code as written between its brackets. -/
def bytes : Note → List UInt8
  | unseen n => Utf8.bytes "UNSEEN " ++ Utf8.bytes n.val.repr
  | uidNext n => Utf8.bytes "UIDNEXT " ++ Utf8.bytes n.val.repr
  | uidValidity n => Utf8.bytes "UIDVALIDITY " ++ Utf8.bytes n.val.repr
  | permanentFlags flags => Utf8.bytes "PERMANENTFLAGS " ++ flagBytes flags.val
  | readOnly => Utf8.bytes "READ-ONLY"
  | readWrite => Utf8.bytes "READ-WRITE"

/-- The code that it is. -/
def code : Note → Code
  | unseen n => .unseen n
  | uidNext n => .uidNext n
  | uidValidity n => .uidValidity n
  | permanentFlags flags => .permanentFlags (flags.val.map Flag.toString)
  | readOnly => .readOnly
  | readWrite => .readWrite

/-- A code is read up to its closing bracket. -/
theorem codeBody_bytes (note : Note) (rest : List UInt8) :
    codeBody (note.bytes ++ 93 :: rest) = .done note.code (93 :: rest) := by
  have hnumber : ∀ n : Numeral,
      number (Utf8.bytes n.val.repr ++ 93 :: rest) = .done n (93 :: rest) :=
    fun n => number_repr n.property rfl rest
  unfold codeBody
  cases note with
  | unseen n =>
    have hword : Utf8.bytes "UNSEEN " = [85, 78, 83, 69, 69, 78, 32] := by decide +kernel
    rw [bytes, hword, List.append_assoc]
    iterate 7 refine (choice_of_fail rfl).trans ?_
    refine choice_of_done ?_
    change Reader.bind number _ (Utf8.bytes n.val.repr ++ 93 :: rest) = _
    exact (bind_of_done (hnumber n)).trans rfl
  | uidNext n =>
    have hword : Utf8.bytes "UIDNEXT " = [85, 73, 68, 78, 69, 88, 84, 32] := by decide +kernel
    rw [bytes, hword, List.append_assoc]
    iterate 6 refine (choice_of_fail rfl).trans ?_
    refine choice_of_done ?_
    change Reader.bind number _ (Utf8.bytes n.val.repr ++ 93 :: rest) = _
    exact (bind_of_done (hnumber n)).trans rfl
  | uidValidity n =>
    have hword : Utf8.bytes "UIDVALIDITY " =
        [85, 73, 68, 86, 65, 76, 73, 68, 73, 84, 89, 32] := by decide +kernel
    rw [bytes, hword, List.append_assoc]
    iterate 5 refine (choice_of_fail rfl).trans ?_
    refine choice_of_done ?_
    change Reader.bind number _ (Utf8.bytes n.val.repr ++ 93 :: rest) = _
    exact (bind_of_done (hnumber n)).trans rfl
  | permanentFlags flags =>
    have hword : Utf8.bytes "PERMANENTFLAGS " =
        [80, 69, 82, 77, 65, 78, 69, 78, 84, 70, 76, 65, 71, 83, 32] := by decide +kernel
    rw [bytes, hword, List.append_assoc]
    iterate 4 refine (choice_of_fail rfl).trans ?_
    refine choice_of_done ?_
    change Reader.bind flagList _ (flagBytes flags.val ++ 93 :: rest) = _
    rw [bind_of_done (flagList_flagBytes flags.property _)]
    rfl
  | readOnly =>
    have hword : Utf8.bytes "READ-ONLY" = [82, 69, 65, 68, 45, 79, 78, 76, 89] := by decide +kernel
    rw [bytes, hword]
    iterate 8 refine (choice_of_fail rfl).trans ?_
    exact choice_of_done rfl
  | readWrite =>
    have hword : Utf8.bytes "READ-WRITE" = [82, 69, 65, 68, 45, 87, 82, 73, 84, 69] := by
      decide +kernel
    rw [bytes, hword]
    iterate 9 refine (choice_of_fail rfl).trans ?_
    exact choice_of_done rfl

end Note

/-- A text without quotes. -/
abbrev Wording : Type := { s : String // AllChars isBare s }

/-- A line with which a server says something of a mailbox. -/
inductive Notice where
  /-- Flags in use. -/
  | flags (flags : Marks)
  /-- The number of messages. -/
  | messages (n : Numeral)
  /-- The number of messages that arrived last. -/
  | recent (n : Numeral)
  /-- Success, with a code. -/
  | success (note : Note) (text : Wording)

namespace Notice

/-- A line as written. -/
def bytes : Notice → List UInt8
  | flags marks => Utf8.bytes "* FLAGS " ++ flagBytes marks.val ++ [13, 10]
  | messages n => (Aside.messages n).bytes
  | recent n => (Aside.recent n).bytes
  | success note text =>
    Utf8.bytes "* OK [" ++ note.bytes ++ Utf8.bytes ("] " ++ text.val) ++ [13, 10]

/-- The response that it is. -/
def response : Notice → Response
  | flags marks => .flags (marks.val.map Flag.toString)
  | messages n => .messages n
  | recent n => .recent n
  | success note text => .status .ok ⟨some note.code, some text.val⟩

theorem isAside_response (notice : Notice) : notice.response.isAside = true := by
  cases notice <;> rfl

/-- A text behind a blank is read up to the end of the line, with the blank. -/
theorem text_wording (text : Wording) :
    Wire.text (32 :: (Utf8.bytes text.val ++ [13, 10])) = .done (" " ++ text.val) [13, 10] := by
  have hblank : Utf8.bytes (" " ++ text.val) = 32 :: Utf8.bytes text.val := by
    have hspace : Utf8.bytes " " = [32] := by decide +kernel
    rw [Utf8.bytes_append, hspace, List.singleton_append]
  have hbare : AllChars isBare (" " ++ text.val) := by
    intro ch hch
    rw [String.toList_append, List.mem_append] at hch
    rcases hch with hch | hch
    · obtain rfl : ch = ' ' := by simpa using hch
      decide
    · exact text.property ch hch
  have hbytes : ∀ b ∈ Utf8.bytes (" " ++ text.val), isTextByte b = true :=
    forall_mem_bytes (ascii_of_isBare hbare) hbare (by decide)
  have htake := takeWhile_append (b := 13) hbytes (by decide) [10]
  rw [← List.cons_append, ← hblank]
  change Reader.bind _ _ _ = _
  rw [bind_of_done htake, asciiString_bytes hbare]
  rfl

/-- A code and a text as written, up to the end of the line. -/
def remarkBytes (note : Note) (text : Wording) : List UInt8 :=
  91 :: (note.bytes ++ 93 :: 32 :: (Utf8.bytes text.val ++ [13, 10]))

/-- A code and a text are read one after the other, and the blank between them is left out. -/
theorem remark_remarkBytes (note : Note) (text : Wording) :
    remark (remarkBytes note text) = .done ⟨some note.code, some text.val⟩ [13, 10] := by
  have hcode : code (remarkBytes note text) =
      .done note.code (32 :: (Utf8.bytes text.val ++ [13, 10])) := by
    change Reader.bind codeBody _ _ = _
    rw [bind_of_done (note.codeBody_bytes _)]
    rfl
  have hoptional : optional code (remarkBytes note text) =
      .done (some note.code) (32 :: (Utf8.bytes text.val ++ [13, 10])) :=
    orElse_of_done ((bind_of_done hcode).trans rfl)
  have hdrop : ((" " ++ text.val).drop 1).toString = text.val := by
    have hlist : ((" " ++ text.val).drop 1).copy.toList = text.val.toList := by
      simp [String.toList_copy_drop]
    exact String.toList_injective hlist
  have hnonempty : (" " ++ text.val).isEmpty = false := by
    simp
  change Reader.bind (optional code) _ _ = _
  rw [bind_of_done hoptional]
  change Reader.bind Wire.text _ _ = _
  rw [bind_of_done (text_wording text)]
  simp only [hnonempty, hdrop]
  rfl

/-- A line is read as what it says. -/
theorem isWhole (notice : Notice) : IsWhole notice.bytes notice.response := by
  cases notice with
  | messages n => exact (Aside.messages n).isWhole
  | recent n => exact (Aside.recent n).isWhole
  | flags marks =>
    refine isWhole_of_accepted ?_
    have hword : Utf8.bytes "* FLAGS " = [42, 32, 70, 76, 65, 71, 83, 32] := by decide +kernel
    rw [bytes, hword, List.append_assoc]
    refine response_of_mailboxData rfl (choice_of_done ?_)
    change Reader.bind flagList _ (flagBytes marks.val ++ [13, 10]) = _
    rw [bind_of_done (flagList_flagBytes marks.property _)]
    rfl
  | success note text =>
    refine isWhole_of_accepted ?_
    have hword : Utf8.bytes "* OK [" = [42, 32, 79, 75, 32, 91] := by decide +kernel
    have hclosing : Utf8.bytes "] " = [93, 32] := by decide +kernel
    have hbytes : bytes (success note text) =
        42 :: 32 :: 79 :: 75 :: 32 :: remarkBytes note text := by
      simp [bytes, remarkBytes, Utf8.bytes_append, hword, hclosing]
    have hoptional : optional (spaced remark) (32 :: remarkBytes note text) =
        .done (some ⟨some note.code, some text.val⟩) [13, 10] :=
      orElse_of_done ((bind_of_done (remark_remarkBytes note text)).trans rfl)
    have hremark : optionalRemark (32 :: remarkBytes note text) =
        .done ⟨some note.code, some text.val⟩ [13, 10] := by
      change Reader.bind (optional (spaced remark)) _ _ = _
      rw [bind_of_done hoptional]
      rfl
    have hsuccess : (do
          let s ← status
          return Response.status s (← optionalRemark)) (79 :: 75 :: 32 :: remarkBytes note text) =
        .done (success note text).response [13, 10] := by
      change Reader.bind optionalRemark _ _ = _
      rw [bind_of_done hremark]
      rfl
    rw [hbytes]
    unfold Wire.response
    refine (choice_of_fail rfl).trans (choice_of_done ?_)
    change Reader.bind (choice _) _ _ = _
    exact (bind_of_done (choice_of_done hsuccess)).trans rfl

end Notice

namespace Client

open Postroom.Wire.Action

/-- **A client that opens a mailbox reports what the lines before the completion say of it.**  Of
each number it reports the last one told, and of the flags all of them; what servers may say at any
time it passes over, and what follows the completion it leaves.  Opening for reading reports the
same, and that messages cannot be changed.  But the completion is not among the lines: that the
server has opened the mailbox for reading only is reported as the server tells it exactly if it is
not told by the completion alone. -/
theorem opening_reported_iff (c : Client) (hopen : c.blocked = none) {completion : List UInt8}
    {remark : Remark}
    (hcompletion : IsWhole completion (.completion ("a" ++ (c.tag + 1).repr) .ok remark))
    (rest : List UInt8) :
    let answered := fun (data : List (List UInt8)) =>
      { c with incoming := linesOf (data.flatten ++ completion ++ rest) }
    (∀ mailbox data rs, List.Forall₂ IsWhole data rs → (∀ r ∈ rs, r.isAside = true) →
      (∃ after, exec (select mailbox) (answered data) = (.ok (report rs), after) ∧
        after.incoming = linesOf rest) ∧
      (∃ after, exec (examine mailbox) (answered data) =
          (.ok { report rs with readOnly := true }, after) ∧ after.incoming = linesOf rest) ∧
      (((report rs).readOnly = true ↔ ToldReadOnly rs remark) ↔
        (remark.code = some .readOnly → ∃ r ∈ rs, r.code? = some .readOnly))) ∧
      ∀ mailbox (notices : List Notice), ∃ after,
        exec (select mailbox) (answered (notices.map Notice.bytes)) =
          (.ok (report (notices.map Notice.response)), after) ∧ after.incoming = linesOf rest := by
  intro answered
  have hrun : ∀ data rs, List.Forall₂ IsWhole data rs → (∀ r ∈ rs, r.isAside = true) → ∀ text,
      ∃ copied after, exec (run text) (answered data) = (.ok ⟨data.flatten, copied⟩, after) ∧
        after.incoming = linesOf rest := by
    intro data rs hdata hrs text
    have hnone : ∀ bs ∈ data, ∃ r, IsWhole bs r ∧ r.isCompletion = false :=
      exists_isWhole_of_forall₂ hdata fun r hr => Response.isCompletion_of_isAside (hrs r hr)
    exact exec_run_of_ok (c := answered data) hopen hnone hcompletion rfl text
  have hselect : ∀ mailbox data rs, List.Forall₂ IsWhole data rs → (∀ r ∈ rs, r.isAside = true) →
      ∃ after, exec (select mailbox) (answered data) = (.ok (report rs), after) ∧
        after.incoming = linesOf rest := by
    intro mailbox data rs hdata hrs
    obtain ⟨copied, after, hexec, hafter⟩ := hrun data rs hdata hrs
      ("SELECT " ++ inQuotes (MailboxName.encode mailbox))
    refine ⟨after, ?_, hafter⟩
    rw [select, exec_bind, exec_liftM, quotedMailbox_eq]
    simp only [exec_bind, hexec, exec_liftM, opened_of_forall₂ hdata hrs]
  refine ⟨fun mailbox data rs hdata hrs => ⟨hselect mailbox data rs hdata hrs, ?_, ?_⟩,
    fun mailbox notices => ?_⟩
  · obtain ⟨copied, after, hexec, hafter⟩ := hrun data rs hdata hrs
      ("EXAMINE " ++ inQuotes (MailboxName.encode mailbox))
    refine ⟨after, ?_, hafter⟩
    rw [examine, exec_bind, exec_liftM, quotedMailbox_eq]
    simp only [exec_bind, hexec, exec_liftM, opened_of_forall₂ hdata hrs, exec_pure]
  · rw [readOnly_report, ToldReadOnly]
    constructor
    · exact fun htold hcode => htold.mpr (.inr hcode)
    · exact fun hcode => ⟨.inl, fun htold => htold.elim id hcode⟩
  · refine hselect mailbox _ _ ?_ ?_
    · rw [List.forall₂_map_left_iff, List.forall₂_map_right_iff]
      exact List.forall₂_same.mpr fun notice _ => notice.isWhole
    · intro r hr
      obtain ⟨notice, -, rfl⟩ := List.mem_map.mp hr
      exact notice.isAside_response

/-- Two numbers of messages and two lists of flags, and a mailbox that was opened for reading as the
data and the completion say. -/
theorem read_only_in_data_reported :
    let c := ofScript [] none none
    let data := [Utf8.bytes "* 4 EXISTS\r\n", Utf8.bytes "* FLAGS (\\Seen work)\r\n",
      Utf8.bytes "* OK [UIDNEXT 9] next\r\n", Utf8.bytes "* OK [READ-ONLY]\r\n",
      Utf8.bytes "* FLAGS (\\Draft)\r\n", Utf8.bytes "* 5 EXISTS\r\n"]
    let completion := Utf8.bytes "a1 OK [READ-ONLY] done\r\n"
    ∃ after,
      exec (select "INBOX") { c with incoming := linesOf (data.flatten ++ completion ++ []) } =
        (.ok ⟨[.seen, .keyword "work", .draft], 5, 0, none, [], some 9, none, true⟩, after) ∧
      after.incoming = linesOf [] := by
  intro c data completion
  have hcompletion : IsWhole completion (.completion ("a" ++ (c.tag + 1).repr) .ok
      ⟨some .readOnly, some "done"⟩) := by decide +kernel
  have hdata : List.Forall₂ IsWhole data [.messages 4, .flags ["\\Seen", "work"],
      .status .ok ⟨some (.uidNext 9), some "next"⟩, .status .ok ⟨some .readOnly, none⟩,
      .flags ["\\Draft"], .messages 5] := by
    iterate 6 refine .cons (by decide +kernel) ?_
    exact .nil
  have hreport : report [.messages 4, .flags ["\\Seen", "work"],
      .status .ok ⟨some (.uidNext 9), some "next"⟩, .status .ok ⟨some .readOnly, none⟩,
      .flags ["\\Draft"], .messages 5] =
        ⟨[.seen, .keyword "work", .draft], 5, 0, none, [], some 9, none, true⟩ := by
    decide +kernel
  rw [← hreport]
  exact ((opening_reported_iff c rfl hcompletion []).1 "INBOX" data _ hdata (by decide)).1

/-- **What the completion alone says is lost**: the server has opened the mailbox for reading and
says so with the completion, and the client reports a mailbox that can be changed. -/
theorem read_only_in_completion_lost :
    let completion := Utf8.bytes "a1 OK [READ-ONLY] done\r\n"
    IsWhole completion (.completion "a1" .ok ⟨some .readOnly, some "done"⟩) ∧
      (exec (select "INBOX") (ofScript (Utf8.bytes "* 1 EXISTS\r\n" ++ completion) none none)).1 =
        .ok ⟨[], 1, 0, none, [], none, none, false⟩ := by
  decide +kernel

end Client

end Postroom.Wire
