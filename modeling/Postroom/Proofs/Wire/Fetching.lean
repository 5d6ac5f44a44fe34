import Postroom.Proofs.Wire.Rendering
import Postroom.Proofs.Wire.Streaming

/-! # Messages come back from the stream

A server tells of messages and may say other things between them (`Said`).  Each thing said is read
whole as the response it was written for (`Told.isWhole`, `Aside.isWhole`), although a header block
is a literal that may hold anything but the zero byte, lines that could be completions among it.  So
a client that fetches messages gets exactly those the server told of, in their order (`fetch_told`).
-/

namespace Postroom.Wire

open Text Reader

/-! ### What a server says -/

/-- A number that fits into a response. -/
abbrev Numeral : Type := { n : Nat // n ≤ Decimal.maxUInt32 }

/-- A message as a server tells of it. -/
structure Told where
  /-- Its number in the mailbox. -/
  number : Numeral
  /-- Its identifier. -/
  uid : Numeral
  /-- Its flags. -/
  flags : List Flag
  /-- Its header block. -/
  header : List UInt8
  /-- The flags can be sent, and none of them stands for all flags to come. -/
  sendable : ∀ f ∈ flags, f ≠ .mayCreate ∧ checkFlag f = .ok ()
  /-- There is no zero byte in the header block. -/
  zero_notMem : 0 ∉ header
  /-- The size of the header block fits into a response. -/
  size_le : header.length ≤ Decimal.maxUInt32

/-- Something else that a server says while it tells of messages. -/
inductive Aside where
  /-- The number of messages. -/
  | messages (n : Numeral)
  /-- The number of messages that arrived last. -/
  | recent (n : Numeral)
  /-- A message was removed. -/
  | removed (n : Numeral)

/-- Something that a server says. -/
inductive Said where
  /-- A message. -/
  | told (m : Told)
  /-- Something else. -/
  | aside (a : Aside)

namespace Told

variable (m : Told)

/-- What is said of a message, piece by piece. -/
def pieces : List (List UInt8 × Detail) :=
  [(Utf8.bytes ("UID " ++ m.uid.val.repr), .uid m.uid),
    (Utf8.bytes "FLAGS " ++ flagBytes m.flags, .flags (m.flags.map Flag.toString)),
    (Utf8.bytes "BODY[HEADER] " ++ literalBytes m.header, .section (some m.header))]

/-- A message as written. -/
def bytes : List UInt8 :=
  Utf8.bytes ("* " ++ m.number.val.repr ++ " FETCH (UID " ++ m.uid.val.repr ++ " FLAGS (" ++
    Flag.join m.flags ++ ") BODY[HEADER] \x7b" ++ m.header.length.repr ++ "\x7d\r\n") ++
    m.header ++ Utf8.bytes ")\r\n"

/-- The response that tells of a message. -/
def response : Response := .fetched m.number (m.pieces.map Prod.snd)

/-- The message as it was told, its flags as they are known by their names. -/
def fetched : Fetched :=
  ⟨m.number, some m.uid, m.flags.map fun f => Flag.ofString f.toString, none, some m.header⟩

end Told

namespace Aside

/-- The number in it. -/
def number : Aside → Numeral
  | messages n | recent n | removed n => n

/-- Its word. -/
def word : Aside → String
  | messages _ => "EXISTS"
  | recent _ => "RECENT"
  | removed _ => "EXPUNGE"

/-- Something said aside, as written. -/
def bytes (a : Aside) : List UInt8 :=
  Utf8.bytes ("* " ++ a.number.val.repr ++ " " ++ a.word ++ "\r\n")

/-- The response that it is. -/
def response : Aside → Response
  | messages n => .messages n
  | recent n => .recent n
  | removed n => .removed n

end Aside

namespace Said

/-- Something said, as written. -/
def bytes : Said → List UInt8
  | told m => m.bytes
  | aside a => a.bytes

/-- The response that it is. -/
def response : Said → Response
  | told m => m.response
  | aside a => a.response

/-- The message in it, if there is one. -/
def fetched? : Said → Option Fetched
  | told m => some m.fetched
  | aside _ => none

end Said

/-! ### Responses that begin with a number -/

section

variable {n : Nat} {more : List UInt8}

theorem word_of_repr {w : String}
    (hw : w.toList.head?.any (fun t => !isDigitByte (foldByte t.toUInt8)) = true) (n : Nat)
    (more : List UInt8) : word w (Utf8.bytes n.repr ++ more) = .fail := by
  cases hlist : w.toList with
  | nil => simp [hlist] at hw
  | cons t ts =>
    rw [hlist] at hw
    have ht : isDigitByte (foldByte t.toUInt8) = false := by simpa using hw
    rw [word, hlist, List.map_cons]
    exact anyCase_of_repr ht n _ more

/-- No status begins with a digit. -/
theorem status_of_repr (n : Nat) (more : List UInt8) :
    status (Utf8.bytes n.repr ++ more) = .fail := by
  unfold status
  iterate 5 refine (choice_of_fail (bind_of_fail (word_of_repr (by decide) n more))).trans ?_
  rfl

/-- Reads what is said of a mailbox after a number. -/
def mailboxWord (n : Nat) : Reader Response :=
  choice [do word " EXISTS"; return .messages n, do word " RECENT"; return .recent n]

/-- Reads what is said of a message after its number. -/
def messageWord (n : Nat) : Reader Response :=
  choice [do word " EXPUNGE"; return .removed n,
    do word " FETCH "; return .fetched n (← listOf1 detail)]

theorem mailboxData_of_repr (hn : n ≤ Decimal.maxUInt32) (more : List UInt8) :
    mailboxData (Utf8.bytes n.repr ++ 32 :: more) = mailboxWord n (32 :: more) := by
  have hnumber := number_repr hn (b := 32) rfl more
  have hword {α : Type} {w : String} (f : Unit → Reader α)
      (hw : w.toList.head?.any (fun t => !isDigitByte (foldByte t.toUInt8)) = true) :
      (word w).bind f (Utf8.bytes n.repr ++ 32 :: more) = .fail :=
    bind_of_fail (word_of_repr hw n _)
  -- Two of the eight readers begin with a number, and the others with a word.
  unfold mailboxData
  refine (choice_of_fail (bind_of_fail (hword _ (by decide)))).trans ?_
  refine orElse_eq (bind_of_done hnumber) ?_
  refine (choice_of_fail (hword _ (by decide))).trans ?_
  refine (choice_of_fail (hword _ (by decide))).trans ?_
  refine (choice_of_fail (bind_of_fail (hword _ (by decide)))).trans ?_
  refine orElse_eq (bind_of_done hnumber) ?_
  refine (choice_of_fail (bind_of_fail (hword _ (by decide)))).trans ?_
  refine (choice_of_fail (bind_of_fail (hword _ (by decide)))).trans ?_
  rfl

/-- A response that begins with a number is read by what follows the number. -/
theorem response_of_repr (hn : n ≤ Decimal.maxUInt32) {r : Response}
    (hread : (mailboxWord n).orElse (messageWord n) (32 :: more) = .done r [13, 10]) :
    response (42 :: 32 :: (Utf8.bytes n.repr ++ 32 :: more)) = .done r [] := by
  have hnumber := number_repr hn (b := 32) rfl more
  -- The number is read again by each reader that could go on with what follows it.
  have hmessage : choice [do let n ← number; word " EXPUNGE"; return .removed n,
      do let n ← number; word " FETCH "; return .fetched n (← listOf1 detail)]
        (Utf8.bytes n.repr ++ 32 :: more) = messageWord n (32 :: more) :=
    orElse_eq (bind_of_done hnumber) (orElse_eq (bind_of_done hnumber) rfl)
  have hnumbered : choice (mailboxData :: _) (Utf8.bytes n.repr ++ 32 :: more) = .done r [13, 10] :=
    (orElse_eq (mailboxData_of_repr hn more) hmessage).trans hread
  have hstatus {α : Type} (f : Status → Reader α) :
      status.bind f (Utf8.bytes n.repr ++ 32 :: more) = .fail := bind_of_fail (status_of_repr n _)
  have huntagged : untagged (42 :: 32 :: (Utf8.bytes n.repr ++ 32 :: more)) = .done r [] := by
    change Reader.bind (choice _) _ (Utf8.bytes n.repr ++ 32 :: more) = _
    exact (bind_of_done
      ((choice_of_fail (hstatus _)).trans (choice_append_of_done hnumbered))).trans
      rfl
  unfold response
  exact (choice_of_fail rfl).trans (choice_of_done huntagged)

/-! ### Details of a message -/

theorem detail_of_uid {rest : List UInt8} (h : number more = .done n rest) :
    detail (Utf8.bytes "UID " ++ more) = .done (.uid n) rest := by
  have hword : Utf8.bytes "UID " = [85, 73, 68, 32] := by decide +kernel
  rw [hword]
  unfold detail
  iterate 10 refine (choice_of_fail rfl).trans ?_
  refine choice_of_done ?_
  change Reader.bind number _ more = _
  rw [bind_of_done h]
  rfl

theorem detail_of_flags {names : List String} {rest : List UInt8}
    (h : flagList more = .done names rest) :
    detail (Utf8.bytes "FLAGS " ++ more) = .done (.flags names) rest := by
  have hword : Utf8.bytes "FLAGS " = [70, 76, 65, 71, 83, 32] := by decide +kernel
  rw [hword]
  unfold detail
  iterate 4 refine (choice_of_fail rfl).trans ?_
  refine choice_of_done ?_
  change Reader.bind flagList _ more = _
  rw [bind_of_done h]
  rfl

theorem detail_of_header {data : Option (List UInt8)} {rest : List UInt8}
    (h : stringOrNil more = .done data rest) :
    detail (Utf8.bytes "BODY[HEADER] " ++ more) = .done (.section data) rest := by
  have hword : Utf8.bytes "BODY[HEADER] " =
      [66, 79, 68, 89, 91, 72, 69, 65, 68, 69, 82, 93, 32] := by decide +kernel
  rw [hword]
  unfold detail
  refine choice_of_done ?_
  change Reader.bind stringOrNil _ more = _
  rw [bind_of_done h]
  rfl

end

/-- A literal is read where a string may stand. -/
theorem stringOrNil_append {bs : List UInt8} (hzero : 0 ∉ bs)
    (hsize : bs.length ≤ Decimal.maxUInt32) (rest : List UInt8) :
    stringOrNil (literalBytes bs ++ rest) = .done (some bs) rest := by
  have hliteral := literal_append hzero hsize rest
  obtain ⟨more, hbytes⟩ : ∃ more, literalBytes bs ++ rest = 123 :: more := by
    have hopening : Utf8.bytes "\x7b" = [123] := by decide +kernel
    exact ⟨_, by simp [literalBytes, Utf8.bytes_append, hopening]; rfl⟩
  -- The brace is neither a quote nor the first letter of what stands for nothing.
  rw [hbytes] at hliteral ⊢
  have hstring : string (123 :: more) = .done bs rest := (orElse_of_fail rfl).trans hliteral
  refine (orElse_of_fail rfl).trans ?_
  change Reader.bind string _ _ = _
  rw [bind_of_done hstring]
  rfl

namespace Told

variable (m : Told)

/-- The pieces are read one by one. -/
theorem listOf1_pieces (rest : List UInt8) :
    listOf1 detail (40 :: (List.intercalate [32] (m.pieces.map Prod.fst) ++ 41 :: rest)) =
      .done (m.pieces.map Prod.snd) rest := by
  have hread : ∀ piece ∈ m.pieces, ∀ next rest, next = 32 ∨ next = 41 →
      detail (piece.1 ++ next :: rest) = .done piece.2 (next :: rest) := by
    intro piece hpiece next rest hnext
    simp only [pieces, List.mem_cons, List.not_mem_nil, or_false] at hpiece
    rcases hpiece with rfl | rfl | rfl
    · have hend : isDigitByte next = false := by rcases hnext with rfl | rfl <;> rfl
      rw [Utf8.bytes_append, List.append_assoc]
      exact detail_of_uid (number_repr m.uid.property hend rest)
    · rw [List.append_assoc]
      exact detail_of_flags (flagList_flagBytes (fun f hf => (m.sendable f hf).2) _)
    · rw [List.append_assoc]
      exact detail_of_header (stringOrNil_append m.zero_notMem m.size_le _)
  have hjoined := sepBy1_joined Prod.fst Prod.snd (by decide) hread rest
  change Reader.bind (sepBy1 (Reader.char ' ') detail) _ _ = _
  rw [bind_of_done (by simpa [pieces] using hjoined)]
  rfl

/-- The parts of a message as written. -/
theorem bytes_eq : m.bytes = 42 :: 32 :: (Utf8.bytes m.number.val.repr ++
    32 :: (Utf8.bytes "FETCH " ++
      40 :: (List.intercalate [32] (m.pieces.map Prod.fst) ++ 41 :: [13, 10]))) := by
  have hstar : Utf8.bytes "* " = [42, 32] := by decide +kernel
  have hnumber : Utf8.bytes " FETCH (UID " =
      32 :: (Utf8.bytes "FETCH " ++ 40 :: Utf8.bytes "UID ") := by decide +kernel
  have huid : Utf8.bytes " FLAGS (" = 32 :: (Utf8.bytes "FLAGS " ++ [40]) := by decide +kernel
  have hflags : Utf8.bytes ") BODY[HEADER] \x7b" =
      41 :: 32 :: (Utf8.bytes "BODY[HEADER] " ++ Utf8.bytes "\x7b") := by decide +kernel
  have hsize : Utf8.bytes "\x7d\r\n" = Utf8.bytes "\x7d" ++ [13, 10] := by decide +kernel
  have hheader : Utf8.bytes ")\r\n" = [41, 13, 10] := by decide +kernel
  simp [bytes, pieces, flagBytes, literalBytes, Utf8.bytes_append, hstar, hnumber, huid, hflags,
    hsize, hheader]

/-- A message is read whole, whatever its header block holds. -/
theorem isWhole : IsWhole m.bytes m.response := by
  refine isWhole_of_accepted ?_
  have hword : Utf8.bytes "FETCH " = [70, 69, 84, 67, 72, 32] := by decide +kernel
  rw [m.bytes_eq, hword]
  refine response_of_repr m.number.property ((orElse_of_fail rfl).trans ?_)
  refine (choice_of_fail rfl).trans (choice_of_done ?_)
  exact (bind_of_done (m.listOf1_pieces _)).trans rfl

theorem fetched?_response : fetched? m.response = some m.fetched := by
  simp [fetched?, response, pieces, addDetail, fetched]

end Told

namespace Aside

/-- What is said aside is read whole. -/
theorem isWhole (a : Aside) : IsWhole a.bytes a.response := by
  refine isWhole_of_accepted ?_
  have hstar : Utf8.bytes "* " = [42, 32] := by decide +kernel
  have hexists : Utf8.bytes " " ++ Utf8.bytes "EXISTS" ++ Utf8.bytes "\r\n" =
      [32, 69, 88, 73, 83, 84, 83, 13, 10] := by decide +kernel
  have hrecent : Utf8.bytes " " ++ Utf8.bytes "RECENT" ++ Utf8.bytes "\r\n" =
      [32, 82, 69, 67, 69, 78, 84, 13, 10] := by decide +kernel
  have hexpunge : Utf8.bytes " " ++ Utf8.bytes "EXPUNGE" ++ Utf8.bytes "\r\n" =
      [32, 69, 88, 80, 85, 78, 71, 69, 13, 10] := by decide +kernel
  have hbytes : a.bytes = 42 :: 32 :: (Utf8.bytes a.number.val.repr ++
      (Utf8.bytes " " ++ Utf8.bytes a.word ++ Utf8.bytes "\r\n")) := by
    simp [bytes, Utf8.bytes_append, hstar]
  rw [hbytes]
  cases a with
  | messages n =>
    rw [word, hexists]
    exact response_of_repr n.property rfl
  | recent n =>
    rw [word, hrecent]
    exact response_of_repr n.property rfl
  | removed n =>
    rw [word, hexpunge]
    exact response_of_repr n.property rfl

end Aside

namespace Said

theorem isWhole (s : Said) : IsWhole s.bytes s.response := by
  cases s with
  | told m => exact m.isWhole
  | aside a => exact a.isWhole

theorem isCompletion_response (s : Said) : s.response.isCompletion = false := by
  rcases s with m | a
  · rfl
  · cases a <;> rfl

/-- Messages are found among what is said, in their order. -/
theorem fetches_flatMap (said : List Said) :
    fetches (said.flatMap bytes) = .ok (said.filterMap fetched?) := by
  induction said with
  | nil => exact items_nil
  | cons s said ih =>
    rw [fetches] at ih ⊢
    rw [List.flatMap_cons, items_cons s.isWhole, ih]
    -- An aside is none of the messages, and it may come unasked.
    cases s with
    | told m => simp [response, m.fetched?_response, fetched?, Except.map]
    | aside a => cases a <;> rfl

end Said

namespace Client

open Postroom.Wire.Action

/-- Messages come back from the stream.  A server tells of messages, with anything in their header
blocks but the zero byte, and says other things between them; then it completes the command.  A
client that fetches gets exactly these messages in their order, and leaves what follows the
completion. -/
theorem fetch_told (c : Client) (said : List Said) (completion rest : List UInt8) (remark : Remark)
    (hopen : c.blocked = none)
    (hcompletion : IsWhole completion (.completion ("a" ++ (c.tag + 1).repr) .ok remark))
    (hincoming : c.incoming = linesOf (said.flatMap Said.bytes ++ completion ++ rest)) :
    (∀ set items, ∃ after,
      exec (fetch set items) c = (.ok (said.filterMap Said.fetched?), after) ∧
        after.incoming = linesOf rest) ∧
    ∀ uids items, uids ≠ [] → ∃ after,
      exec (answer (.fetch uids items)) c = (.ok (said.filterMap Said.fetched?), after) ∧
        after.incoming = linesOf rest := by
  have hdata : ∀ bs ∈ said.map Said.bytes, ∃ r, IsWhole bs r ∧ r.isCompletion = false := by
    intro bs hbs
    obtain ⟨s, -, rfl⟩ := List.mem_map.mp hbs
    exact ⟨s.response, s.isWhole, s.isCompletion_response⟩
  have hfetch : ∀ set items, ∃ after,
      exec (fetch set items) c = (.ok (said.filterMap Said.fetched?), after) ∧
        after.incoming = linesOf rest := by
    intro set items
    obtain ⟨copied, after, hrun, hafter⟩ := exec_run_of_ok hopen hdata hcompletion hincoming
      ("UID FETCH " ++ set ++ " " ++ items)
    refine ⟨after, ?_, hafter⟩
    rw [fetch, exec_bind, hrun]
    simp only [exec_liftM]
    rw [← List.flatMap_def, Said.fetches_flatMap]
  refine ⟨hfetch, fun uids items huids => ?_⟩
  have hanswer : answer (.fetch uids items) = fetch (UidSet.render uids) items.toString :=
    if_neg (by simpa using huids)
  rw [hanswer]
  exact hfetch _ _

/-- Two messages and two asides; one header block holds what could be the completion, and one flag
is a keyword that is known by another name. -/
theorem completion_in_header_fetched :
    let header := Utf8.bytes "a1 OK \x7b3\x7d\r\n)\r\n"
    let first : Told :=
      ⟨⟨1, by decide⟩, ⟨7, by decide⟩, [.keyword "\\SEEN", .keyword "work"], header,
      by simp [checkFlag_keyword_iff, withoutBackslash]; decide, by decide +kernel,
      by decide +kernel⟩
    let second : Told := ⟨⟨2, by decide⟩, ⟨9, by decide⟩, [], [], nofun, by decide, by decide⟩
    let said : List Said := [.aside (.messages ⟨3, by decide⟩), .told first,
      .aside (.removed ⟨3, by decide⟩), .told second]
    let completion := Utf8.bytes "a1 OK done\r\n"
    let rest := Utf8.bytes "* BYE\r\n"
    let c := ofScript (said.flatMap Said.bytes ++ completion ++ rest) none none
    ∃ after, exec (fetch "7:9" "FLAGS") c =
        (.ok [⟨1, some 7, [.seen, .keyword "work"], none, some header⟩,
          ⟨2, some 9, [], none, some []⟩],
          after) ∧
      after.incoming = linesOf rest := by
  intro header first second said completion rest c
  have hcompletion : IsWhole completion (.completion ("a" ++ (c.tag + 1).repr) .ok
      ⟨none, some "done"⟩) := by decide +kernel
  have hfetched : said.filterMap Said.fetched? =
      [⟨1, some 7, [.seen, .keyword "work"], none, some header⟩,
        ⟨2, some 9, [], none, some []⟩] := by
    decide +kernel
  rw [← hfetched]
  exact (fetch_told c said completion rest _ rfl hcompletion rfl).1 "7:9" "FLAGS"

end Client

end Postroom.Wire
