import Postroom.Proofs.Wire.Argument
import Postroom.Proofs.Wire.Attribution

/-! # One command to a call

What a call writes should be one line, so that no argument of it can be taken for a command of its
own.  The text of an order has a line break only where an argument that goes into it unchecked has
one (`Order.oneLine_command`).  The orders that requests give have one such argument, the keywords a
search is for; every other argument is checked, put in quotes or written from numbers
(`oneLine_of_ofRequest`).  So every request but a search for a keyword with a line break writes one
command (`one_command_iff`), and such a search writes two.
-/

namespace Postroom

/-- The flags that a request searches for. -/
def Request.sought : Request → List Flag
  | .search criteria => criteria.present ++ criteria.absent
  | _ => []

namespace Wire

open Text

/-! ### The texts of commands -/

namespace Order

/-- The arguments that go into the text of an order as they are. -/
def verbatim : Order → List String
  | .search keys => [keys]
  | .fetch set items => [set, items]
  | .store set change => [set, change]
  | .copy set _ | .move set _ | .expungeSet set => [set]
  | _ => []

/-- No flags make no list. -/
theorem flagArgument_eq (flags : List Flag) :
    flagArgument flags =
      (flagText flags).map fun inner => if flags.isEmpty then "" else " (" ++ inner ++ ")" := by
  cases flags with
  | nil => rfl
  | cons first others => exact bind_pure_comp _ _

/-- An append can be put into words unless its flags are refused. -/
theorem command_append_eq (mailbox : String) (flags : List Flag) (content : List UInt8) :
    (append mailbox flags content).command = (flagArgument flags).map fun marks =>
      "APPEND " ++ inQuotes (MailboxName.encode mailbox) ++ marks ++
        " \x7b" ++ content.length.repr ++ "\x7d" := by
  simp only [command, quotedMailbox_eq]
  cases flagArgument flags <;> rfl

theorem isBare_of_flagArgument {flags : List Flag} {t : String}
    (h : flagArgument flags = .ok t) : AllChars isBare t := by
  unfold flagArgument at h
  split at h
  · cases h
    decide
  · obtain ⟨joined, hjoined, h⟩ := bind_eq_ok_iff.mp h
    cases h
    have hopening : AllChars isBare " (" := by decide
    have hclosing : AllChars isBare ")" := by decide
    simp [hopening, hclosing, isBare_of_flagText hjoined]

/-- The text of an order has a line break only if an argument brings it along unchecked. -/
theorem oneLine_command {o : Order} {text : String} (h : o.command = .ok text) :
    OneLine text ↔ ∀ s ∈ o.verbatim, OneLine s := by
  have hblank : OneLine " " := by decide
  cases o with
  | login user password =>
    obtain ⟨quotedUser, huser, h⟩ := bind_eq_ok_iff.mp h
    obtain ⟨quotedPassword, hpassword, h⟩ := bind_eq_ok_iff.mp h
    cases h
    have hword : OneLine "LOGIN " := by decide
    simp [verbatim, hword, hblank, oneLine_of_quotedText huser, oneLine_of_quotedText hpassword]
  | list reference pattern =>
    obtain ⟨quotedReference, hreference, h⟩ := bind_eq_ok_iff.mp h
    obtain ⟨quotedPattern, hpattern, h⟩ := bind_eq_ok_iff.mp h
    cases h
    have hword : OneLine "LIST " := by decide
    simp [verbatim, hword, hblank, oneLine_of_quotedText hreference, oneLine_of_quotedText hpattern]
  | select mailbox | examine mailbox | create mailbox | delete mailbox =>
    obtain ⟨name, hname, h⟩ := bind_eq_ok_iff.mp h
    cases h
    rw [OneLine, AllChars.append_iff]
    simp only [verbatim, List.not_mem_nil, false_implies, implies_true, iff_true]
    exact ⟨by decide, oneLine_of_quotedText hname⟩
  | copy set mailbox | move set mailbox =>
    obtain ⟨name, hname, h⟩ := bind_eq_ok_iff.mp h
    cases h
    have hcopy : OneLine "UID COPY " := by decide
    have hmove : OneLine "UID MOVE " := by decide
    simp [verbatim, hcopy, hmove, hblank, oneLine_of_quotedText hname]
  | search keys | expungeSet set =>
    cases h
    have hsearch : OneLine "UID SEARCH " := by decide
    have hexpunge : OneLine "UID EXPUNGE " := by decide
    simp [verbatim, hsearch, hexpunge]
  | fetch set items | store set change =>
    cases h
    have hfetch : OneLine "UID FETCH " := by decide
    have hstore : OneLine "UID STORE " := by decide
    simp [verbatim, hfetch, hstore, hblank]
  | expunge | logout =>
    cases h
    decide
  | append mailbox flags content =>
    obtain ⟨flags, hflags, h⟩ := bind_eq_ok_iff.mp h
    obtain ⟨name, hname, h⟩ := bind_eq_ok_iff.mp h
    cases h
    have hword : OneLine "APPEND " := by decide
    have hopening : OneLine " \x7b" := by decide
    have hclosing : OneLine "\x7d" := by decide
    have hsize := oneLine_of_isBare (isBare_of_repr content.length)
    simp [verbatim, hword, hopening, hclosing, hsize, oneLine_of_quotedText hname,
      oneLine_of_isBare (isBare_of_flagArgument hflags)]

/-- The text of an append ends with the size of its content. -/
theorem announced_of_command {mailbox : String} {flags : List Flag} {content : List UInt8}
    {text : String} (h : (Order.append mailbox flags content).command = .ok text) :
    Utf8.bytes ("\x7b" ++ content.length.repr ++ "\x7d") <:+ Utf8.bytes text := by
  obtain ⟨flags, -, h⟩ := bind_eq_ok_iff.mp h
  obtain ⟨name, -, h⟩ := bind_eq_ok_iff.mp h
  cases h
  refine ⟨Utf8.bytes ("APPEND " ++ name ++ flags ++ " "), ?_⟩
  have hbrace : (" \x7b" : String) = " " ++ "\x7b" := by decide
  simp only [hbrace, Utf8.bytes_append, List.append_assoc]

/-- The order that a request gives takes nothing unchecked but the flags that are searched for. -/
theorem oneLine_of_ofRequest {r : Request} {o : Order} (h : ofRequest r = .ok (some o)) :
    (∀ s ∈ o.verbatim, OneLine s) ↔ ∀ f ∈ r.sought, OneLine f.toString := by
  have hset (uids : List Uid) := oneLine_of_isBare (isBare_of_render uids)
  cases r with
  | select | examine | create | delete | list | expunge | append | logout =>
    cases h
    simp [verbatim, Request.sought]
  | search criteria =>
    cases h
    simpa only [verbatim, Request.sought, List.mem_singleton, forall_eq] using
      oneLine_criteria criteria
  | copy uids mailbox | move uids mailbox =>
    cases h
    simp [verbatim, Request.sought, hset]
  | fetch uids items =>
    simp only [ofRequest] at h
    split at h
    · cases h
    · cases h
      have hitems : OneLine items.toString := by cases items <;> decide
      simp [verbatim, Request.sought, hset, hitems]
  | expungeUids uids =>
    simp only [ofRequest] at h
    split at h
    · cases h
    · cases h
      simp [verbatim, Request.sought, hset]
  | store uids mode flags =>
    simp only [ofRequest] at h
    split at h
    · cases h
    · obtain ⟨joined, hjoined, h⟩ := bind_eq_ok_iff.mp h
      cases h
      have hmode : OneLine mode.toString := by cases mode <;> decide
      have hsilent : OneLine ".SILENT (" := by decide
      have hclosing : OneLine ")" := by decide
      simp [verbatim, Request.sought, hset, hmode, hsilent, hclosing,
        oneLine_of_isBare (isBare_of_flagText hjoined)]

end Order

namespace Call

/-- A call for a request has a text exactly if its order has. -/
theorem command_request_eq {r : Request} {text : String}
    (h : (Call.request r).command = .ok (some text)) :
    ∃ o, Order.ofRequest r = .ok (some o) ∧ o.command = .ok text := by
  obtain ⟨given, hgiven, h⟩ := bind_eq_ok_iff.mp h
  cases given with
  | none => cases h
  | some o =>
    obtain ⟨sent, hsent, h⟩ := bind_eq_ok_iff.mp h
    cases h
    exact ⟨o, hgiven, hsent⟩

theorem oneLine_of_request {r : Request} {text : String}
    (h : (Call.request r).command = .ok (some text)) :
    OneLine text ↔ ∀ f ∈ r.sought, OneLine f.toString := by
  obtain ⟨o, hgiven, hcommand⟩ := command_request_eq h
  rw [Order.oneLine_command hcommand, Order.oneLine_of_ofRequest hgiven]

theorem oneLine_of_login {user password text : String}
    (h : (Call.order (.login user password)).command = .ok (some text)) : OneLine text := by
  obtain ⟨sent, hsent, h⟩ := bind_eq_ok_iff.mp h
  cases h
  exact (Order.oneLine_command hsent).mpr fun s hs => absurd hs List.not_mem_nil

/-- Calls with a content are appends. -/
theorem eq_append_of_content {call : Call} {bs : List UInt8} (h : call.content = some bs) :
    ∃ mailbox flags, call = .order (.append mailbox flags bs) ∨
      call = .request (.append mailbox flags bs) := by
  rcases call with o | r
  · cases o <;> cases h
    exact ⟨_, _, .inl rfl⟩
  · cases r <;> cases h
    exact ⟨_, _, .inr rfl⟩

theorem announced_of_content {call : Call} {bs : List UInt8} {text : String}
    (hcontent : call.content = some bs) (hcommand : call.command = .ok (some text)) :
    Utf8.bytes ("\x7b" ++ bs.length.repr ++ "\x7d") <:+ Utf8.bytes text := by
  obtain ⟨mailbox, flags, rfl | rfl⟩ := eq_append_of_content hcontent
  · obtain ⟨sent, hsent, h⟩ := bind_eq_ok_iff.mp hcommand
    cases h
    exact Order.announced_of_command hsent
  · obtain ⟨o, hgiven, hsent⟩ := command_request_eq hcommand
    cases hgiven
    exact Order.announced_of_command hsent

end Call

/-! ### What a call writes -/

/-- The line of a command: a tag, a blank and a body. -/
def taggedLine (tag : Nat) (body : List UInt8) : List UInt8 :=
  Utf8.bytes ("a" ++ tag.repr ++ " ") ++ body ++ [13, 10]

theorem commandLine_eq (tag : Nat) (text : String) :
    commandLine tag text = taggedLine tag (Utf8.bytes text) := by
  rw [commandLine, taggedLine, Utf8.bytes_append]

theorem taggedLine_inj {tag : Nat} {body body' : List UInt8} :
    taggedLine tag body = taggedLine tag body' ↔ body = body' := by
  simp [taggedLine]

namespace Client

open Postroom.Wire.Action

/-- What a client writes during a call is nothing or one command with the next tag.  An append
writes its content as well, after it has announced its size and a line that begins with a plus
was read. -/
inductive Record.IsOneCommand (record : Record) : Prop where
  /-- Nothing is written. -/
  | nothing (hwritten : record.written = [])
  /-- One line is written. -/
  | line {body : List UInt8} (hreturn : 13 ∉ body) (hfeed : 10 ∉ body)
      (hwritten : record.written = taggedLine (record.before.tag + 1) body)
  /-- One line and a content are written. -/
  | content {body bs : List UInt8} {invitation : Line} {later : List Line}
      (hreturn : 13 ∉ body) (hfeed : 10 ∉ body) (hcontent : record.call.content = some bs)
      (hannounced : Utf8.bytes ("\x7b" ++ bs.length.repr ++ "\x7d") <:+ body)
      (hread : record.read = invitation :: later) (hinvitation : invitation.head? = some 43)
      (hwritten : record.written = taggedLine (record.before.tag + 1) body ++ bs ++ [13, 10])

/-- The record of one call. -/
def record (c : Client) (call : Call) : Record :=
  ⟨call, c, (exec call.action c).1, (exec call.action c).2⟩

variable {c : Client} {call : Call}

theorem conduct_record (c : Client) (call : Call) :
    Conduct (record c call).call.content (record c call).before (record c call).call.command
      (record c call).outcome (record c call).after := follows_call call c

theorem conduct_of_command (c : Client) {command : Except Fault (Option String)}
    (h : call.command = command) :
    Conduct call.content c command (record c call).outcome (record c call).after :=
  h ▸ conduct_record c call

/-- A call with a command sends it, if anything can be sent. -/
theorem sent_of_command {text : String} (hopen : c.blocked = none)
    (h : call.command = .ok (some text)) :
    Sent text (record c call).call.content (record c call).before (record c call).outcome
      (record c call).after := (conduct_of_command c h).sent_of_open hopen

/-- An append sends its content as `sendContent` does. -/
theorem exec_append {call : Call} {bs : List UInt8} {text : String}
    (hcontent : call.content = some bs) (hcommand : call.command = .ok (some text)) (c : Client) :
    exec call.action c = exec (sendContent text bs) c := by
  -- The text was put together from the same parts, which are all there because it is.
  have hclient {mailbox : String} {flags : List Flag}
      (h : (Order.append mailbox flags bs).command = .ok text) :
      exec (append mailbox flags bs) c = exec (sendContent text bs) c := by
    obtain ⟨marks, hmarks, h⟩ := bind_eq_ok_iff.mp h
    obtain ⟨name, hname, h⟩ := bind_eq_ok_iff.mp h
    cases h
    unfold Order.flagArgument at hmarks
    cases hempty : flags.isEmpty with
    | true =>
      simp only [hempty, if_true] at hmarks
      cases hmarks
      simp only [append, hempty, if_true, pure_bind, hname]
      rfl
    | false =>
      simp only [hempty, Bool.false_eq_true, if_false] at hmarks
      obtain ⟨joined, hjoined, h⟩ := bind_eq_ok_iff.mp hmarks
      cases h
      simp only [append, hempty, Bool.false_eq_true, if_false, hname, hjoined]
      rfl
  obtain ⟨mailbox, flags, rfl | rfl⟩ := Call.eq_append_of_content hcontent
  · obtain ⟨sent, hsent, h⟩ := bind_eq_ok_iff.mp hcommand
    cases h
    exact hclient hsent
  · obtain ⟨o, hgiven, hsent⟩ := Call.command_request_eq hcommand
    cases hgiven
    rw [← hclient hsent]
    exact exec_discard c _

/-- A call whose text has no line break writes one command. -/
theorem isOneCommand_of_oneLine
    (h : ∀ text, call.command = .ok (some text) → OneLine text) :
    (record c call).IsOneCommand := by
  rcases (conduct_record c call).sent_or with ⟨text, hcommand, hsent⟩ | ⟨hunsent, -⟩
  · obtain ⟨hreturn, hfeed⟩ := (oneLine_iff_bytes text).mp (h text hcommand)
    rcases written_of_sent hsent with hline | ⟨bs, hcontent, hmore⟩
    · exact .line hreturn hfeed (hline.trans (commandLine_eq _ _))
    · -- The content has been written, so it was asked for: otherwise the line would be all.
      have hopen : c.blocked = none := hsent.before_open
      have hafter : (record c call).after = (exec (sendContent text bs) c).2 :=
        congrArg Prod.snd (exec_append hcontent hcommand c)
      cases hinvited : c.isInvited with
      | true =>
        obtain ⟨invitation, rest, hincoming⟩ := exists_of_isInvited hinvited
        obtain ⟨outcome, read, later, exchanges, hexec, hlines, -⟩ :=
          exec_sendContent_of_invited text bs hopen hinvited hincoming
        have hread : (record c call).read = invitation :: read := by
          have htaken :
              (invitation :: rest).length - later.length = (invitation :: read).length := by
            simp only [hlines, List.length_cons, List.length_append]
            omega
          rw [Record.read, hafter, hexec]
          change c.incoming.take (c.incoming.length - later.length) = _
          rw [hincoming, htaken, hlines, ← List.cons_append, List.take_left]
        refine .content hreturn hfeed hcontent (Call.announced_of_content hcontent hcommand)
          hread (by simpa [isInvited, hincoming] using hinvited) ?_
        rw [hmore, commandLine_eq, List.append_assoc]
      | false =>
        obtain ⟨fault, read, later, exchanges, hexec, -⟩ :=
          exec_sendContent_of_uninvited text bs hopen hinvited
        refine .line hreturn hfeed ?_
        rw [Record.written, hafter, hexec, ← commandLine_eq]
        exact List.drop_left
  · exact .nothing (by simp [Record.written, hunsent])

/-- A call whose text has a line break does not, if it can write at all. -/
theorem not_isOneCommand {text : String} (hopen : c.blocked = none)
    (hcontent : call.content = none) (hcommand : call.command = .ok (some text))
    (hbreak : ¬ OneLine text) : ¬ (record c call).IsOneCommand := by
  have hconduct := conduct_record c call
  rw [show (record c call).call.command = .ok (some text) from hcommand] at hconduct
  have hsent := hconduct.sent_of_open hopen
  have hwritten : (record c call).written = taggedLine (c.tag + 1) (Utf8.bytes text) := by
    rcases written_of_sent hsent with hline | ⟨bs, hbs, -⟩
    · exact hline.trans (commandLine_eq _ _)
    · exact absurd (hcontent.symm.trans hbs) (by simp)
  rw [oneLine_iff_bytes] at hbreak
  intro hone
  cases hone with
  | nothing h =>
    rw [hwritten] at h
    simp [taggedLine] at h
  | line hreturn hfeed h =>
    rw [hwritten] at h
    have hbody := taggedLine_inj.mp h
    exact hbreak (hbody ▸ ⟨hreturn, hfeed⟩)
  | content _ _ hbs => exact absurd (hcontent.symm.trans hbs) (by simp)

/-- Naming the user writes one command, whatever the name and the password are, and so does every
request, whatever its arguments are, unless it searches for a keyword with a line break.  Such a
search writes what is not one command, if anything can be written. -/
theorem one_command_iff (c : Client) :
    (∀ user password, (record c (.order (.login user password))).IsOneCommand) ∧
      ∀ r : Request, (record c (.request r)).IsOneCommand ↔
        c.blocked ≠ none ∨ ∀ f ∈ r.sought, OneLine f.toString := by
  refine ⟨fun user password => isOneCommand_of_oneLine fun text => Call.oneLine_of_login,
    fun r => ⟨fun hone => ?_, ?_⟩⟩
  · cases r with
    | search criteria =>
      have hcommand : (Call.request (.search criteria)).command =
          .ok (some ("UID SEARCH " ++ criteria.toString)) := rfl
      by_cases hopen : c.blocked = none
      · by_cases hline : OneLine ("UID SEARCH " ++ criteria.toString)
        · exact .inr ((Call.oneLine_of_request hcommand).mp hline)
        · exact absurd hone (not_isOneCommand hopen rfl hcommand hline)
      · exact .inl hopen
    | _ => exact .inr (by simp [Request.sought])
  · rintro (hblocked | hline)
    · -- Nothing can be written.
      refine .nothing ?_
      rcases (conduct_record c (.request r)).sent_or with ⟨text, -, hsent⟩ | ⟨hunsent, -⟩
      · exact absurd hsent.before_open hblocked
      · simp [Record.written, hunsent]
    · exact isOneCommand_of_oneLine fun text hcommand =>
        (Call.oneLine_of_request hcommand).mpr hline

/-- A keyword with a line break in it makes a search into a search and a command of its own. -/
theorem search_sends_two :
    let c := ofScript [] none none
    let criteria : Criteria := ⟨[.keyword "k\r\na2 LOGOUT"], []⟩
    let sent := record c (.request (.search criteria))
    sent.written = taggedLine 1 (Utf8.bytes "UID SEARCH KEYWORD k") ++
        taggedLine 2 (Utf8.bytes "LOGOUT") ∧
      ¬ sent.IsOneCommand := by
  intro c criteria sent
  exact ⟨by decide +kernel, not_isOneCommand rfl rfl rfl (by decide)⟩

end Client

end Wire

end Postroom
