import Postroom.Proofs.Wire.Conduct

/-! # Whose completion it was

A client is called over and over, and some calls leave the rest of a response behind, so a later
call may read completions of earlier commands.  Every order a client can be given has a text, unless
its arguments refuse it, and is followed by that text (`follows_call`).  So the commands that are
sent carry the tags in a row, and a call succeeds only by the completion of its own command
(`completions_attributed`).
-/

namespace Postroom.Wire

/-- An order to a client, with its arguments as the client takes them. -/
inductive Order where
  /-- To name the user. -/
  | login (user password : String)
  /-- To open a mailbox for changes. -/
  | select (mailbox : String)
  /-- To open a mailbox for reading. -/
  | examine (mailbox : String)
  /-- To make a mailbox. -/
  | create (mailbox : String)
  /-- To remove a mailbox. -/
  | delete (mailbox : String)
  /-- To list mailboxes. -/
  | list (reference pattern : String)
  /-- To search the open mailbox. -/
  | search (keys : String)
  /-- To fetch something of messages. -/
  | fetch (set items : String)
  /-- To change the flags of messages. -/
  | store (set change : String)
  /-- To copy messages. -/
  | copy (set mailbox : String)
  /-- To move messages. -/
  | move (set mailbox : String)
  /-- To remove all marked messages. -/
  | expunge
  /-- To remove marked messages of a set. -/
  | expungeSet (set : String)
  /-- To add a message. -/
  | append (mailbox : String) (flags : List Flag) (content : List UInt8)
  /-- To end the session. -/
  | logout

namespace Order

/-- What a client does on an order; what it finds is looked at and then left. -/
def action : Order → Action Unit
  | .login user password => Client.login user password
  | .select mailbox => do let _ ← Client.select mailbox
  | .examine mailbox => do let _ ← Client.examine mailbox
  | .create mailbox => Client.create mailbox
  | .delete mailbox => Client.delete mailbox
  | .list reference pattern => do let _ ← Client.list reference pattern
  | .search keys => do let _ ← Client.search keys
  | .fetch set items => do let _ ← Client.fetch set items
  | .store set change => do let _ ← Client.store set change
  | .copy set mailbox => do let _ ← Client.copy set mailbox
  | .move set mailbox => do let _ ← Client.move set mailbox
  | .expunge => Client.expunge
  | .expungeSet set => Client.expungeSet set
  | .append mailbox flags content => Client.append mailbox flags content
  | .logout => Client.logout

/-- The flags of a message that is added. -/
def flagArgument (flags : List Flag) : Except Fault String :=
  if flags.isEmpty then return "" else return " (" ++ (← flagText flags) ++ ")"

/-- The text of an order, unless its arguments cannot be sent. -/
def command : Order → Except Fault String
  | .login user password => return "LOGIN " ++ (← quotedText user) ++ " " ++ (← quotedText password)
  | .select mailbox => return "SELECT " ++ (← quotedMailbox mailbox)
  | .examine mailbox => return "EXAMINE " ++ (← quotedMailbox mailbox)
  | .create mailbox => return "CREATE " ++ (← quotedMailbox mailbox)
  | .delete mailbox => return "DELETE " ++ (← quotedMailbox mailbox)
  | .list reference pattern =>
    return "LIST " ++ (← quotedText reference) ++ " " ++ (← quotedText pattern)
  | .search keys => return "UID SEARCH " ++ keys
  | .fetch set items => return "UID FETCH " ++ set ++ " " ++ items
  | .store set change => return "UID STORE " ++ set ++ " " ++ change
  | .copy set mailbox => return "UID COPY " ++ set ++ " " ++ (← quotedMailbox mailbox)
  | .move set mailbox => return "UID MOVE " ++ set ++ " " ++ (← quotedMailbox mailbox)
  | .expunge => return "EXPUNGE"
  | .expungeSet set => return "UID EXPUNGE " ++ set
  | .append mailbox flags content => do
    let flags ← flagArgument flags
    let name ← quotedMailbox mailbox
    return "APPEND " ++ name ++ flags ++ " \x7b" ++ content.length.repr ++ "\x7d"
  | .logout => return "LOGOUT"

/-- What an order sends when it is invited to. -/
def content : Order → Option (List UInt8)
  | .append _ _ content => some content
  | _ => none

/-- The order that a request gives, if it gives one. -/
def ofRequest : Request → Except Fault (Option Order)
  | .select mailbox => return some (.select mailbox)
  | .examine mailbox => return some (.examine mailbox)
  | .create mailbox => return some (.create mailbox)
  | .delete mailbox => return some (.delete mailbox)
  | .list => return some (.list "" "*")
  | .search criteria => return some (.search criteria.toString)
  | .fetch uids items =>
    if uids.isEmpty then return none else return some (.fetch (UidSet.render uids) items.toString)
  | .store uids mode flags => do
    if uids.isEmpty then return none
    let flags ← flagText flags
    return some (.store (UidSet.render uids) (mode.toString ++ ".SILENT (" ++ flags ++ ")"))
  | .copy uids mailbox => return some (.copy (UidSet.render uids) mailbox)
  | .move uids mailbox => return some (.move (UidSet.render uids) mailbox)
  | .expunge => return some .expunge
  | .expungeUids uids =>
    if uids.isEmpty then return none else return some (.expungeSet (UidSet.render uids))
  | .append mailbox flags content => return some (.append mailbox flags content)
  | .logout => return some .logout

end Order

/-- A call of a client: an order, or a request, which gives one order at most. -/
inductive Call where
  /-- An order. -/
  | order (o : Order)
  /-- A request. -/
  | request (r : Request)

namespace Call

/-- What a client does when it is called. -/
def action : Call → Action Unit
  | .order o => o.action
  | .request r => do let _ ← Client.answer r

/-- The text of the command that a call sends, if it sends one. -/
def command : Call → Except Fault (Option String)
  | .order o => return some (← o.command)
  | .request r => do
    match ← Order.ofRequest r with
    | some o => return some (← o.command)
    | none => return none

/-- What a call sends when it is invited to. -/
def content : Call → Option (List UInt8)
  | .order o => o.content
  | .request (.append _ _ content) => some content
  | _ => none

end Call

namespace Client

open Text Postroom.Wire.Action

/-- An order is followed whatever the connection brings. -/
theorem follows_order (o : Order) :
    Follows o.content (do return some (← o.command)) o.action := by
  cases o with
  | login user password =>
    simp only [Order.command, Order.action, login, bind_assoc, pure_bind]
    refine Follows.check fun user => Follows.check fun password => ?_
    -- The arguments were checked before, so the handler meets only failures of the command.
    refine Follows.catch_error ((follows_run _).bind fun _ => quiet_pure _) ?_
    intro fault
    cases fault <;> exact ⟨_, rfl⟩
  | select mailbox | examine mailbox | move set mailbox =>
    simp only [Order.command, Order.action, select, examine, move, bind_assoc, pure_bind]
    exact .check fun _ => (follows_run _).bind fun _ => (quiet_liftM _).bind fun _ => quiet_pure _
  | list reference pattern =>
    simp only [Order.command, Order.action, list, bind_assoc, pure_bind]
    exact .check fun _ => .check fun _ =>
      (follows_run _).bind fun _ => (quiet_liftM _).bind fun _ => quiet_pure _
  | create mailbox | delete mailbox | copy set mailbox =>
    simp only [Order.command, Order.action, create, delete, copy, bind_assoc, pure_bind]
    exact .check fun _ => (follows_run _).bind fun _ => quiet_pure _
  | search keys | fetch set items | store set change =>
    simp only [Order.command, Order.action, search, fetch, store, bind_assoc, pure_bind]
    exact (follows_run _).bind fun _ => (quiet_liftM _).bind fun _ => quiet_pure _
  | expunge | logout | expungeSet set => exact (follows_run _).bind fun _ => quiet_pure _
  | append mailbox flags content =>
    simp only [Order.command, Order.action, append, Order.flagArgument, bind_assoc, pure_bind]
    cases flags.isEmpty with
    | true =>
      simp only [if_true, pure_bind]
      exact .check fun _ => follows_append _ content
    | false =>
      simp only [Bool.false_eq_true, if_false, bind_assoc, pure_bind]
      exact .check fun _ => .check fun _ => follows_append _ content

/-- A request is followed by the order that it gives. -/
theorem follows_request (r : Request) :
    Follows (Call.request r).content (Call.request r).command (Call.request r).action := by
  cases r <;>
    simp only [Call.command, Call.action, Call.content, Order.ofRequest, answer, pure_bind]
  case select mailbox => exact follows_order (.select mailbox)
  case examine mailbox => exact follows_order (.examine mailbox)
  case list => exact follows_order (.list "" "*")
  case search criteria => exact follows_order (.search criteria.toString)
  case copy uids mailbox => exact follows_order (.copy (UidSet.render uids) mailbox)
  case move uids mailbox => exact follows_order (.move (UidSet.render uids) mailbox)
  case create mailbox => exact (follows_order (.create mailbox)).bind fun _ => quiet_pure _
  case delete mailbox => exact (follows_order (.delete mailbox)).bind fun _ => quiet_pure _
  case expunge => exact (follows_order .expunge).bind fun _ => quiet_pure _
  case logout => exact (follows_order .logout).bind fun _ => quiet_pure _
  case append mailbox flags content =>
    exact (follows_order (.append mailbox flags content)).bind fun _ => quiet_pure _
  case fetch uids items =>
    cases uids.isEmpty with
    | true => exact .pure ()
    | false => exact follows_order (.fetch (UidSet.render uids) items.toString)
  case expungeUids uids =>
    cases uids.isEmpty with
    | true => exact .pure ()
    | false => exact (follows_order (.expungeSet (UidSet.render uids))).bind fun _ => quiet_pure _
  case store uids mode flags =>
    cases uids.isEmpty with
    | true => exact .pure ()
    | false =>
      simp only [Bool.false_eq_true, if_false, bind_assoc, pure_bind]
      exact .check fun flags => follows_order (.store (UidSet.render uids) _)

/-- A call is followed whatever the connection brings. -/
theorem follows_call (call : Call) : Follows call.content call.command call.action := by
  cases call with
  | order o => exact follows_order o
  | request r => exact follows_request r

/-! ### Calls in a row -/

/-- One call, with the client before and after it. -/
structure Record where
  /-- What was called. -/
  call : Call
  /-- The client before. -/
  before : Client
  /-- Whether the call succeeded. -/
  outcome : Except Fault Unit
  /-- The client after. -/
  after : Client

/-- The calls of a client in a row. -/
def records (c : Client) : List Call → List Record
  | [] => []
  | call :: calls =>
    let (outcome, after) := exec call.action c
    ⟨call, c, outcome, after⟩ :: records after calls

namespace Record

variable (record : Record)

/-- The bytes sent during a call. -/
def written : List UInt8 := record.after.sent.drop record.before.sent.length

/-- The lines read during a call. -/
def read : List Line :=
  record.before.incoming.take (record.before.incoming.length - record.after.incoming.length)

/-- The responses read during a call.  An invitation is read as a line and not as a response; no
completion is lost with it (`continue_of_invitation`). -/
def responses : List Response :=
  heard [] (if record.call.content.isSome && record.before.isInvited then record.read.tail
    else record.read)

/-- Whether a call sent something. -/
def hasSent : Bool := !record.written.isEmpty

end Record

variable {c : Client} {call : Call} {calls : List Call} {record : Record}

theorem records_cons :
    records c (call :: calls) =
      ⟨call, c, (exec call.action c).1, (exec call.action c).2⟩ ::
        records (exec call.action c).2 calls := rfl

theorem conduct_of_mem (h : record ∈ records c calls) :
    Conduct record.call.content record.before record.call.command record.outcome record.after := by
  induction calls generalizing c with
  | nil => cases h
  | cons call calls ih =>
    rw [records_cons] at h
    rcases List.mem_cons.mp h with rfl | h
    · exact follows_call call c
    · exact ih h

theorem blocked_of_mem (h : record ∈ records c calls) : record.before.blocked = c.blocked := by
  induction calls generalizing c with
  | nil => cases h
  | cons call calls ih =>
    rw [records_cons] at h
    rcases List.mem_cons.mp h with rfl | h
    · rfl
    · rw [ih h, (follows_call call c).blocked_eq]

theorem tag_le_of_mem (h : record ∈ records c calls) :
    record.after.tag ≤ c.tag + calls.length := by
  induction calls generalizing c with
  | nil => cases h
  | cons call calls ih =>
    rw [records_cons] at h
    have hstep := (follows_call call c).tag_le
    rcases List.mem_cons.mp h with rfl | h
    · simp only [List.length_cons]
      omega
    · have := ih h
      simp only [List.length_cons]
      omega

section Sent

variable {text : String}
  (h : Sent text record.call.content record.before record.outcome record.after)

include h

theorem written_of_sent :
    record.written = commandLine (record.before.tag + 1) text ∨
      ∃ bs, record.call.content = some bs ∧
        record.written = commandLine (record.before.tag + 1) text ++ (bs ++ [13, 10]) := by
  rcases h.written with hwritten | ⟨bs, hcontent, hwritten⟩
  · exact .inl (by simp [Record.written, hwritten])
  · exact .inr ⟨bs, hcontent, by simp [Record.written, hwritten]⟩

theorem hasSent_of_sent : record.hasSent = true := by
  rcases written_of_sent h with hwritten | ⟨bs, _, hwritten⟩ <;>
    simp [Record.hasSent, hwritten, commandLine]

theorem attributed_of_sent :
    Attributed ("a" ++ (record.before.tag + 1).repr) record.responses record.outcome := by
  obtain ⟨read, hlines, hread⟩ := h.read
  have hread' : record.read = read := by simp [Record.read, hlines]
  rwa [Record.responses, hread']

end Sent

/-- The calls that send something use up the tags in a row.  By induction on the calls. -/
theorem sent_of_getElem? {k : Nat}
    (h : ((records c calls).filter Record.hasSent)[k]? = some record) :
    record.before.tag = c.tag + k ∧ ∃ text, record.call.command = .ok (some text) ∧
      Sent text record.call.content record.before record.outcome record.after := by
  induction calls generalizing c k with
  | nil => simp [records] at h
  | cons call calls ih =>
    rw [records_cons] at h
    rcases (follows_call call c).sent_or with ⟨text, hcommand, hsent⟩ | ⟨hunsent, htag⟩
    · rw [List.filter_cons_of_pos (hasSent_of_sent hsent)] at h
      cases k with
      | zero =>
        cases h
        exact ⟨rfl, text, hcommand, hsent⟩
      | succ k =>
        obtain ⟨hbefore, hrecord⟩ := ih h
        exact ⟨by rw [hbefore, hsent.tag, Nat.add_right_comm, Nat.add_assoc], hrecord⟩
    · rw [List.filter_cons_of_neg (by simp [Record.hasSent, Record.written, hunsent])] at h
      obtain ⟨hbefore, text, hcommand, hsent⟩ := ih h
      -- The record tells that something can be sent, so the tag is as it was.
      have hopen : c.blocked = none := by
        rw [← (follows_call call c).blocked_eq,
          ← blocked_of_mem (List.mem_filter.mp (List.mem_of_getElem? h)).1, hsent.before_open]
      exact ⟨by rw [hbefore, htag hopen], text, hcommand, hsent⟩

/-- A new client is called over and over, whatever the connection brings and whatever becomes of the
calls.  Those that send something send the texts of their commands with the tags in a row; each of
them succeeds only if a completion with its own tag says so, and fails if a completion with another
tag is read.  A call whose arguments are refused leaves the client as it was, and no call succeeds
without sending anything unless it has nothing to send; what it has to send it sends if anything can
be sent.  There are no more tags than calls. -/
theorem completions_attributed (c : Client) (hfresh : c.tag = 0) (calls : List Call) :
    (∀ k record, ((records c calls).filter Record.hasSent)[k]? = some record →
      (∃ text, record.call.command = .ok (some text) ∧
        (record.written = commandLine (k + 1) text ∨
          ∃ bs, record.call.content = some bs ∧
            record.written = commandLine (k + 1) text ++ (bs ++ [13, 10]))) ∧
      Attributed ("a" ++ (k + 1).repr) record.responses record.outcome) ∧
    (∀ record ∈ records c calls, ∀ fault, record.call.command = .error fault →
      record.outcome = .error fault ∧ record.after = record.before) ∧
    (∀ record ∈ records c calls, record.hasSent = false → record.outcome = .ok () →
      record.call.command = .ok none) ∧
    (c.blocked = none → ∀ record ∈ records c calls, ∀ text,
      record.call.command = .ok (some text) → record.hasSent = true) ∧
    ∀ record ∈ records c calls, record.after.tag ≤ calls.length := by
  refine ⟨fun k record hk => ?_, fun record hmem fault hrefused => ?_,
    fun record hmem hunsent hok => ?_, fun hopen record hmem text hcommand => ?_,
    fun record hmem => ?_⟩
  · obtain ⟨htag, text, hcommand, hsent⟩ := sent_of_getElem? hk
    have hk : record.before.tag = k := by rw [htag, hfresh, Nat.zero_add]
    exact ⟨⟨text, hcommand, hk ▸ written_of_sent hsent⟩, hk ▸ attributed_of_sent hsent⟩
  · have hconduct := conduct_of_mem hmem
    rw [hrefused] at hconduct
    exact hconduct.of_refused
  · have hconduct := conduct_of_mem hmem
    rcases hconduct.sent_or with ⟨text, _, hsent⟩ | ⟨hsame, _⟩
    · rw [hasSent_of_sent hsent] at hunsent
      cases hunsent
    · rw [hok] at hconduct
      exact hconduct.needless_of_ok hsame
  · have hconduct := conduct_of_mem hmem
    rw [hcommand] at hconduct
    exact hasSent_of_sent (hconduct.sent_of_open (by rw [blocked_of_mem hmem, hopen]))
  · simpa [hfresh] using tag_le_of_mem hmem

deriving instance DecidableEq for Except

/-- A refused argument, a response that cannot be read, the completion of the command before, and at
last the right one. -/
theorem late_completion_unexpected :
    let c := ofScript (Utf8.bytes "garbage\r\na1 OK late\r\na3 OK done\r\n") none none
    let calls : List Call :=
      [.order (.login "me\n" ""), .request (.select "INBOX"), .order .expunge, .order .logout]
    (records c calls).map Record.outcome =
        [.error (.invalidChar '\n'), .error (.unreadable (Utf8.bytes "garbage\r\n")),
          .error (.unexpected (.completion "a1" "a2")), .ok ()] ∧
      ∀ record, ((records c calls).filter Record.hasSent)[2]? = some record →
        ∃ remark, .completion ("a" ++ (3 : Nat).repr) .ok remark ∈ record.responses := by
  intro c calls
  have houtcome : (((records c calls).filter Record.hasSent).map Record.outcome)[2]? =
      some (.ok ()) := by decide +kernel
  refine ⟨by decide +kernel, fun record hrecord => ?_⟩
  have hok : record.outcome = .ok () := by simpa [hrecord] using houtcome
  exact ((completions_attributed c rfl calls).1 2 record hrecord).2.success hok

end Client

end Postroom.Wire
