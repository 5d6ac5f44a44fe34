import Postroom.Proofs.Wire.Sending

/-! # When a content is sent

A command that adds a message ends with the size of its content, and the content follows
when the server invites it.  The client looks for the invitation in the next line and in no
other.  So the content is sent if nothing comes before the invitation, and then the
completion decides on success (`exec_sendContent_of_prompt`); a completion in its place is a
refusal whatever it says.  But a server may send data that belong to no command at any
time, and if it does so before the invitation, the client takes them for a refusal as well:
it reads past the invitation to the completion, sends no content and fails
(`content_sent_iff`).
-/

namespace Postroom.Wire

open Text

/-- Whether a response belongs to no command and asks for nothing. -/
def Response.isUntagged : Response → Bool
  | .completion .. | .continue_ _ => false
  | _ => true

theorem Response.isCompletion_of_isUntagged {r : Response} (h : r.isUntagged = true) :
    r.isCompletion = false := by
  cases r <;> first | rfl | cases h

/-- Data and completions do not begin like an invitation. -/
theorem IsWhole.head?_ne {bs : List UInt8} {r : Response} (h : IsWhole bs r)
    (hr : ∀ remark, r ≠ .continue_ remark) : bs.head? ≠ some 43 := by
  intro hhead
  obtain ⟨line, rfl⟩ : ∃ line, bs = 43 :: line := by
    cases bs with
    | nil => cases hhead
    | cons b line => exact ⟨line, by rw [Option.some.inj hhead]⟩
  obtain ⟨remark, hremark⟩ := continue_of_invitation h.accepted
  exact hr remark hremark

/-- The first line begins with the first byte. -/
theorem head?_of_linesOf {input : List UInt8} {line : Line} {rest : List Line}
    (h : linesOf input = line :: rest) : line.head? = input.head? := by
  cases input with
  | nil => cases h
  | cons b more =>
    rw [linesOf] at h
    split at h
    · obtain ⟨rfl, -⟩ := List.cons.inj h
      rfl
    · split at h <;> (obtain ⟨rfl, -⟩ := List.cons.inj h; rfl)

/-- Bytes without a line feed and the line feed behind them are a line. -/
theorem linesOf_line {front : List UInt8} (h : 10 ∉ front) (back : List UInt8) :
    linesOf (front ++ 10 :: back) = (front ++ [10]) :: linesOf back := by
  induction front with
  | nil => rfl
  | cons b front ih =>
    obtain ⟨hb, hfront⟩ := not_or.mp (mt List.mem_cons.mpr h)
    rw [List.cons_append, linesOf, if_neg (Ne.symm hb), ih hfront]
    rfl

namespace Client

open Postroom.Wire.Action

variable {c : Client} {data more : List (List UInt8)} {prompt completion rest : List UInt8}
  {status : Status} {remark : Remark}

theorem isInvited_eq {input : List UInt8} (h : c.incoming = linesOf input) :
    c.isInvited = decide (input.head? = some 43) := by
  unfold isInvited
  rw [h]
  cases hlines : linesOf input with
  | nil =>
    have hempty : input = [] := by simpa [hlines] using (flatten_linesOf input).symm
    simp [hempty]
  | cons line rest => rw [← head?_of_linesOf hlines]

/-- A completion with the right tag means success exactly if it says so. -/
theorem judge_eq_ok_iff {tag : String} {untagged : List UInt8} :
    (∃ completed, judge tag untagged tag status remark = .ok completed) ↔ status = .ok := by
  cases status with
  | ok =>
    simp only [judge, ne_eq, not_true_eq_false, if_false, iff_true]
    split <;> exact ⟨_, rfl⟩
  | no | bad | preauth | bye => simp [judge]

/-- After an invitation the content is sent, and the call ends as the completion says. -/
theorem exec_sendContent_judged (text : String) (bs : List UInt8) (hopen : c.blocked = none)
    (hprompt : 10 ∉ prompt) (hmore : ∀ bs ∈ more, ∃ r, IsWhole bs r ∧ r.isCompletion = false)
    (hcompletion : IsWhole completion (.completion ("a" ++ (c.tag + 1).repr) status remark))
    (hincoming : c.incoming =
      linesOf (43 :: prompt ++ 10 :: (more.flatten ++ completion ++ rest))) :
    ∃ exchanges, exec (sendContent text bs) c =
      ((judge ("a" ++ (c.tag + 1).repr) more.flatten ("a" ++ (c.tag + 1).repr) status remark).map
          fun _ => (),
        { c.issued text with
          incoming := linesOf rest
          sent := (c.issued text).sent ++ (bs ++ [13, 10])
          exchanges := exchanges }) := by
  have hinvited : (c.issued text).isInvited = true := by
    rw [isInvited_eq (c := c.issued text) hincoming]
    rfl
  have hline : 10 ∉ 43 :: prompt := fun hmem =>
    (List.mem_cons.mp hmem).elim (by decide) hprompt
  rw [linesOf_line hline] at hincoming
  have hreading : ({ c.issued text with
      incoming := linesOf (more.flatten ++ completion ++ rest)
      sent := (c.issued text).sent ++ (bs ++ [13, 10])
      exchanges := .received (43 :: prompt ++ [10]) :: (c.issued text).exchanges } :
      Client).incoming = linesOf (more.flatten ++ completion ++ rest) := rfl
  obtain ⟨exchanges, hread⟩ := exec_readCompletion_of_whole hmore hcompletion hreading
  rw [sendContent, exec_bind, exec_send_of_open hopen]
  simp only [exec_bind, exec_get]
  rw [if_pos hinvited, exec_bind, exec_readLine (c := c.issued text) hincoming]
  simp only [exec_bind]
  rw [exec_write_of_open (by simpa using hopen)]
  simp only [hread]
  simp only [issued_tag]
  cases judge ("a" ++ (c.tag + 1).repr) more.flatten ("a" ++ (c.tag + 1).repr) status remark with
  | error fault => exact ⟨exchanges, rfl⟩
  | ok completed => exact ⟨exchanges, rfl⟩

/-- After an invitation the content is sent, and the completion decides. -/
theorem exec_sendContent_of_prompt (text : String) (bs : List UInt8) (hopen : c.blocked = none)
    (hprompt : 10 ∉ prompt) (hmore : ∀ bs ∈ more, ∃ r, IsWhole bs r ∧ r.isCompletion = false)
    (hcompletion : IsWhole completion (.completion ("a" ++ (c.tag + 1).repr) status remark))
    (hincoming : c.incoming =
      linesOf (43 :: prompt ++ 10 :: (more.flatten ++ completion ++ rest))) :
    ∃ outcome exchanges, exec (sendContent text bs) c = (outcome, { c.issued text with
        incoming := linesOf rest
        sent := (c.issued text).sent ++ (bs ++ [13, 10])
        exchanges := exchanges }) ∧
      (outcome = .ok () ↔ status = .ok) := by
  obtain ⟨exchanges, hexec⟩ :=
    exec_sendContent_judged text bs hopen hprompt hmore hcompletion hincoming
  refine ⟨_, exchanges, hexec, ?_⟩
  rw [map_eq_ok_iff]
  simpa using judge_eq_ok_iff

/-- The text of a command that adds a message. -/
def appendText (mailbox : String) (flags : List Flag) (content : List UInt8) : String :=
  "APPEND " ++ inQuotes (MailboxName.encode mailbox)
    ++ (if flags.isEmpty then "" else " (" ++ Flag.join flags ++ ")")
    ++ " \x7b" ++ content.length.repr ++ "\x7d"

theorem command_append {flags : List Flag} (hflags : ∀ f ∈ flags, checkFlag f = .ok ())
    (mailbox : String) (content : List UInt8) :
    (Order.append mailbox flags content).command = .ok (appendText mailbox flags content) := by
  rw [Order.command_append_eq, Order.flagArgument_eq, flagText_eq_ok_iff.mpr ⟨hflags, rfl⟩]
  rfl

theorem exec_append_eq {flags : List Flag} (hflags : ∀ f ∈ flags, checkFlag f = .ok ())
    (mailbox : String) (content : List UInt8) (c : Client) :
    exec (append mailbox flags content) c =
      exec (sendContent (appendText mailbox flags content) content) c := by
  have hcommand : (Call.order (.append mailbox flags content)).command =
      .ok (some (appendText mailbox flags content)) := by
    rw [Call.command, command_append hflags]
    rfl
  exact exec_append rfl hcommand c

/-- What begins otherwise than an invitation keeps the content back, and the call fails. -/
theorem exec_sendContent_of_head? (text : String) (bs : List UInt8) (hopen : c.blocked = none)
    {input : List UInt8} (hincoming : c.incoming = linesOf input) (hhead : input.head? ≠ some 43) :
    (exec (sendContent text bs) c).2.sent = c.sent ++ commandLine (c.tag + 1) text ∧
      ∃ fault, (exec (sendContent text bs) c).1 = .error fault := by
  have huninvited : c.isInvited = false := by
    rw [isInvited_eq hincoming, decide_eq_false hhead]
  obtain ⟨fault, read, later, exchanges, hexec, -⟩ :=
    exec_sendContent_of_uninvited text bs hopen huninvited
  rw [hexec]
  exact ⟨rfl, fault, rfl⟩

/-- A row of data begins as its first response does. -/
theorem head?_flatten_append {bs : List UInt8} (h : ∃ r, IsWhole bs r)
    (others : List (List UInt8)) (input : List UInt8) :
    ((bs :: others).flatten ++ input).head? = bs.head? := by
  obtain ⟨r, hwhole⟩ := h
  obtain ⟨b, line, rfl⟩ := List.exists_cons_of_ne_nil hwhole.ne_nil
  rfl

/-- **A content is sent if nothing comes before its invitation, and not otherwise.**  If the server
invites the content at once, the content is sent behind the command, the call succeeds exactly if
the completion says so, and what follows the completion stays.  If any data come before the
invitation, or a completion comes without one, no content is sent and the call fails. -/
theorem content_sent_iff (c : Client) (hopen : c.blocked = none) (mailbox : String)
    {flags : List Flag} (hflags : ∀ f ∈ flags, checkFlag f = .ok ()) (content : List UInt8)
    {data more : List (List UInt8)} (hdata : ∀ bs ∈ data, ∃ r, IsWhole bs r ∧ r.isUntagged = true)
    (hmore : ∀ bs ∈ more, ∃ r, IsWhole bs r ∧ r.isUntagged = true) {completion : List UInt8}
    {status : Status} {remark : Remark}
    (hcompletion : IsWhole completion (.completion ("a" ++ (c.tag + 1).repr) status remark))
    (rest : List UInt8) :
    let call :=
      fun input => exec (append mailbox flags content) { c with incoming := linesOf input }
    let line := commandLine (c.tag + 1) (appendText mailbox flags content)
    (∀ prompt, 10 ∉ prompt →
      let called := call (data.flatten ++
        (43 :: prompt ++ 10 :: (more.flatten ++ completion ++ rest)))
      (called.2.sent = c.sent ++ line ++ (content ++ [13, 10]) ∧
          called.2.incoming = linesOf rest ∧ (called.1 = .ok () ↔ status = .ok) ↔ data = []) ∧
        (data ≠ [] → called.2.sent = c.sent ++ line ∧ ∃ fault, called.1 = .error fault)) ∧
      let refused := call (data.flatten ++ (completion ++ rest))
      refused.2.sent = c.sent ++ line ∧ ∃ fault, refused.1 = .error fault := by
  intro call line
  have hcall : ∀ input, call input =
      exec (sendContent (appendText mailbox flags content) content)
        { c with incoming := linesOf input } := fun input => exec_append_eq hflags mailbox content _
  -- Whatever comes behind them, data keep the content back.
  have huninvited : ∀ input, data ≠ [] →
      (call (data.flatten ++ input)).2.sent = c.sent ++ line ∧
        ∃ fault, (call (data.flatten ++ input)).1 = .error fault := by
    intro input hsome
    obtain ⟨bs, others, rfl⟩ := List.exists_cons_of_ne_nil hsome
    obtain ⟨r, hwhole, hr⟩ := hdata bs List.mem_cons_self
    rw [hcall]
    refine exec_sendContent_of_head? (c := { c with incoming := _ }) _ _ hopen rfl ?_
    rw [head?_flatten_append ⟨r, hwhole⟩]
    exact hwhole.head?_ne (by rintro remark rfl; cases hr)
  refine ⟨fun prompt hprompt => ⟨⟨fun hsent => ?_, ?_⟩, huninvited _⟩, ?_⟩
  · refine Classical.byContradiction fun hsome => ?_
    obtain ⟨hunsent, -⟩ := huninvited _ hsome
    have hcontent := hunsent.symm.trans hsent.1
    simp at hcontent
  · rintro rfl
    obtain ⟨outcome, exchanges, hexec, hok⟩ := exec_sendContent_of_prompt
      (c := { c with
        incoming := linesOf (43 :: prompt ++ 10 :: (more.flatten ++ completion ++ rest)) })
      (appendText mailbox flags content) content hopen hprompt
      (fun bs hbs => (hmore bs hbs).imp fun r h => ⟨h.1, Response.isCompletion_of_isUntagged h.2⟩)
      hcompletion rfl
    rw [List.flatten_nil, List.nil_append, hcall, hexec]
    exact ⟨rfl, rfl, hok⟩
  · by_cases hsome : data = []
    · subst hsome
      rw [List.flatten_nil, List.nil_append]
      simp only [hcall]
      refine exec_sendContent_of_head? (c := { c with incoming := _ }) _ _ hopen rfl ?_
      obtain ⟨b, bs, hcons⟩ := List.exists_cons_of_ne_nil hcompletion.ne_nil
      have hhead := hcompletion.head?_ne (fun remark h => nomatch h)
      rw [hcons] at hhead ⊢
      exact hhead
    · exact huninvited _ hsome

/-- An invitation behind a number of messages, and one in the first line. -/
theorem content_sent_at_once :
    let c := ofScript [] none none
    let call := fun input =>
      exec (append "INBOX" [.seen] [104, 105]) { c with incoming := linesOf input }
    let line := commandLine 1 (appendText "INBOX" [.seen] [104, 105])
    let data := Utf8.bytes "* 1 EXISTS\r\n"
    let invited := Utf8.bytes "+ go\r\n" ++ Utf8.bytes "a1 OK done\r\n"
    ((call (data ++ invited)).2.sent = line ∧ ∃ fault, (call (data ++ invited)).1 = .error fault) ∧
      (call invited).2.sent = line ++ [104, 105, 13, 10] ∧ (call invited).1 = .ok () := by
  intro c call line data invited
  have hwhole : ∀ bs ∈ [data], ∃ r, IsWhole bs r ∧ r.isUntagged = true := by
    intro bs hbs
    obtain rfl := List.mem_singleton.mp hbs
    exact ⟨.messages 1, by decide +kernel, rfl⟩
  have hcompletion : IsWhole (Utf8.bytes "a1 OK done\r\n")
      (.completion ("a" ++ (c.tag + 1).repr) .ok ⟨none, some "done"⟩) := by decide +kernel
  have hflags : ∀ f ∈ [Flag.seen], checkFlag f = .ok () := by decide
  have hprompt : (10 : UInt8) ∉ Utf8.bytes " go\r" := by decide +kernel
  have hinvited : invited =
      43 :: Utf8.bytes " go\r" ++ 10 :: ([].flatten ++ Utf8.bytes "a1 OK done\r\n" ++ []) := by
    decide +kernel
  have hnone : ∀ bs ∈ ([] : List (List UInt8)), ∃ r, IsWhole bs r ∧ r.isUntagged = true :=
    fun bs hbs => absurd hbs List.not_mem_nil
  obtain ⟨hbehind, -⟩ :=
    content_sent_iff c rfl "INBOX" hflags [104, 105] hwhole hnone hcompletion []
  obtain ⟨hatOnce, -⟩ := content_sent_iff c rfl "INBOX" hflags [104, 105] hnone hnone hcompletion []
  obtain ⟨-, hkept⟩ := hbehind _ hprompt
  obtain ⟨⟨-, hsent⟩, -⟩ := hatOnce _ hprompt
  rw [← hinvited, List.flatten_singleton] at hkept
  rw [← hinvited] at hsent
  obtain ⟨hcontent, -, hok⟩ := hsent rfl
  exact ⟨hkept (List.cons_ne_nil _ _), hcontent, hok.mpr rfl⟩

/-- **Data before the invitation keep the content back.**  The server says how many messages there
are, then invites the content, and completes the command as if it had been sent: the client has
sent nothing behind the command, and says that the server did not take the message. -/
theorem content_not_sent_behind_data :
    let data := Utf8.bytes "* 1 EXISTS\r\n"
    let completion := Utf8.bytes "a1 OK done\r\n"
    let c := ofScript (data ++ Utf8.bytes "+ go\r\n" ++ completion) none none
    let called := exec (append "INBOX" [] (Utf8.bytes "hello")) c
    IsWhole data (.messages 1) ∧
      IsWhole completion (.completion "a1" .ok ⟨none, some "done"⟩) ∧
      called.1 = .error .appendRefused ∧
      called.2.sent = Utf8.bytes "a1 APPEND \"INBOX\" \x7b5\x7d\r\n" := by
  decide +kernel

end Client

end Postroom.Wire
