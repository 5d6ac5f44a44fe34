import Postroom.Proofs.Wire.Framing

/-! # What a command does on the connection

A command has a text, which its arguments may make impossible, and an append has a content besides.
`Conduct` is what sending it and reading its completion can come to, and `Follows` says that an
action comes to nothing else whatever the connection brings.  Actions that check their arguments,
run a command and look at its data follow the command, by one lemma for each of these steps.

What a completion read on the way means for the result is `Attributed`: success needs a completion
with the tag of the command, and a completion with another tag is a failure.
-/

namespace Postroom.Wire

/-- The responses in a row of lines as a client reads them, a beginning being held back until it is
whole.  What is no response ends the reading. -/
def heard : (start : List UInt8) → List Line → List Response
  | _, [] => []
  | start, line :: rest =>
    match response (start ++ line) with
    | .done r _ => r :: heard [] rest
    | .more => heard (start ++ line) rest
    | .fail => []

/-- What begins like an invitation is one, if it is a response at all: no tag begins with a plus. -/
theorem continue_of_invitation {line rest : List UInt8} {r : Response}
    (h : response (43 :: line) = .done r rest) : ∃ remark, r = .continue_ remark := by
  have huntagged : untagged (43 :: line) = .fail := rfl
  have hcompletion : completion (43 :: line) = .fail := rfl
  rcases done_of_orElse (q := Reader.choice [untagged, completion]) h with h | h
  · obtain ⟨_, afterBlank, _, h⟩ := bind_eq_done.mp h
    obtain ⟨remark, afterRemark, _, h⟩ := bind_eq_done.mp h
    obtain ⟨_, afterLine, _, h⟩ := bind_eq_done.mp h
    cases h
    exact ⟨remark, rfl⟩
  · simp [Reader.choice, Reader.orElse, huntagged, hcompletion, Reader.failure] at h

/-- A result agrees with the completions that were read for a tag. -/
structure Attributed {α : Type} (tag : String) (responses : List Response)
    (outcome : Except Fault α) : Prop where
  /-- Success was said, and said of this tag. -/
  success {a : α} : outcome = .ok a → ∃ remark, .completion tag .ok remark ∈ responses
  /-- A completion with another tag is a failure. -/
  stranger {other : String} {status : Status} {remark : Remark} :
    .completion other status remark ∈ responses → other ≠ tag → ∃ fault, outcome = .error fault

namespace Attributed

variable {α β : Type} {tag : String} {responses : List Response} {outcome : Except Fault α}

theorem of_error (responses : List Response) (fault : Fault) :
    Attributed tag responses (.error fault : Except Fault α) where
  success h := nomatch h
  stranger _ _ := ⟨fault, rfl⟩

theorem cons {r : Response} (hr : r.isCompletion = false) (h : Attributed tag responses outcome) :
    Attributed tag (r :: responses) outcome where
  success hok := (h.success hok).imp fun _ => List.mem_cons_of_mem r
  stranger hmem hother := by
    rcases List.mem_cons.mp hmem with rfl | hmem
    · cases hr
    · exact h.stranger hmem hother

/-- What fails where another result fails agrees with the same completions. -/
theorem of_error_imp (h : Attributed tag responses outcome) {outcome' : Except Fault β}
    (hfails : ∀ fault, outcome = .error fault → ∃ fault', outcome' = .error fault') :
    Attributed tag responses outcome' where
  success {b} hok := by
    cases outcome with
    | ok a => exact h.success rfl
    | error fault =>
      obtain ⟨fault', herror⟩ := hfails fault rfl
      rw [herror] at hok
      cases hok
  stranger hmem hother := (h.stranger hmem hother).elim hfails

theorem judge (expected : String) (untagged : List UInt8) (tag : String) (status : Status)
    (remark : Remark) :
    Attributed expected [.completion tag status remark]
      (Client.judge expected untagged tag status remark) := by
  by_cases htag : tag = expected
  · subst htag
    constructor
    · intro completed hok
      cases status with
      | ok => exact ⟨remark, List.mem_singleton.mpr rfl⟩
      | no | bad | preauth | bye => simp [Client.judge] at hok
    · intro other status' remark' hmem hother
      simp_all
  · simpa [Client.judge, htag] using of_error _ _

end Attributed

namespace Client

open Postroom.Wire.Action

/-- What is read up to a completion agrees with the responses in it.  By induction on the lines. -/
theorem completionIn_attributed (expected : String) (ending : Fault) (untagged start : List UInt8)
    (lines : List Line) :
    ∃ read, lines = read ++ (completionIn expected ending untagged start lines).2 ∧
      Attributed expected (heard start read)
        (completionIn expected ending untagged start lines).1 := by
  induction lines generalizing untagged start with
  | nil => exact ⟨[], rfl, .of_error _ _⟩
  | cons line lines ih =>
    cases hresponse : response (start ++ line) with
    | done r rest =>
      rw [completionIn_of_done hresponse]
      cases hr : r.isCompletion with
      | true =>
        -- The reading ends here; the tag and the status decide.
        cases r with
        | completion tag status remark =>
          exact ⟨[line], rfl, by simpa [heard, hresponse] using .judge ..⟩
        | _ => cases hr
      | false =>
        obtain ⟨read, hlines, hread⟩ := ih (untagged ++ (start ++ line)) []
        rw [resume_of_data hr]
        exact ⟨line :: read, congrArg (line :: ·) hlines,
          by simpa [heard, hresponse] using hread.cons hr⟩
    | more =>
      obtain ⟨read, hlines, hread⟩ := ih untagged (start ++ line)
      rw [completionIn, hresponse]
      exact ⟨line :: read, congrArg (line :: ·) hlines, by simpa [heard, hresponse] using hread⟩
    | fail =>
      rw [completionIn, hresponse]
      exact ⟨[line], rfl, .of_error _ _⟩

/-! ### Conduct -/

/-- A command was sent with the next tag, and what was read agrees with the result.  After an
invitation, which is a line of its own, the content was sent as well. -/
structure Sent {α : Type} (text : String) (content : Option (List UInt8)) (c : Client)
    (outcome : Except Fault α) (c' : Client) : Prop where
  /-- Something could be sent. -/
  before_open : c.blocked = none
  /-- Something can still be sent. -/
  after_open : c'.blocked = none
  /-- One tag was used up. -/
  tag : c'.tag = c.tag + 1
  /-- The line of the command was sent, and perhaps the content behind it. -/
  written : c'.sent = c.sent ++ commandLine (c.tag + 1) text ∨
    ∃ bs, content = some bs ∧ c'.sent = c.sent ++ commandLine (c.tag + 1) text ++ (bs ++ [13, 10])
  /-- The lines that were read came next, and the result agrees with them. -/
  read : ∃ read, c.incoming = read ++ c'.incoming ∧
    Attributed ("a" ++ (c.tag + 1).repr)
      (heard [] (if content.isSome && c.isInvited then read.tail else read)) outcome

/-- What a command comes to on a connection: refused arguments and a command that is not needed
leave the connection alone, a connection that takes nothing takes no command either. -/
inductive Conduct {α : Type} (content : Option (List UInt8)) (c : Client) :
    Except Fault (Option String) → Except Fault α → Client → Prop
  | refused (fault : Fault) : Conduct content c (.error fault) (.error fault) c
  | needless (outcome : Except Fault α) : Conduct content c (.ok none) outcome c
  | blocked {text : String} {failure : Stream.Failure} (hblocked : c.blocked = some failure)
      (fault : Fault) :
      Conduct content c (.ok (some text)) (.error fault)
        { c with tag := c.tag + 1, pending := true }
  | sent {text : String} {outcome : Except Fault α} {c' : Client}
      (h : Sent text content c outcome c') : Conduct content c (.ok (some text)) outcome c'

/-- Whatever the connection brings, an action does what the command comes to. -/
def Follows {α : Type} (content : Option (List UInt8)) (command : Except Fault (Option String))
    (action : Action α) : Prop :=
  ∀ c, Conduct content c command (exec action c).1 (exec action c).2

/-- An action that leaves the connection alone. -/
def Quiet {α : Type} (action : Action α) : Prop := ∀ c, (exec action c).2 = c

variable {α β : Type} {content : Option (List UInt8)} {command : Except Fault (Option String)}
  {text : String} {c : Client}

theorem Sent.of_error_imp {outcome : Except Fault α} {outcome' : Except Fault β} {c' : Client}
    (h : Sent text content c outcome c')
    (hfails : ∀ fault, outcome = .error fault → ∃ fault', outcome' = .error fault') :
    Sent text content c outcome' c' :=
  { h with read := h.read.imp fun _ hread => ⟨hread.1, hread.2.of_error_imp hfails⟩ }

/-- What only adds failures to a result comes to the same on the connection. -/
theorem Conduct.of_error_imp {outcome : Except Fault α} {outcome' : Except Fault β} {c' : Client}
    (h : Conduct content c command outcome c')
    (hfails : ∀ fault, outcome = .error fault → outcome' = .error fault) :
    Conduct content c command outcome' c' := by
  cases h with
  | refused fault => exact hfails fault rfl ▸ .refused fault
  | needless => exact .needless _
  | blocked hblocked fault => exact hfails fault rfl ▸ .blocked hblocked fault
  | sent h => exact .sent (h.of_error_imp fun fault hfault => ⟨fault, hfails fault hfault⟩)

section

variable {outcome : Except Fault α} {c' : Client}

/-- The next command was sent, or nothing was; then no tag is used up unless nothing can be sent. -/
theorem Conduct.sent_or (h : Conduct content c command outcome c') :
    (∃ text, command = .ok (some text) ∧ Sent text content c outcome c') ∨
      (c'.sent = c.sent ∧ (c.blocked = none → c'.tag = c.tag)) := by
  cases h with
  | refused | needless => exact .inr ⟨rfl, fun _ => rfl⟩
  | blocked hblocked => exact .inr ⟨rfl, fun hopen => by simp [hopen] at hblocked⟩
  | sent h => exact .inl ⟨_, rfl, h⟩

theorem Conduct.of_refused {fault : Fault} (h : Conduct content c (.error fault) outcome c') :
    outcome = .error fault ∧ c' = c := by
  cases h
  exact ⟨rfl, rfl⟩

theorem Conduct.sent_of_open (h : Conduct content c (.ok (some text)) outcome c')
    (hopen : c.blocked = none) : Sent text content c outcome c' := by
  cases h with
  | blocked hblocked => simp [hopen] at hblocked
  | sent h => exact h

/-- What succeeds without sending had nothing to send. -/
theorem Conduct.needless_of_ok {a : α} (h : Conduct content c command (.ok a) c')
    (hunsent : c'.sent = c.sent) : command = .ok none := by
  cases h with
  | needless => rfl
  | sent h => rcases h.written with hw | ⟨bs, _, hw⟩ <;> simp [hunsent, commandLine] at hw

theorem Conduct.blocked_eq (h : Conduct content c command outcome c') :
    c'.blocked = c.blocked := by
  cases h with
  | refused | needless | blocked => rfl
  | sent h => rw [h.after_open, h.before_open]

/-- A command uses up a tag, whether it can be sent or not. -/
theorem Conduct.tag_eq (h : Conduct content c (.ok (some text)) outcome c') :
    c'.tag = c.tag + 1 := by
  cases h with
  | blocked => rfl
  | sent h => exact h.tag

theorem Conduct.tag_le (h : Conduct content c command outcome c') : c'.tag ≤ c.tag + 1 := by
  cases h with
  | refused | needless => exact Nat.le_succ _
  | blocked => exact Nat.le_refl _
  | sent h => exact Nat.le_of_eq h.tag

end

theorem quiet_pure (a : α) : Quiet (pure a) := fun _ => rfl

theorem quiet_liftM (r : Except Fault α) : Quiet (liftM r) := fun c => by simp

theorem Quiet.bind {action : Action α} {f : α → Action β} (h : Quiet action)
    (hf : ∀ a, Quiet (f a)) : Quiet (action >>= f) := by
  intro c
  have hc := h c
  rw [exec_bind]
  rcases hexec : exec action c with ⟨_ | a, c'⟩ <;> simp_all [Quiet]

namespace Follows

theorem pure (a : α) : Follows content (.ok none) (Pure.pure a) := fun _ => .needless _

/-- Looking at what a command brought does nothing on the connection. -/
theorem bind {action : Action α} {f : α → Action β} (h : Follows content command action)
    (hf : ∀ a, Quiet (f a)) : Follows content command (action >>= f) := by
  intro c
  have hc := h c
  rw [exec_bind]
  rcases hexec : exec action c with ⟨fault | a, c'⟩ <;> simp only [hexec] at hc ⊢
  · exact hc.of_error_imp fun _ => by simp
  · rw [hf a c']
    exact hc.of_error_imp fun _ => nofun

/-- An argument is checked before anything is sent. -/
theorem check {r : Except Fault β} {command : β → Except Fault (Option String)}
    {f : β → Action α} (hf : ∀ b, Follows content (command b) (f b)) :
    Follows content (r >>= command) (liftM r >>= f) := by
  intro c
  rw [exec_bind, exec_liftM]
  cases r with
  | error fault => exact .refused fault
  | ok b => exact hf b c

/-- Another name for a failure does nothing on the connection. -/
theorem catch_error {action : Action α} {handler : Fault → Action α}
    (h : Follows content (.ok (some text)) action)
    (hthrows : ∀ fault, ∃ fault', handler fault = throw fault') :
    Follows content (.ok (some text)) (tryCatch action handler) := by
  intro c
  have hc := h c
  rw [exec_tryCatch]
  rcases hexec : exec action c with ⟨fault | a, c'⟩ <;> simp only [hexec] at hc ⊢
  · obtain ⟨fault', hhandler⟩ := hthrows fault
    rw [hhandler, exec_throw]
    cases hc with
    | blocked hblocked => exact .blocked hblocked fault'
    | sent h => exact .sent (h.of_error_imp fun _ _ => ⟨fault', rfl⟩)
  · exact hc

end Follows

/-- Up to a completion lines are read, and nothing is sent. -/
theorem exec_readCompletion_attributed (c : Client) :
    ∃ outcome read later exchanges,
      exec readCompletion c =
        (outcome, { c with incoming := later, exchanges := exchanges }) ∧
      c.incoming = read ++ later ∧ Attributed ("a" ++ c.tag.repr) (heard [] read) outcome := by
  obtain ⟨read, hlines, hread⟩ :=
    completionIn_attributed ("a" ++ c.tag.repr) c.ending [] [] c.incoming
  exact ⟨_, read, _, _, exec_readCompletion hlines rfl, hlines, hread⟩

/-- A command is sent, and lines are read up to a completion. -/
theorem follows_run (text : String) : Follows none (.ok (some text)) (run text) := by
  intro c
  rw [run, exec_bind]
  cases hblocked : c.blocked with
  | some failure =>
    rw [exec_send_of_blocked hblocked]
    exact .blocked hblocked _
  | none =>
    rw [exec_send_of_open hblocked]
    obtain ⟨outcome, read, later, exchanges, hexec, hlines, hread⟩ :=
      exec_readCompletion_attributed (c.issued text)
    simp only [hexec]
    exact .sent ⟨hblocked, hblocked, rfl, .inl rfl, read, hlines, hread⟩

theorem exists_of_isInvited (h : c.isInvited = true) :
    ∃ line rest, c.incoming = line :: rest := by
  unfold isInvited at h
  cases hincoming : c.incoming with
  | nil => simp [hincoming] at h
  | cons line rest => exact ⟨line, rest, rfl⟩

/-- After an invitation the content is sent, and lines are read up to a completion. -/
theorem exec_content {line : Line} {rest : List Line} (bs : List UInt8)
    (hblocked : c.blocked = none) (hincoming : c.incoming = line :: rest) :
    ∃ outcome read later exchanges,
      exec (do
        let _ ← readLine
        write bs
        let _ ← readCompletion) c =
          (outcome,
            { c with incoming := later, sent := c.sent ++ bs, exchanges := exchanges }) ∧
      rest = read ++ later ∧ Attributed ("a" ++ c.tag.repr) (heard [] read) outcome := by
  rw [exec_bind, exec_readLine hincoming]
  simp only [exec_bind]
  rw [exec_write_of_open (by simpa using hblocked)]
  obtain ⟨outcome, read, later, exchanges, hexec, hlines, hread⟩ :=
    exec_readCompletion_attributed { c with
      incoming := rest, sent := c.sent ++ bs, exchanges := .received line :: c.exchanges }
  simp only [hexec]
  cases outcome with
  | error fault =>
    exact ⟨_, read, later, exchanges, rfl, hlines, hread.of_error_imp fun _ _ => ⟨fault, rfl⟩⟩
  | ok completed =>
    exact ⟨_, read, later, exchanges, rfl, hlines, hread.of_error_imp fun _ => nofun⟩

/-- Sends a command, and a content behind it if the server asks for it. -/
def sendContent (text : String) (bs : List UInt8) : Action Unit := do
  send text
  if isInvited (← get) then
    let _ ← readLine
    write (bs ++ [13, 10])
    let _ ← readCompletion
  else
    let _ ← readCompletion
    throw .appendRefused

/-- The content goes behind the command when the invitation has been read. -/
theorem exec_sendContent_of_invited {line : Line} {rest : List Line} (text : String)
    (bs : List UInt8) (hblocked : c.blocked = none) (hinvited : c.isInvited = true)
    (hincoming : c.incoming = line :: rest) :
    ∃ outcome read later exchanges,
      exec (sendContent text bs) c = (outcome, { c.issued text with
        incoming := later, sent := (c.issued text).sent ++ (bs ++ [13, 10])
        exchanges := exchanges }) ∧
      rest = read ++ later ∧
      Attributed ("a" ++ (c.tag + 1).repr) (heard [] read) outcome := by
  obtain ⟨outcome, read, later, exchanges, hexec, hlines, hread⟩ :=
    exec_content (c := c.issued text) (bs ++ [13, 10]) hblocked hincoming
  refine ⟨outcome, read, later, exchanges, ?_, hlines, hread⟩
  rw [sendContent, exec_bind, exec_send_of_open hblocked]
  simp only [exec_bind, exec_get]
  rw [if_pos (show (c.issued text).isInvited = true from hinvited), hexec]

/-- Without an invitation the call fails in any case, whatever the completion says. -/
theorem exec_sendContent_of_uninvited (text : String) (bs : List UInt8)
    (hblocked : c.blocked = none) (hinvited : c.isInvited = false) :
    ∃ fault read later exchanges,
      exec (sendContent text bs) c = (.error fault, { c.issued text with
        incoming := later, exchanges := exchanges }) ∧
      c.incoming = read ++ later := by
  obtain ⟨outcome, read, later, exchanges, hexec, hlines, -⟩ :=
    exec_readCompletion_attributed (c.issued text)
  have hfails : ∃ fault, exec (sendContent text bs) c = (.error fault, { c.issued text with
      incoming := later, exchanges := exchanges }) := by
    rw [sendContent, exec_bind, exec_send_of_open hblocked]
    simp only [exec_bind, exec_get]
    have hnot : ¬ (c.issued text).isInvited = true := Bool.eq_false_iff.mp hinvited
    rw [if_neg hnot, exec_bind, hexec]
    cases outcome with
    | error fault => exact ⟨fault, rfl⟩
    | ok completed => exact ⟨.appendRefused, rfl⟩
  obtain ⟨fault, hfails⟩ := hfails
  exact ⟨fault, read, later, exchanges, hfails, hlines⟩

/-- The content of a message is sent after the invitation; a completion in its place is a
refusal. -/
theorem follows_append (text : String) (bs : List UInt8) :
    Follows (some bs) (.ok (some text)) (do
      send text
      if isInvited (← get) then
        let _ ← readLine
        write (bs ++ [13, 10])
        let _ ← readCompletion
      else
        let _ ← readCompletion
        throw .appendRefused) := by
  change Follows _ _ (sendContent text bs)
  intro c
  cases hblocked : c.blocked with
  | some failure =>
    rw [sendContent, exec_bind, exec_send_of_blocked hblocked]
    exact .blocked hblocked _
  | none =>
    cases hinvited : c.isInvited with
    | true =>
      obtain ⟨line, rest, hincoming⟩ := exists_of_isInvited hinvited
      obtain ⟨outcome, read, later, exchanges, hexec, hlines, hread⟩ :=
        exec_sendContent_of_invited text bs hblocked hinvited hincoming
      rw [hexec]
      exact .sent ⟨hblocked, hblocked, rfl, .inr ⟨bs, rfl, rfl⟩, line :: read,
        by simpa [← hlines] using hincoming, by simpa [hinvited] using hread⟩
    | false =>
      obtain ⟨fault, read, later, exchanges, hexec, hlines⟩ :=
        exec_sendContent_of_uninvited text bs hblocked hinvited
      rw [hexec]
      exact .sent ⟨hblocked, hblocked, rfl, .inl rfl, read, hlines, .of_error _ _⟩

end Client

end Postroom.Wire
