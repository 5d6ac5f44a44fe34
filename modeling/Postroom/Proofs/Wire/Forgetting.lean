import Postroom.Proofs.Wire.Attribution

/-! # What a client remembers

Two clients may have come to where they are on different ways.  What they have in common when the
same lines are ahead of them, the same can be sent and the same tag comes next is `Client.Level`.
An action is `Forgetful` if level clients get the same result from it and are level afterwards, so
nothing that went before has a part in it.  Every piece of an action is forgetful and so is what is
put together from such pieces, hence every call of a client (`forgetful_call`), and by induction
any calls in a row (`results_eq`).
-/

namespace Postroom.Wire

/-- What an order finds. -/
abbrev Order.Finding : Order → Type
  | .select _ | .examine _ => MailboxStatus
  | .list _ _ => List Listing
  | .search _ => List Uid
  | .fetch _ _ | .store _ _ => List Fetched
  | .copy _ _ | .move _ _ => Option Uid
  | _ => Unit

/-- What a client does on an order, with what it finds. -/
def Order.perform : (o : Order) → Action o.Finding
  | .login user password => Client.login user password
  | .select mailbox => Client.select mailbox
  | .examine mailbox => Client.examine mailbox
  | .create mailbox => Client.create mailbox
  | .delete mailbox => Client.delete mailbox
  | .list reference pattern => Client.list reference pattern
  | .search keys => Client.search keys
  | .fetch set items => Client.fetch set items
  | .store set change => Client.store set change
  | .copy set mailbox => Client.copy set mailbox
  | .move set mailbox => Client.move set mailbox
  | .expunge => Client.expunge
  | .expungeSet set => Client.expungeSet set
  | .append mailbox flags content => Client.append mailbox flags content
  | .logout => Client.logout

/-- What a call finds. -/
abbrev Call.Finding : Call → Type
  | .order o => o.Finding
  | .request r => r.Reply

/-- What a client does when it is called, with what it finds. -/
def Call.perform : (call : Call) → Action call.Finding
  | .order o => o.perform
  | .request r => Client.answer r

namespace Client

open Postroom.Wire.Action

/-- The results of calls in a row. -/
def results (c : Client) : List Call → List ((call : Call) × Except Fault call.Finding)
  | [] => []
  | call :: calls =>
    let (result, after) := exec call.perform c
    ⟨call, result⟩ :: results after calls

theorem results_cons (c : Client) (call : Call) (calls : List Call) :
    results c (call :: calls) =
      ⟨call, (exec call.perform c).1⟩ :: results (exec call.perform c).2 calls := rfl

/-- The same is ahead of two clients, whatever is behind them. -/
structure Level (c₁ c₂ : Client) : Prop where
  /-- The same lines can still be read. -/
  incoming : c₁.incoming = c₂.incoming
  /-- The same happens after them. -/
  ending : c₁.ending = c₂.ending
  /-- The same keeps anything from being sent, if something does. -/
  blocked : c₁.blocked = c₂.blocked
  /-- The same tag was used last. -/
  tag : c₁.tag = c₂.tag

/-- An action gives level clients the same result and leaves them level. -/
def Forgetful {α : Type} (action : Action α) : Prop :=
  ∀ c₁ c₂ : Client, c₁.Level c₂ →
    (exec action c₁).1 = (exec action c₂).1 ∧ (exec action c₁).2.Level (exec action c₂).2

/-! ### Pieces of an action -/

namespace Forgetful

variable {α β : Type}

theorem pure (a : α) : Forgetful (Pure.pure a) := fun _ _ h => ⟨rfl, h⟩

theorem throw (fault : Fault) : Forgetful (MonadExcept.throw fault : Action α) :=
  fun _ _ h => ⟨rfl, h⟩

theorem liftM (r : Except Fault α) : Forgetful (MonadLiftT.monadLift r : Action α) := by
  intro c₁ c₂ h
  have hexec : ∀ c, exec (MonadLiftT.monadLift r : Action α) c = (r, c) := fun c => exec_liftM c r
  rw [hexec, hexec]
  exact ⟨rfl, h⟩

theorem bind {action : Action α} {f : α → Action β} (h : Forgetful action)
    (hf : ∀ a, Forgetful (f a)) : Forgetful (action >>= f) := by
  intro c₁ c₂ hlevel
  obtain ⟨hresult, hafter⟩ := h c₁ c₂ hlevel
  rw [exec_bind, exec_bind]
  rcases h₁ : exec action c₁ with ⟨result, c₁'⟩
  rcases h₂ : exec action c₂ with ⟨result₂, c₂'⟩
  rw [h₁, h₂] at hresult hafter
  obtain rfl : result = result₂ := hresult
  cases result with
  | error fault => exact ⟨rfl, hafter⟩
  | ok a => exact hf a c₁' c₂' hafter

theorem tryCatch {action : Action α} {handler : Fault → Action α} (h : Forgetful action)
    (hhandler : ∀ fault, Forgetful (handler fault)) : Forgetful (tryCatch action handler) := by
  intro c₁ c₂ hlevel
  obtain ⟨hresult, hafter⟩ := h c₁ c₂ hlevel
  rw [exec_tryCatch, exec_tryCatch]
  rcases h₁ : exec action c₁ with ⟨result, c₁'⟩
  rcases h₂ : exec action c₂ with ⟨result₂, c₂'⟩
  rw [h₁, h₂] at hresult hafter
  obtain rfl : result = result₂ := hresult
  cases result with
  | error fault => exact hhandler fault c₁' c₂' hafter
  | ok a => exact ⟨rfl, hafter⟩

end Forgetful

theorem forgetful_write (bs : List UInt8) : Forgetful (write bs) := by
  intro c₁ c₂ h
  cases hblocked : c₂.blocked with
  | none =>
    rw [exec_write_of_open (h.blocked.trans hblocked), exec_write_of_open hblocked]
    exact ⟨rfl, h.incoming, h.ending, h.blocked, h.tag⟩
  | some failure =>
    rw [exec_write_of_blocked (h.blocked.trans hblocked), exec_write_of_blocked hblocked]
    exact ⟨rfl, h.incoming, h.ending, h.blocked, h.tag⟩

/-- A command is sent with the tag that comes next. -/
theorem forgetful_send (command : String) : Forgetful (send command) := by
  intro c₁ c₂ h
  cases hblocked : c₂.blocked with
  | none =>
    rw [exec_send_of_open (h.blocked.trans hblocked), exec_send_of_open hblocked]
    exact ⟨rfl, h.incoming, h.ending, h.blocked, congrArg (· + 1) h.tag⟩
  | some failure =>
    rw [exec_send_of_blocked (h.blocked.trans hblocked), exec_send_of_blocked hblocked]
    exact ⟨rfl, h.incoming, h.ending, h.blocked, congrArg (· + 1) h.tag⟩

/-- The lines ahead, the tag and what happens after the lines are all that the reading goes by. -/
theorem forgetful_readCompletion : Forgetful readCompletion := by
  intro c₁ c₂ h
  obtain ⟨read, hlines, -⟩ :=
    completionIn_attributed ("a" ++ c₂.tag.repr) c₂.ending [] [] c₂.incoming
  have hsame : completionIn ("a" ++ c₁.tag.repr) c₁.ending [] [] c₁.incoming =
      completionIn ("a" ++ c₂.tag.repr) c₂.ending [] [] c₂.incoming := by
    rw [h.tag, h.ending, h.incoming]
  rw [exec_readCompletion (h.incoming.trans hlines) hsame, exec_readCompletion hlines rfl]
  exact ⟨rfl, rfl, h.ending, h.blocked, h.tag⟩

theorem forgetful_readLine : Forgetful readLine := by
  intro c₁ c₂ h
  cases hlines : c₂.incoming with
  | nil =>
    have hempty : ∀ {c : Client}, c.incoming = [] → exec readLine c = (.error c.ending, c) := by
      intro c hc
      rw [readLine, exec_bind, exec_get]
      simp only [hc, exec_throw]
    rw [hempty (h.incoming.trans hlines), hempty hlines, h.ending]
    exact ⟨rfl, h⟩
  | cons line rest =>
    rw [exec_readLine (h.incoming.trans hlines), exec_readLine hlines]
    exact ⟨rfl, rfl, h.ending, h.blocked, h.tag⟩

theorem forgetful_run (command : String) : Forgetful (run command) :=
  (forgetful_send command).bind fun _ => forgetful_readCompletion

theorem forgetful_runQuietly (command : String) : Forgetful (runQuietly command) :=
  (forgetful_run command).bind fun _ => .pure ()

/-- Whether the content of a message is sent is decided by the next line. -/
theorem forgetful_invited {α : Type} {invited uninvited : Action α} (h : Forgetful invited)
    (h' : Forgetful uninvited) :
    Forgetful (do if isInvited (← get) then invited else uninvited) := by
  intro c₁ c₂ hlevel
  have hsame : c₁.isInvited = c₂.isInvited := by rw [isInvited, isInvited, hlevel.incoming]
  simp only [exec_bind, exec_get, hsame]
  split
  · exact h c₁ c₂ hlevel
  · exact h' c₁ c₂ hlevel

/-! ### Calls -/

theorem forgetful_order (o : Order) : Forgetful o.perform := by
  cases o with
  | login user password =>
    refine (Forgetful.liftM _).bind fun user => (Forgetful.liftM _).bind fun password => ?_
    refine (forgetful_runQuietly _).tryCatch fun fault => ?_
    cases fault <;> exact .throw _
  | select mailbox =>
    exact (Forgetful.liftM _).bind fun _ => (forgetful_run _).bind fun _ => .liftM _
  | examine mailbox =>
    exact (Forgetful.liftM _).bind fun _ =>
      (forgetful_run _).bind fun _ => (Forgetful.liftM _).bind fun _ => .pure _
  | move set mailbox =>
    exact (Forgetful.liftM _).bind fun _ =>
      (forgetful_run _).bind fun _ => (Forgetful.liftM _).bind fun _ => .pure _
  | create mailbox | delete mailbox =>
    exact (Forgetful.liftM _).bind fun _ => forgetful_runQuietly _
  | copy set mailbox =>
    exact (Forgetful.liftM _).bind fun _ => (forgetful_run _).bind fun _ => .pure _
  | list reference pattern =>
    exact (Forgetful.liftM _).bind fun _ => (Forgetful.liftM _).bind fun _ =>
      (forgetful_run _).bind fun _ => .liftM _
  | search keys | fetch set items | store set change =>
    exact (forgetful_run _).bind fun _ => .liftM _
  | expunge | logout | expungeSet set => exact forgetful_runQuietly _
  | append mailbox flags content =>
    have hsend : ∀ text, Forgetful (sendContent text content) := fun text =>
      (forgetful_send text).bind fun _ => forgetful_invited
        (forgetful_readLine.bind fun _ => (forgetful_write _).bind fun _ =>
          forgetful_readCompletion.bind fun _ => .pure ())
        (forgetful_readCompletion.bind fun _ => .throw _)
    simp only [Order.perform, append, pure_bind]
    cases flags.isEmpty with
    | true =>
      simp only [if_true]
      exact (Forgetful.liftM _).bind fun _ => hsend _
    | false =>
      simp only [Bool.false_eq_true, if_false]
      exact (Forgetful.liftM _).bind fun _ => (Forgetful.liftM _).bind fun _ => hsend _

/-- A request is an order, or is answered on the spot. -/
theorem forgetful_answer (r : Request) : Forgetful (answer r) := by
  cases r with
  | select mailbox => exact forgetful_order (.select mailbox)
  | examine mailbox => exact forgetful_order (.examine mailbox)
  | create mailbox => exact forgetful_order (.create mailbox)
  | delete mailbox => exact forgetful_order (.delete mailbox)
  | list => exact forgetful_order (.list "" "*")
  | search criteria => exact forgetful_order (.search criteria.toString)
  | copy uids mailbox => exact forgetful_order (.copy (UidSet.render uids) mailbox)
  | move uids mailbox => exact forgetful_order (.move (UidSet.render uids) mailbox)
  | expunge => exact forgetful_order .expunge
  | append mailbox flags content => exact forgetful_order (.append mailbox flags content)
  | logout => exact forgetful_order .logout
  | fetch uids items =>
    simp only [answer]
    split
    · exact .pure []
    · exact forgetful_order (.fetch (UidSet.render uids) items.toString)
  | expungeUids uids =>
    simp only [answer]
    split
    · exact .pure ()
    · exact forgetful_order (.expungeSet (UidSet.render uids))
  | store uids mode flags =>
    simp only [answer]
    split
    · exact .pure ()
    · exact (Forgetful.liftM _).bind fun flags =>
        (forgetful_order (.store (UidSet.render uids) _)).bind fun _ => .pure ()

theorem forgetful_call (call : Call) : Forgetful call.perform := by
  cases call with
  | order o => exact forgetful_order o
  | request r => exact forgetful_answer r

/-- Level clients get the same results from the same calls.  By induction on the calls. -/
theorem results_eq {c₁ c₂ : Client} (h : c₁.Level c₂) (calls : List Call) :
    results c₁ calls = results c₂ calls := by
  induction calls generalizing c₁ c₂ with
  | nil => rfl
  | cons call calls ih =>
    obtain ⟨hresult, hafter⟩ := forgetful_call call c₁ c₂ h
    rw [results_cons, results_cons, hresult, ih hafter]

end Client

end Postroom.Wire
