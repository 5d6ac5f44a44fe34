import Postroom.Proofs.Transcript
import Postroom.Session

/-! # Chores

What a session offers to do with mailboxes and messages, one after another in any order, is a
`Chore`.  Whatever the server answers, no chore logs out (`Chore.stays_talk`), because none of its
parts does.  And every chore begins with a request, and gives up if there is no connection to make
it over (`Chore.begins_talk`); so without a connection it comes to nothing
(`Talk.Begins.perform_none`).
-/

namespace Postroom

/-! ### Talks that do not log out -/

namespace Talk

variable {α β : Type}

/-- Whatever is answered, a talk does not log out. -/
def Stays (talk : Talk α) : Prop :=
  ∀ turns result, Goes talk turns result → ∀ turn ∈ turns, turn.request ≠ .logout

theorem stays_pure (a : α) : Stays (pure a) := by
  rintro turns result ⟨rfl, -⟩
  simp

theorem stays_throw (fault : Fault) : Stays (throw fault : Talk α) := by
  rintro turns result ⟨rfl, -⟩
  simp

theorem stays_ask {r : Request} (h : r ≠ .logout) : Stays (ask r) := by
  intro turns result hgoes
  rw [goes_ask.mp hgoes]
  simpa using h

theorem stays_attempt {r : Request} (h : r ≠ .logout) : Stays (attempt r) := by
  intro turns result hgoes
  obtain ⟨reply, rfl, -⟩ := goes_attempt.mp hgoes
  simpa using h

theorem stays_bind {talk : Talk α} {f : α → Talk β} (ht : Stays talk) (hf : ∀ a, Stays (f a)) :
    Stays (talk >>= f) := by
  intro turns result hgoes
  rcases goes_bind.mp hgoes with ⟨fault, -, hfirst⟩ | ⟨a, first, rest, rfl, hfirst, hrest⟩
  · exact ht _ _ hfirst
  · exact List.forall_mem_append.mpr ⟨ht _ _ hfirst, hf a _ _ hrest⟩

theorem stays_tryCatch {talk : Talk α} {handler : Fault → Talk α} (ht : Stays talk)
    (hh : ∀ fault, Stays (handler fault)) : Stays (tryCatch talk handler) := by
  intro turns result hgoes
  rcases goes_tryCatch.mp hgoes with ⟨a, -, h⟩ | ⟨fault, first, rest, rfl, hfirst, hrest⟩
  · exact ht _ _ h
  · exact List.forall_mem_append.mpr ⟨ht _ _ hfirst, hh fault _ _ hrest⟩

theorem stays_mapM_pure (f : α → Except Fault β) (l : List α) :
    Stays (l.mapM fun a => ExceptT.mk (pure (f a))) := by
  induction l with
  | nil => exact stays_pure []
  | cons a rest ih =>
    rw [List.mapM_cons]
    refine stays_bind (fun turns result hgoes => ?_) fun b => stays_bind ih fun bs => stays_pure _
    rw [(goes_mk_pure.mp hgoes).1]
    simp

/-! ### How a talk begins -/

/-- A talk begins with a request, and ends if the answer is that there is no connection. -/
def Begins (talk : Talk α) : Prop :=
  ∃ r next, talk.run = Dialogue.ask r next ∧
    next (.error .notConnected) = .done (.error .notConnected)

theorem begins_ask (r : Request) : Begins (ask r) := ⟨r, .done, rfl, rfl⟩

theorem begins_bind {talk : Talk α} (h : Begins talk) (f : α → Talk β) : Begins (talk >>= f) := by
  obtain ⟨r, next, hrun, hnext⟩ := h
  refine ⟨r, fun reply => (next reply).bind (ExceptT.bindCont f), ?_, ?_⟩
  · change talk.run.bind (ExceptT.bindCont f) = _
    rw [hrun]
    rfl
  · simp only [hnext]
    rfl

theorem Begins.turns_ne_nil {talk : Talk α} (h : Begins talk) {turns : List Turn}
    {result : Except Fault α} (hgoes : Goes talk turns result) : turns ≠ [] := by
  obtain ⟨r, next, hrun, -⟩ := h
  rw [Goes, hrun] at hgoes
  obtain ⟨reply, rest, rfl, -⟩ := hgoes
  exact List.cons_ne_nil _ _

variable {World Handle : Type}

/-- Without a connection such a talk comes to nothing. -/
theorem Begins.perform_none {talk : Talk α} (h : Begins talk) (b : Backend World Handle)
    (settings : Settings) (w : World) :
    Session.perform ⟨b, settings, none⟩ talk w =
      (.error .notConnected, ⟨b, settings, none⟩, w) := by
  obtain ⟨r, next, hrun, hnext⟩ := h
  have hrest := Session.perform_none b settings talk w
  have hresult : (talk.run.run Session.noConnection w).1 = .error .notConnected := by
    rw [hrun, Dialogue.run_ask]
    simp only [Session.noConnection, hnext, Dialogue.run_done]
  exact Prod.ext hresult hrest

/-! ### Parts of chores -/

theorem begins_openMailbox (mailbox : String) (readOnly autoCreate : Bool) :
    Begins (openMailbox mailbox readOnly autoCreate) := by
  cases readOnly with
  | true => exact ⟨.examine mailbox, _, rfl, by cases autoCreate <;> rfl⟩
  | false => exact ⟨.select mailbox, _, rfl, by cases autoCreate <;> rfl⟩

theorem stays_openOnce (mailbox : String) (readOnly : Bool) :
    Stays (openOnce mailbox readOnly) := by
  unfold openOnce
  split <;> exact stays_attempt nofun

theorem stays_openMailbox (mailbox : String) (readOnly autoCreate : Bool) :
    Stays (openMailbox mailbox readOnly autoCreate) := by
  have honce := stays_openOnce mailbox readOnly
  refine stays_bind honce fun outcome => ?_
  cases outcome with
  | ok status => exact stays_pure status
  | error fault =>
    simp only
    split
    · refine stays_bind (stays_ask nofun) fun _ => stays_bind honce fun outcome => ?_
      cases outcome with
      | ok status => exact stays_pure status
      | error fault => exact stays_throw fault
    · exact stays_throw fault

theorem stays_search (mailbox : String) (criteria : Criteria) : Stays (search mailbox criteria) :=
  stays_bind (stays_openMailbox mailbox true false) fun _ => stays_ask nofun

theorem stays_fetch (mailbox : String) (uids : List Uid) : Stays (fetch mailbox uids) :=
  stays_bind (stays_openMailbox mailbox true false) fun _ =>
    stays_bind (stays_ask nofun) fun _ => stays_mapM_pure _ _

theorem stays_setFlags (mailbox : String) (uids : List Uid) (mode : StoreMode) (flags : List Flag)
    (expunge : Bool) : Stays (setFlags mailbox uids mode flags expunge) := by
  refine stays_bind (stays_openMailbox mailbox false false) fun _ =>
    stays_bind (stays_ask nofun) fun _ => ?_
  split
  · exact stays_ask nofun
  · exact stays_pure _

theorem stays_removeMarked (uids : List Uid) : Stays (removeMarked uids) := by
  refine stays_bind (stays_attempt nofun) fun outcome => ?_
  split
  · exact stays_pure _
  · exact stays_ask nofun
  · exact stays_throw _

theorem stays_moveOnce (uids : List Uid) (target : String) : Stays (moveOnce uids target) := by
  refine stays_bind (stays_attempt nofun) fun outcome => ?_
  split
  · exact stays_pure _
  · exact stays_bind (stays_ask nofun) fun _ => stays_bind (stays_ask nofun) fun _ =>
      stays_bind (stays_removeMarked uids) fun _ => stays_pure _
  · exact stays_throw _

theorem stays_list : Stays list := stays_bind (stays_ask nofun) fun _ => stays_pure _

theorem stays_move (uids : List Uid) (source target : String) :
    Stays (move uids source target) := by
  have hmove := stays_moveOnce uids target
  refine stays_bind (stays_openMailbox source false false) fun _ =>
    stays_tryCatch hmove fun fault => ?_
  have hretry : Stays (do
      if (← list).has target then throw fault
      ask (.create target)
      moveOnce uids target) := by
    refine stays_bind stays_list fun table => ?_
    split
    · exact stays_throw fault
    · exact stays_bind (stays_ask nofun) fun _ => hmove
  split
  · exact stays_throw fault
  · exact hretry

end Talk

/-! ### Chores -/

/-- Something that a session does with mailboxes or messages. -/
inductive Chore where
  /-- Open a mailbox, which is made if it is missing and that is wanted. -/
  | openMailbox (mailbox : String) (readOnly autoCreate : Bool)
  /-- Make a mailbox. -/
  | create (mailbox : String)
  /-- Remove a mailbox. -/
  | remove (mailbox : String)
  /-- List the mailboxes. -/
  | list
  /-- Search a mailbox. -/
  | search (mailbox : String) (criteria : Criteria)
  /-- Fetch messages. -/
  | fetch (mailbox : String) (uids : List Uid)
  /-- Search a mailbox and fetch what was found. -/
  | searchAndFetch (mailbox : String) (criteria : Criteria)
  /-- Change the flags of messages. -/
  | setFlags (mailbox : String) (uids : List Uid) (mode : StoreMode) (flags : List Flag)
    (expunge : Bool)
  /-- Look up the flags of a message. -/
  | flagsOf (mailbox : String) (uid : Uid)
  /-- Mark messages for removal. -/
  | delete (mailbox : String) (uids : List Uid) (expunge : Bool)
  /-- Add a message. -/
  | upload (mailbox : String) (content : List UInt8) (flags : List Flag)
  /-- Move messages. -/
  | move (uids : List Uid) (source target : String)

namespace Chore

/-- What a chore results in. -/
abbrev Result : Chore → Type
  | openMailbox .. => MailboxStatus
  | list => Assoc Listing
  | search .. => List Uid
  | fetch .. | searchAndFetch .. => List Message
  | flagsOf .. => List Flag
  | move .. => Option Uid
  | _ => Unit

/-- The talk of a chore. -/
def talk : (chore : Chore) → Talk chore.Result
  | openMailbox mailbox readOnly autoCreate => Talk.openMailbox mailbox readOnly autoCreate
  | create mailbox => Talk.ask (.create mailbox)
  | remove mailbox => Talk.ask (.delete mailbox)
  | list => Talk.list
  | search mailbox criteria => Talk.search mailbox criteria
  | fetch mailbox uids => Talk.fetch mailbox uids
  | searchAndFetch mailbox criteria => Talk.searchAndFetch mailbox criteria
  | setFlags mailbox uids mode flags expunge => Talk.setFlags mailbox uids mode flags expunge
  | flagsOf mailbox uid => Talk.flagsOf mailbox uid
  | delete mailbox uids expunge => Talk.delete mailbox uids expunge
  | upload mailbox content flags => Talk.upload mailbox content flags
  | move uids source target => Talk.move uids source target

/-- No chore logs out. -/
theorem stays_talk (chore : Chore) : Talk.Stays chore.talk := by
  cases chore with
  | openMailbox mailbox readOnly autoCreate => exact Talk.stays_openMailbox _ _ _
  | create | remove => exact Talk.stays_ask nofun
  | list => exact Talk.stays_list
  | search => exact Talk.stays_search _ _
  | fetch => exact Talk.stays_fetch _ _
  | searchAndFetch mailbox criteria =>
    refine Talk.stays_bind (Talk.stays_search mailbox criteria) fun uids => ?_
    split
    · exact Talk.stays_pure _
    · exact Talk.stays_fetch _ _
  | setFlags => exact Talk.stays_setFlags _ _ _ _ _
  | flagsOf mailbox =>
    exact Talk.stays_bind (Talk.stays_openMailbox mailbox true false) fun _ =>
      Talk.stays_bind (Talk.stays_ask nofun) fun _ => Talk.stays_pure _
  | delete => exact Talk.stays_setFlags _ _ _ _ _
  | upload mailbox =>
    exact Talk.stays_bind (Talk.stays_openMailbox mailbox false true) fun _ =>
      Talk.stays_ask nofun
  | move => exact Talk.stays_move _ _ _

/-- Every chore begins with a request. -/
theorem begins_talk (chore : Chore) : Talk.Begins chore.talk := by
  have hopen {β : Type} (mailbox : String) (readOnly autoCreate : Bool)
      (f : MailboxStatus → Talk β) :=
    Talk.begins_bind (Talk.begins_openMailbox mailbox readOnly autoCreate) f
  cases chore with
  | openMailbox => exact Talk.begins_openMailbox _ _ _
  | create | remove => exact Talk.begins_ask _
  | list => exact Talk.begins_bind (Talk.begins_ask _) _
  | search | fetch | setFlags | flagsOf | delete | upload | move => exact hopen _ _ _ _
  | searchAndFetch => exact Talk.begins_bind (hopen _ _ _ _) _

end Chore

end Postroom
