import Postroom.Proofs.Course
import Postroom.Proofs.Server.Sound

/-! # Work on mailboxes of a server

What each piece of work of `Talk` comes to on a server, over a connection that can
be used.  Opening a mailbox, changing flags and moving messages are computed from
the look-ups that decide them.  A move has two ways, in one step where the server
can and otherwise by copying, marking and removing; `exec_moveOnce` says that both
leave the same server.  The only thing that could tell them apart is a copy that
gets one of the identifiers to be removed, which needs a move within one mailbox
and an identifier that was not given yet (`Unclaimed`).
-/

namespace Postroom

/-- The connection with a mailbox open for changes. -/
def Connection.at (c : Connection) (name : String) : Connection :=
  { c with selected := some name, readOnly := false }

/-- The connection with no mailbox open. -/
def Connection.closed (c : Connection) : Connection := { c with selected := none }

namespace StoredMailbox

variable {m : StoredMailbox} {uids : List Uid}

/-- Removing what is marked takes away the messages named once they are marked. -/
theorem keep_store_deleted (m : StoredMailbox) (uids : List Uid) :
    ((m.store uids .add [.deleted]).keep fun msg =>
      !(uids.contains msg.uid && msg.flags.contains .deleted)) = m.without uids := by
  have hmessages : ∀ l : List StoredMessage,
      ((l.map fun msg => msg.revised uids .add [.deleted]).filter fun msg =>
        !(uids.contains msg.uid && msg.flags.contains .deleted)) =
      l.filter fun msg => !uids.contains msg.uid := by
    intro l
    induction l with
    | nil => rfl
    | cons msg rest ih =>
      rw [List.map_cons, List.filter_cons, List.filter_cons, ih]
      by_cases hin : msg.uid ∈ uids
      · have hmarked : Flag.deleted ∈ (msg.revised uids .add [.deleted]).flags := by
          rw [StoredMessage.revised_of_mem hin]
          exact Server.mem_foldl_addFlag.mpr (Or.inr (Server.mem_keptFlags.mpr
            ⟨_, List.mem_singleton_self _, rfl⟩))
        simp [hin, hmarked]
      · simp [hin, StoredMessage.revised_of_not_mem hin]
  exact congrArg (StoredMailbox.mk m.uidNext) (hmessages m.messages)

/-- Messages that none of the identifiers name stay when those named are removed. -/
theorem without_receive {l : List StoredMessage} (h : l = [] ∨ ∀ uid ∈ uids, uid < m.uidNext) :
    (m.receive l).without uids = (m.without uids).receive l := by
  have hnext : (m.without uids).uidNext = m.uidNext := rfl
  have hcopies : (copies m.uidNext l).filter (fun msg => !uids.contains msg.uid) =
      copies m.uidNext l := by
    refine List.filter_eq_self.mpr fun msg hmsg => ?_
    rcases h with rfl | h
    · simp [copies] at hmsg
    · have hle := le_uid_of_mem_copies hmsg
      have hnot : msg.uid ∉ uids := fun hin => absurd (h _ hin) (Nat.not_lt.mpr hle)
      simpa using hnot
  have hmessages : ((m.receive l).without uids).messages =
      ((m.without uids).receive l).messages := by
    rw [messages_receive, hnext]
    unfold without
    rw [messages_keep, messages_receive, List.filter_append, hcopies]
    rfl
  have huid : ((m.receive l).without uids).uidNext = ((m.without uids).receive l).uidNext := by
    rw [uidNext_receive, hnext]
    exact uidNext_receive m l
  calc (m.receive l).without uids
      = ⟨((m.receive l).without uids).uidNext, ((m.receive l).without uids).messages⟩ := rfl
    _ = (m.without uids).receive l := by rw [hmessages, huid]

end StoredMailbox

namespace Server

open Talk

variable {s : Server} {c : Connection} {name source target : String} {uids : List Uid}

/-! ### Answers -/

theorem answer_select_of_ok {m : StoredMailbox} (hcheck : s.check c = .ok ())
    (hm : s.mailbox name = .ok m) :
    ∃ status, answer (.select name) (c, s) = (.ok status, c.at name, s) := by
  simp only [answer, openMailbox, hcheck, hm]
  exact ⟨_, rfl⟩

theorem answer_select_of_error {fault : Fault} (hcheck : s.check c = .ok ())
    (hm : s.mailbox name = .error fault) :
    answer (.select name) (c, s) = (.error fault, c.closed, s) := by
  simp only [answer, openMailbox, hcheck, hm]
  rfl

/-- Over a connection that cannot be used nothing is opened. -/
theorem answer_select_of_dead {fault : Fault} (hcheck : s.check c = .error fault) (name : String) :
    answer (.select name) (c, s) = (.error fault, c, s) := by
  simp only [answer, openMailbox, hcheck]

theorem answer_store {m : StoredMailbox} (hw : s.writable c = .ok name)
    (hm : s.mailbox name = .ok m)
    (uids : List Uid) (mode : StoreMode) (flags : List Flag) :
    answer (.store uids mode flags) (c, s) = (.ok (), c, s.put name (m.store uids mode flags)) := by
  have hchange := changeOpen_eq_ok_iff (f := fun m => m.store uids mode flags).mpr
    ⟨name, m, hw, hm, rfl⟩
  show changing c s (do return ((), ← s.changeOpen c fun m => m.store uids mode flags)) = _
  rw [hchange]
  rfl

/-- Nothing is copied to a mailbox that is not found. -/
theorem copySource_eq_error {fault : Fault} (hw : s.writable c = .ok source)
    (hd : s.mailbox target = .error fault) : s.copySource c target = .error fault := by
  rw [copySource, hw]
  show (s.mailbox target >>= _) = _
  rw [hd]
  rfl

theorem answer_copy_of_ok {box dest : StoredMailbox} (hw : s.writable c = .ok source)
    (hb : s.mailbox source = .ok box) (hd : s.mailbox target = .ok dest) (uids : List Uid) :
    answer (.copy uids target) (c, s) =
      (.ok (s.firstCopy source target uids), c, s.copied source target uids) := by
  rw [answer_copy, copyInto_of_ok hw hb hd]
  rfl

theorem answer_copy_of_error {fault : Fault} (hw : s.writable c = .ok source)
    (hd : s.mailbox target = .error fault) (uids : List Uid) :
    answer (.copy uids target) (c, s) = (.error fault, c, s) := by
  rw [answer_copy, copyInto_of_error (copySource_eq_error hw hd)]

theorem answer_move_of_ok {box dest : StoredMailbox} (hcan : s.canMove = true)
    (hw : s.writable c = .ok source) (hb : s.mailbox source = .ok box)
    (hd : s.mailbox target = .ok dest) (uids : List Uid) :
    answer (.move uids target) (c, s) =
      (.ok (s.firstCopy source target uids), c, s.moved source target uids) := by
  simp only [answer, (writable_eq_ok_iff.mp hw).1, hcan, copyInto_of_ok hw hb hd]
  rfl

theorem answer_move_of_error {fault : Fault} (hcan : s.canMove = true)
    (hw : s.writable c = .ok source) (hd : s.mailbox target = .error fault) (uids : List Uid) :
    answer (.move uids target) (c, s) = (.error fault, c, s) := by
  simp only [answer, (writable_eq_ok_iff.mp hw).1, hcan,
    copyInto_of_error (copySource_eq_error hw hd)]
  rfl

/-- A server that cannot move messages says that it does not understand. -/
theorem answer_move_of_lost (hcan : s.canMove = false) (hcheck : s.check c = .ok ())
    (uids : List Uid) (target : String) :
    answer (.move uids target) (c, s) = (.error (.bad "Unknown command MOVE"), c, s) := by
  simp only [answer, hcheck, hcan]
  rfl

theorem answer_expungeUids {m : StoredMailbox} (hcan : s.canExpungeUids = true)
    (hw : s.writable c = .ok name) (hm : s.mailbox name = .ok m) (uids : List Uid) :
    answer (.expungeUids uids) (c, s) =
      (.ok (), c, s.put name (m.keep fun msg =>
        !(uids.contains msg.uid && msg.flags.contains .deleted))) := by
  have hchange := changeOpen_eq_ok_iff (f := fun m => m.keep fun msg =>
    !(uids.contains msg.uid && msg.flags.contains .deleted)).mpr ⟨name, m, hw, hm, rfl⟩
  simp only [answer, hw, hcan]
  show changing c s (do return ((), ← s.changeOpen c fun m => m.keep fun msg =>
    !(uids.contains msg.uid && msg.flags.contains .deleted))) = _
  rw [hchange]
  rfl

theorem answer_create_of_has (hcheck : s.check c = .ok ()) (h : s.mailboxes.has name = true) :
    answer (.create name) (c, s) = (.error (.no "Mailbox already exists"), c, s) := by
  simp only [answer, hcheck, h]
  rfl

theorem answer_create (hcheck : s.check c = .ok ()) (h : s.mailboxes.has name = false) :
    answer (.create name) (c, s) = (.ok (), c, s.put name .empty) := by
  simp only [answer, hcheck, h]
  rfl

/-! ### Moving out of the open mailbox -/

/-- No copy of the messages named gets one of the identifiers. -/
def Unclaimed (s : Server) (source : String) (uids : List Uid) : Prop :=
  (s.box source).named uids = [] ∨ ∀ uid ∈ uids, uid < (s.box source).uidNext

/-- A copy of one message does not get the identifier of the message. -/
theorem Sound.unclaimed (hs : s.Sound) (source : String) (uid : Uid) :
    s.Unclaimed source [uid] := by
  cases hnamed : (s.box source).named [uid] with
  | nil => exact Or.inl hnamed
  | cons msg rest =>
    have hmem : msg ∈ (s.box source).named [uid] := by
      rw [hnamed]
      exact List.mem_cons_self
    obtain ⟨hmsg, huid⟩ := List.mem_filter.mp hmem
    refine Or.inr fun other hother => ?_
    have heq : msg.uid = other := by
      rw [List.mem_singleton.mp hother]
      simpa using huid
    exact heq ▸ ((hs.box source).given msg hmsg).2

/-- Copying, marking and removing leave the same server as moving. -/
theorem exec_copyAway {box dest : StoredMailbox} (hcan : s.canExpungeUids = true)
    (hw : s.writable c = .ok source) (hb : s.mailbox source = .ok box)
    (hd : s.mailbox target = .ok dest) (hun : source ≠ target ∨ s.Unclaimed source uids) :
    exec answer (copyAway uids target) (c, s) =
      (.ok (s.firstCopy source target uids), c, s.moved source target uids) := by
  set t := s.copied source target uids with ht
  -- What the open mailbox holds after copying.
  obtain ⟨open₁, hopen₁, hrest⟩ : ∃ m, t.mailbox source = .ok m ∧
      t.put source (m.without uids) = s.moved source target uids := by
    by_cases heq : source = target
    · subst heq
      have hun := hun.resolve_left fun h => h rfl
      refine ⟨_, mailbox_put_self hb, ?_⟩
      rw [ht, copied, put_put_self, StoredMailbox.without_receive hun]
      simp only [moved, box_put, if_pos, put_put_self]
    · refine ⟨box, (mailbox_put_of_ne heq _).trans hb, ?_⟩
      simp only [ht, copied, moved, box_put, if_neg (Ne.symm heq), box_eq_of_mailbox hb]
      exact put_comm heq _ _ _
  have hw₁ : t.writable c = .ok source := hw
  have hstore := answer_store hw₁ hopen₁ uids .add [.deleted]
  have hw₂ : (t.put source (open₁.store uids .add [.deleted])).writable c = .ok source := hw
  have hexpunge := answer_expungeUids (s := t.put source _) hcan hw₂ (mailbox_put_self hopen₁) uids
  rw [put_put_self, StoredMailbox.keep_store_deleted, hrest] at hexpunge
  rw [copyAway, exec_ask_bind_of_ok (answer_copy_of_ok hw hb hd uids), exec_ask_bind_of_ok hstore,
    removeMarked, exec_bind, exec_bind, exec_attempt, hexpunge]
  rfl

/-- Moving in one step and moving by copies come to the same. -/
theorem exec_moveOnce {box dest : StoredMailbox}
    (hcan : s.canMove = true ∨ s.canExpungeUids = true) (hw : s.writable c = .ok source)
    (hb : s.mailbox source = .ok box) (hd : s.mailbox target = .ok dest)
    (hun : source ≠ target ∨ s.Unclaimed source uids) :
    exec answer (moveOnce uids target) (c, s) =
      (.ok (s.firstCopy source target uids), c, s.moved source target uids) := by
  rw [moveOnce, exec_bind, exec_attempt]
  cases hmove : s.canMove with
  | true =>
    rw [answer_move_of_ok hmove hw hb hd]
    rfl
  | false =>
    rw [answer_move_of_lost hmove (writable_eq_ok_iff.mp hw).1]
    exact exec_copyAway (hcan.resolve_left (by simp [hmove])) hw hb hd hun

/-- If the target is not found, both ways of moving stop before anything is done. -/
theorem exec_moveOnce_of_error {fault : Fault} (hw : s.writable c = .ok source)
    (hd : s.mailbox target = .error fault) (uids : List Uid) :
    exec answer (moveOnce uids target) (c, s) = (.error fault, c, s) := by
  obtain rfl := mailbox_eq_error hd
  rw [moveOnce, exec_bind, exec_attempt]
  cases hmove : s.canMove with
  | true =>
    rw [answer_move_of_error hmove hw hd]
    rfl
  | false =>
    rw [answer_move_of_lost hmove (writable_eq_ok_iff.mp hw).1]
    exact exec_ask_bind_of_error (answer_copy_of_error hw hd uids)

/-! ### Changing flags -/

@[simp] theorem check_at (s : Server) (c : Connection) (name : String) :
    s.check (c.at name) = s.check c := rfl

@[simp] theorem check_closed (s : Server) (c : Connection) : s.check c.closed = s.check c := rfl

theorem writable_at (hcheck : s.check c = .ok ()) (name : String) :
    s.writable (c.at name) = .ok name := writable_eq_ok_iff.mpr ⟨hcheck, rfl, rfl⟩

theorem exec_setFlags {m : StoredMailbox} (hcheck : s.check c = .ok ())
    (hm : s.mailbox name = .ok m) (uids : List Uid) (mode : StoreMode) (flags : List Flag) :
    exec answer (setFlags name uids mode flags false) (c, s) =
      (.ok (), c.at name, s.put name (m.store uids mode flags)) := by
  obtain ⟨status, hselect⟩ := answer_select_of_ok hcheck hm
  rw [setFlags, exec_bind, exec_openMailbox_select, hselect]
  exact exec_ask_bind_of_ok (answer_store (writable_at hcheck name) hm uids mode flags)

theorem exec_setFlags_of_missing {fault : Fault} (hcheck : s.check c = .ok ())
    (hm : s.mailbox name = .error fault) (uids : List Uid) (mode : StoreMode) (flags : List Flag) :
    exec answer (setFlags name uids mode flags false) (c, s) = (.error fault, c.closed, s) := by
  rw [setFlags, exec_bind, exec_openMailbox_select, answer_select_of_error hcheck hm]

theorem exec_setFlags_of_dead {fault : Fault} (hcheck : s.check c = .error fault) (name : String)
    (uids : List Uid) (mode : StoreMode) (flags : List Flag) :
    exec answer (setFlags name uids mode flags false) (c, s) = (.error fault, c, s) := by
  rw [setFlags, exec_bind, exec_openMailbox_select, answer_select_of_dead hcheck]

/-! ### Moving from one mailbox to another -/

/-- Whether a mailbox is listed. -/
def lists (s : Server) (name : String) : Bool := s.mailboxes.has name && !s.hidden.contains name

theorem exec_list (hcheck : s.check c = .ok ()) :
    ∃ table, exec answer list (c, s) = (.ok table, c, s) ∧
      ∀ name, table.has name = s.lists name := by
  have hlist : answer .list (c, s) = (.ok ((s.mailboxes.keys.filter (!s.hidden.contains ·)).map
      fun name => (⟨name, some "/", []⟩ : Listing)), c, s) := by
    simp only [answer, hcheck]
    rfl
  refine ⟨_, exec_ask_bind_of_ok hlist, fun name => ?_⟩
  rw [Assoc.has_ofList, lists, List.any_map, List.any_map, List.any_filter, Bool.eq_iff_iff,
    List.any_eq_true, Bool.and_eq_true, ← Assoc.mem_keys_iff]
  constructor
  · rintro ⟨other, hin, h⟩
    obtain ⟨hshown, hname⟩ := Bool.and_eq_true_iff.mp h
    obtain rfl : other = name := of_decide_eq_true hname
    exact ⟨hin, hshown⟩
  · rintro ⟨hin, hshown⟩
    exact ⟨name, hin, Bool.and_eq_true_iff.mpr ⟨hshown, decide_eq_true rfl⟩⟩

/-- What moving messages from one mailbox to another comes to.  A target that is not found is made,
unless it is listed. -/
def relocate (s : Server) (source target : String) (uids : List Uid) :
    Except Fault (Option Uid) × Server :=
  match s.mailbox source with
  | .error fault => (.error fault, s)
  | .ok _ =>
    match s.mailbox target with
    | .ok _ => (.ok (s.firstCopy source target uids), s.moved source target uids)
    | .error fault =>
      if s.lists target then (.error fault, s)
      else if s.mailboxes.has target then (.error (.no "Mailbox already exists"), s)
      else
        let s := s.put target .empty
        match s.mailbox target with
        | .ok _ => (.ok (s.firstCopy source target uids), s.moved source target uids)
        | .error fault => (.error fault, s)

/-- Before a move only the target may be made, where there is none. -/
def Readied (s : Server) (target : String) (t : Server) : Prop :=
  t = s ∨ s.mailboxes.get? target = none ∧ t = s.put target .empty

theorem Readied.sound {t : Server} (h : s.Readied target t) (hs : s.Sound) : t.Sound := by
  rcases h with rfl | ⟨-, rfl⟩
  · exact hs
  · exact hs.put target StoredMailbox.sound_empty

theorem Readied.check {t : Server} (h : s.Readied target t) : t.check = s.check := by
  rcases h with rfl | ⟨-, rfl⟩ <;> rfl

/-- A move that succeeds finds both mailboxes. -/
theorem relocate_eq_ok {first : Option Uid} {t : Server}
    (h : s.relocate source target uids = (.ok first, t)) :
    ∃ ready, s.Readied target ready ∧ (∃ box, ready.mailbox source = .ok box) ∧
      (∃ dest, ready.mailbox target = .ok dest) ∧
      first = ready.firstCopy source target uids ∧ t = ready.moved source target uids := by
  unfold relocate at h
  cases hsource : s.mailbox source with
  | error fault => simp [hsource] at h
  | ok box =>
    cases htarget : s.mailbox target with
    | ok dest =>
      simp only [hsource, htarget] at h
      obtain ⟨hfirst, rfl⟩ := Prod.mk.inj h
      exact ⟨s, Or.inl rfl, ⟨box, hsource⟩, ⟨dest, htarget⟩, (Except.ok.inj hfirst).symm, rfl⟩
    | error fault =>
      simp only [hsource, htarget] at h
      split at h
      · simp at h
      · split at h
        · simp at h
        · next hhas =>
          have hne : source ≠ target := by
            rintro rfl
            simp [hsource] at htarget
          have hget : s.mailboxes.get? target = none :=
            Assoc.has_eq_false_iff.mp (Bool.eq_false_iff.mpr hhas)
          cases hmade : (s.put target .empty).mailbox target with
          | error fault => simp [hmade] at h
          | ok dest =>
            simp only [hmade] at h
            obtain ⟨hfirst, rfl⟩ := Prod.mk.inj h
            exact ⟨_, Or.inr ⟨hget, rfl⟩, ⟨box, (mailbox_put_of_ne hne _).trans hsource⟩,
              ⟨dest, hmade⟩, (Except.ok.inj hfirst).symm, rfl⟩

/-- A move that fails has made the target at most. -/
theorem relocate_eq_error {fault : Fault} {t : Server}
    (h : s.relocate source target uids = (.error fault, t)) : s.Readied target t := by
  unfold relocate at h
  split at h
  · exact Or.inl (Prod.mk.inj h).2.symm
  · split at h
    · cases (Prod.mk.inj h).1
    · split at h
      · exact Or.inl (Prod.mk.inj h).2.symm
      · split at h
        · exact Or.inl (Prod.mk.inj h).2.symm
        · next hhas =>
          refine Or.inr ⟨Assoc.has_eq_false_iff.mp (Bool.eq_false_iff.mpr hhas), ?_⟩
          simp only at h
          split at h
          · cases (Prod.mk.inj h).1
          · exact (Prod.mk.inj h).2.symm

/-- The connection after moving messages out of a mailbox. -/
def departed (s : Server) (c : Connection) (source : String) : Connection :=
  match s.mailbox source with
  | .error _ => c.closed
  | .ok _ => c.at source

theorem exec_move_of_dead {fault : Fault} (hcheck : s.check c = .error fault) (uids : List Uid)
    (source target : String) :
    exec answer (move uids source target) (c, s) = (.error fault, c, s) := by
  rw [move, exec_bind, exec_openMailbox_select, answer_select_of_dead hcheck]

/-- A move over a connection that can be used. -/
theorem exec_move (hcan : s.canMove = true ∨ s.canExpungeUids = true) (hcheck : s.check c = .ok ())
    (hun : source ≠ target ∨ s.Unclaimed source uids) :
    exec answer (move uids source target) (c, s) =
      ((s.relocate source target uids).1, s.departed c source,
        (s.relocate source target uids).2) := by
  unfold relocate departed
  rw [move, exec_bind, exec_openMailbox_select]
  cases hsource : s.mailbox source with
  | error fault => rw [answer_select_of_error hcheck hsource]
  | ok box =>
    obtain ⟨status, hselect⟩ := answer_select_of_ok hcheck hsource
    rw [hselect]
    simp only
    have hw := writable_at hcheck source
    rw [exec_tryCatch]
    cases htarget : s.mailbox target with
    | ok dest => rw [exec_moveOnce hcan hw hsource htarget hun]
    | error fault =>
      have hmissing : fault.isMailboxMissing = true := by rw [mailbox_eq_error htarget]; rfl
      rw [exec_moveOnce_of_error hw htarget]
      simp only [hmissing, Bool.not_true, Bool.false_eq_true, if_false]
      obtain ⟨table, hlist, hhas⟩ := exec_list (s := s) (c := c.at source) hcheck
      rw [exec_bind_of_ok hlist, hhas]
      by_cases hlisted : s.lists target = true
      · simp only [if_pos hlisted]
        rfl
      · simp only [if_neg hlisted]
        by_cases hhas : s.mailboxes.has target = true
        · rw [if_pos hhas]
          exact exec_ask_bind_of_error (answer_create_of_has hcheck hhas)
        · have hne : source ≠ target := by
            rintro rfl
            rw [hsource] at htarget
            cases htarget
          rw [if_neg hhas,
            exec_ask_bind_of_ok
              (answer_create (c := c.at source) hcheck (Bool.eq_false_iff.mpr hhas))]
          have hw' : (s.put target .empty).writable (c.at source) = .ok source := hw
          have hsource' := (mailbox_put_of_ne hne StoredMailbox.empty).trans hsource
          cases htarget' : (s.put target .empty).mailbox target with
          | ok dest =>
            rw [exec_moveOnce (s := s.put target .empty) hcan hw' hsource' htarget' (Or.inl hne)]
          | error fault => rw [exec_moveOnce_of_error hw' htarget']

end Server

end Postroom
