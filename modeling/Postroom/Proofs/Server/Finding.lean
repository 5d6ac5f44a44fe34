import Postroom.Proofs.Exchange
import Postroom.Proofs.Server.Agreement
import Postroom.Proofs.Server.Fetching

/-! # Searching for what was stored

A server keeps a keyword in lower case, whichever way it comes in, and takes it away however it is
spelled.  A search compares the flags that it is given with those that are kept.  So a flag that was
added is there exactly if it is spelled as it is kept (`mem_combine_add`), and one that was removed
is not there, however it is spelled (`not_mem_combine_remove`).  What was stored is found
accordingly (`stored_found_iff`).
-/

namespace Postroom

theorem Criteria.holds_iff {criteria : Criteria} {flags : List Flag} :
    criteria.holds flags = true ↔
      (∀ f ∈ criteria.present, f ∈ flags) ∧ ∀ f ∈ criteria.absent, f ∉ flags := by
  simp [Criteria.holds]

/-- Over a session, criteria find those messages of a mailbox that are named, or none of these, as
something is the case or not. -/
def Session.Finds (session : Session Server Connection) (s : Server) (name : String)
    (uids : List Uid)
    (criteria : Criteria) (p : Prop) : Prop :=
  ∃ m found, s.mailboxes.get? name = some m ∧
    (session.perform (Talk.search name criteria) s).1 = .ok found ∧
      ∀ uid ∈ uids, uid ∈ found ↔ uid ∈ m.messages.map StoredMessage.uid ∧ p

namespace Server

open Talk

variable {s : Server} {c : Connection} {name : String} {m : StoredMailbox} {uids : List Uid}
  {flags old : List Flag} {f : Flag}

/-! ### Flags that were stored -/

/-- A flag that was added is there exactly if it is spelled as it is kept. -/
theorem mem_combine_add (hold : KeptFlags old) (hf : f ∈ flags) :
    f ∈ combine .add (keptFlags flags) old ↔ keptFlag f = f := by
  rw [combine, mem_foldl_addFlag, mem_keptFlags]
  constructor
  · rintro (hmem | ⟨g, -, rfl⟩)
    · exact KeptFlags.keptFlag_eq hold hmem
    · exact keptFlag_keptFlag g
  · exact fun hsame => Or.inr ⟨f, hf, hsame⟩

/-- A flag that was removed is not there. -/
theorem not_mem_combine_remove (hold : KeptFlags old) (hf : f ∈ flags) :
    f ∉ combine .remove (keptFlags flags) old := by
  intro hmem
  obtain ⟨hmem, hnot⟩ := List.mem_filter.mp hmem
  have hkept : f ∈ keptFlags flags := mem_keptFlags.mpr ⟨f, hf, KeptFlags.keptFlag_eq hold hmem⟩
  simp [hkept] at hnot

/-! ### What a search finds -/

/-- Flags are changed only over a connection that can be used, and in a mailbox that is found. -/
theorem usable_of_setFlags {mode : StoreMode}
    (h : (exec answer (setFlags name uids mode flags false) (c, s)).1 = .ok ()) :
    s.check c = .ok () ∧ ∃ m, s.mailbox name = .ok m := by
  cases hcheck : s.check c with
  | error fault =>
    rw [exec_setFlags_of_dead hcheck] at h
    cases h
  | ok _ =>
    cases hm : s.mailbox name with
    | error fault =>
      rw [exec_setFlags_of_missing hcheck hm] at h
      cases h
    | ok m => exact ⟨rfl, m, rfl⟩

theorem perform_setFlags (hcheck : s.check c = .ok ()) (hm : s.mailbox name = .ok m)
    (settings : Settings) (uids : List Uid) (mode : StoreMode) (flags : List Flag) :
    (session settings c).perform (setFlags name uids mode flags false) s =
      (.ok (), session settings (c.at name), s.put name (m.store uids mode flags)) := by
  rw [perform_session, exec_setFlags hcheck hm]

/-- After flags were changed, criteria find the messages named if they hold of their flags now. -/
theorem finds_store (hcheck : s.check c = .ok ()) (hm : s.mailbox name = .ok m)
    (settings : Settings)
    {mode : StoreMode} {criteria : Criteria} {p : Prop}
    (hp : ∀ msg ∈ m.messages,
      criteria.holds (combine mode (keptFlags flags) msg.flags) = true ↔ p) :
    (session settings (c.at name)).Finds (s.put name (m.store uids mode flags)) name uids criteria
      p := by
  have hsearch := exec_search (s := s.put name (m.store uids mode flags)) (c := c.at name)
    hcheck (mailbox_put_self hm) criteria
  refine ⟨_, _, by rw [get?_put, if_pos rfl], congrArg Prod.fst hsearch, fun uid huid => ?_⟩
  have huids : (m.store uids mode flags).messages.map StoredMessage.uid =
      m.messages.map StoredMessage.uid := by
    rw [StoredMailbox.store, StoredMailbox.messages_change, List.map_map]
    exact List.map_congr_left fun _ _ => StoredMessage.uid_revised
  rw [huids]
  constructor
  · intro hfound
    obtain ⟨_, hfiltered, rfl⟩ := List.mem_map.mp hfound
    obtain ⟨hmem, hholds⟩ := List.mem_filter.mp hfiltered
    obtain ⟨msg, hmsg, rfl⟩ := List.mem_map.mp hmem
    rw [StoredMessage.uid_revised] at huid ⊢
    rw [StoredMessage.revised_of_mem huid] at hholds
    exact ⟨List.mem_map_of_mem hmsg, (hp msg hmsg).mp hholds⟩
  · rintro ⟨hmem, hcase⟩
    obtain ⟨msg, hmsg, rfl⟩ := List.mem_map.mp hmem
    refine List.mem_map.mpr ⟨msg.revised uids mode flags,
      List.mem_filter.mpr ⟨List.mem_map.mpr ⟨msg, hmsg, rfl⟩, ?_⟩, StoredMessage.uid_revised⟩
    rw [StoredMessage.revised_of_mem huid]
    exact (hp msg hmsg).mpr hcase

/-- After flags were removed, none of them is found on the messages named. -/
def Cleared (session : Session Server Connection) (s : Server) (name : String) (uids : List Uid)
    (flags : List Flag) : Prop :=
  ∀ f ∈ flags, session.Finds s name uids ⟨[f], []⟩ False ∧ session.Finds s name uids ⟨[], [f]⟩ True

theorem cleared_remove (hs : s.Sound) (hcheck : s.check c = .ok ()) (hm : s.mailbox name = .ok m)
    (settings : Settings) (uids : List Uid) (flags : List Flag) :
    Cleared (session settings (c.at name)) (s.put name (m.store uids .remove flags)) name uids
      flags := by
  intro f hf
  have hnot := fun msg hmsg => not_mem_combine_remove ((hs.of_mailbox hm).flags msg hmsg) hf
  refine ⟨finds_store hcheck hm settings fun msg hmsg => ?_,
    finds_store hcheck hm settings fun msg hmsg => ?_⟩
  · simpa [Criteria.holds_iff] using hnot msg hmsg
  · simpa [Criteria.holds_iff] using hnot msg hmsg

/-- **What was stored is found if it is spelled as it is kept.**  Flags were added to messages of a
mailbox.  A search for all of them finds those of the messages that are there exactly if every flag
is spelled as it is kept, which a keyword is in lower case.  A search for messages without one of
the flags finds none of them then, and all of them if the flag is spelled otherwise.  Once the flags
are removed, whether they were added before or not, it is all of them however the flag is spelled,
and a search for it finds none. -/
theorem stored_found_iff (hs : s.Reachable) (settings : Settings) (c : Connection) (name : String)
    (uids : List Uid) (flags : List Flag) :
    let add := (session settings c).perform (Talk.setFlags name uids .add flags false) s
    let remove := (session settings c).perform (Talk.setFlags name uids .remove flags false) s
    let undo := add.2.1.perform (Talk.setFlags name uids .remove flags false) add.2.2
    (add.1 = .ok () →
      add.2.1.Finds add.2.2 name uids ⟨flags, []⟩ (∀ f ∈ flags, keptFlag f = f) ∧
      (∀ f ∈ flags, add.2.1.Finds add.2.2 name uids ⟨[], [f]⟩ (keptFlag f ≠ f)) ∧
      undo.1 = .ok () ∧ Cleared undo.2.1 undo.2.2 name uids flags) ∧
      (remove.1 = .ok () → Cleared remove.2.1 remove.2.2 name uids flags) := by
  have hsound := hs.sound
  intro add remove undo
  refine ⟨fun hok => ?_, fun hok => ?_⟩
  · obtain ⟨hcheck, m, hm⟩ := usable_of_setFlags hok
    have hadd := perform_setFlags hcheck hm settings uids .add flags
    have hstored := mailbox_put_self (n := m.store uids .add flags) hm
    have hcheck' : (s.put name (m.store uids .add flags)).check (c.at name) = .ok () := hcheck
    have hundo := perform_setFlags hcheck' hstored settings uids .remove flags
    have hkept := (hsound.of_mailbox hm).flags
    simp only [undo, add, hadd, hundo]
    refine ⟨finds_store hcheck hm settings fun msg hmsg => ?_,
      fun f hf => finds_store hcheck hm settings fun msg hmsg => ?_, trivial,
      cleared_remove (hsound.put name (sound_store (hsound.of_mailbox hm) uids .add flags)) hcheck'
        hstored settings uids flags⟩
    · have hmem : ∀ f ∈ flags, f ∈ combine .add (keptFlags flags) msg.flags ↔ keptFlag f = f :=
        fun f hf => mem_combine_add (hkept msg hmsg) hf
      simpa [Criteria.holds_iff] using forall₂_congr hmem
    · simp [Criteria.holds_iff, mem_combine_add (hkept msg hmsg) hf]
  · obtain ⟨hcheck, m, hm⟩ := usable_of_setFlags hok
    have hremove := perform_setFlags hcheck hm settings uids .remove flags
    simp only [remove, hremove]
    exact cleared_remove hsound hcheck hm settings uids flags

/-- A message that has just come in, a keyword in lower case, and an identifier of no message. -/
theorem lower_case_found :
    let s := (Exchange.run (.new "pw") [.deliver "INBOX" [65] [.recent]]).server
    let c : Connection := ⟨0, false, none, false⟩
    let add := (session .empty c).perform
      (Talk.setFlags "INBOX" [1, 7] .add [.seen, .keyword "work"] false) s
    add.1 = .ok () ∧
      add.2.1.Finds add.2.2 "INBOX" [1, 7] ⟨[.seen, .keyword "work"], []⟩ True := by
  intro s c add
  have hok : add.1 = .ok () := by decide +kernel
  have hkept : ∀ f ∈ [Flag.seen, .keyword "work"], keptFlag f = f := by decide +kernel
  have hfound := ((stored_found_iff ⟨"pw", [.deliver "INBOX" [65] [.recent]], rfl⟩ .empty c "INBOX"
    [1, 7] [.seen, .keyword "work"]).1 hok).1
  exact ⟨hok, by simpa only [eq_true hkept] using hfound⟩

/-- **A keyword with a capital letter is stored, but not found.**  A search for it finds nothing,
and a search for messages without it finds the message that it was added to. -/
theorem capital_not_found :
    let s := (Exchange.run (.new "pw") [.deliver "INBOX" [65] []]).server
    let c : Connection := ⟨0, false, none, false⟩
    let work := Flag.ofString "Work"
    let add := (session .empty c).perform (Talk.setFlags "INBOX" [1] .add [work] false) s
    s.Reachable ∧ add.1 = .ok () ∧ add.2.2.flagsOf "INBOX" 1 = [.keyword "work"] ∧
      (add.2.1.perform (Talk.search "INBOX" ⟨[work], []⟩) add.2.2).1 = .ok [] ∧
      (add.2.1.perform (Talk.search "INBOX" ⟨[], [work]⟩) add.2.2).1 = .ok [1] :=
  ⟨⟨"pw", [.deliver "INBOX" [65] []], rfl⟩, by decide +kernel⟩

end Server

end Postroom
