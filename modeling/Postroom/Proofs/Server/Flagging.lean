import Mathlib.Data.Finset.Dedup
import Mathlib.Data.Finset.SDiff
import Mathlib.Data.Finset.Lattice.Basic
import Postroom.Proofs.Exchange
import Postroom.Proofs.Server.Agreement
import Postroom.Proofs.Server.Fetching

/-! # Changing flags again and again

A server keeps the flags of a message in a list and changes the list in place.  As a set, the list
is the union with the flags given, the difference from them, or just them
(`FlagChange.toFinset_ofList`), and the same change made twice is made once, down to the order of
the list (`FlagChange.ofList_ofList`).

Over a session every change opens a mailbox, which may be another one or missing, and the flags are
read back with what is fetched.  One change keeps the server sound and the message where it is, and
does to its flags what the change says if it is named (`perform_change`); by induction on the
changes so does a row of them (`afterChanges_carries`), and what is told in the end are just these
flags (`flags_folded`).
-/

namespace Postroom

open Server

/-! ### One change -/

/-- A change of the flags of messages in a mailbox.  None of them is removed. -/
structure FlagChange where
  /-- The mailbox. -/
  mailbox : String
  /-- The messages. -/
  uids : List Uid
  /-- How the flags are combined with those of a message. -/
  mode : StoreMode
  /-- The flags. -/
  flags : List Flag

namespace FlagChange

variable (change : FlagChange)

/-- The work that makes the change. -/
def talk : Talk Unit := Talk.setFlags change.mailbox change.uids change.mode change.flags false

/-- The change is one of a message with an identifier in a mailbox. -/
def Names (name : String) (uid : Uid) : Prop := change.mailbox = name ∧ uid ∈ change.uids

instance (name : String) (uid : Uid) : Decidable (change.Names name uid) :=
  inferInstanceAs (Decidable (_ ∧ _))

/-- What the change makes of a set of flags. -/
def ofSet (marks : Finset Flag) : Finset Flag :=
  let given := (change.flags.map keptFlag).toFinset
  match change.mode with
  | .add => marks ∪ given
  | .remove => marks \ given
  | .replace => given

/-- What the change makes of a list of flags. -/
def ofList (flags : List Flag) : List Flag := combine change.mode (keptFlags change.flags) flags

theorem toFinset_ofList (flags : List Flag) :
    (change.ofList flags).toFinset = change.ofSet flags.toFinset := by
  ext f
  unfold ofList ofSet
  cases change.mode <;> simp [combine, mem_foldl_addFlag, mem_keptFlags]

theorem nodup_ofList {flags : List Flag} (h : flags.Nodup) : (change.ofList flags).Nodup := by
  have hgiven : (keptFlags change.flags).Nodup := (kept_keptFlags change.flags).1
  unfold ofList
  cases change.mode with
  | add => exact nodup_foldl_addFlag h _
  | remove => exact h.sublist List.filter_sublist
  | replace => exact hgiven

/-- Flags that are there already are not added. -/
theorem foldl_addFlag_of_subset {given flags : List Flag} (h : given ⊆ flags) :
    given.foldl addFlag flags = flags := by
  induction given with
  | nil => rfl
  | cons f rest ih =>
    obtain ⟨hf, hrest⟩ := List.cons_subset.mp h
    rw [List.foldl_cons, addFlag, if_pos (List.contains_iff_mem.mpr hf), ih hrest]

/-- The change made twice is made once. -/
theorem ofList_ofList (flags : List Flag) :
    change.ofList (change.ofList flags) = change.ofList flags := by
  unfold ofList
  cases change.mode with
  | add =>
    exact foldl_addFlag_of_subset fun f hf => mem_foldl_addFlag.mpr (.inr hf)
  | remove => simp [combine, List.filter_filter]
  | replace => rfl

end FlagChange

namespace StoredMailbox

/-- Flags that were stored are stored once. -/
theorem store_store (m : StoredMailbox) (uids : List Uid) (mode : StoreMode) (flags : List Flag) :
    (m.store uids mode flags).store uids mode flags = m.store uids mode flags := by
  have htwice : ∀ msg : StoredMessage,
      (msg.revised uids mode flags).revised uids mode flags = msg.revised uids mode flags := by
    intro msg
    by_cases hin : msg.uid ∈ uids
    · have hflags := FlagChange.ofList_ofList ⟨"", uids, mode, flags⟩ msg.flags
      simp only [FlagChange.ofList] at hflags
      have hagain : (msg.revised uids mode flags).uid ∈ uids := by rwa [StoredMessage.uid_revised]
      rw [StoredMessage.revised_of_mem hagain, StoredMessage.revised_of_mem hin, hflags]
    · rw [StoredMessage.revised_of_not_mem hin, StoredMessage.revised_of_not_mem hin]
  simp only [store, change, List.map_map]
  congr 2
  exact funext htwice

end StoredMailbox

namespace Server

open Talk

variable {s : Server} {c : Connection} {name : String} {uid : Uid} {flags : List Flag}

/-! ### What is told of a message -/

/-- The flags of a message are told as they are. -/
theorem exec_flagsOf {m : StoredMailbox} (hs : m.Sound) (hcheck : s.check c = .ok ())
    (hm : s.mailbox name = .ok m) {msg : StoredMessage} (hmsg : msg ∈ m.messages) :
    exec answer (Talk.flagsOf name msg.uid) (c, s) = (.ok msg.flags, c.viewing name, s) := by
  obtain ⟨status, hexamine⟩ := answer_examine_of_ok hcheck hm
  let answers := ((numbered m.messages).filter fun e => [msg.uid].contains e.2.uid).map
    fun e => fetched .flags e.1 e.2
  have hfetch : answer (.fetch [msg.uid] .flags) (c.viewing name, s) =
      (.ok answers, c.viewing name, s) := by
    simp only [answer, openMessages_viewing hcheck hm]
    rfl
  have hsnd : (numbered m.messages).map Prod.snd = m.messages := List.map_snd_zip (by simp)
  -- All that is told of this identifier is told of the message.
  have hall : ∀ f ∈ answers.filter (fun f => f.uid = some msg.uid), f.flags = msg.flags := by
    intro f hf
    obtain ⟨hf, -⟩ := List.mem_filter.mp hf
    obtain ⟨e, he, rfl⟩ := List.mem_map.mp hf
    obtain ⟨he, huid⟩ := List.mem_filter.mp he
    have hstored : e.2 ∈ m.messages := hsnd ▸ List.mem_map_of_mem he
    have hsame : e.2 = msg := hs.eq_of_uid_eq hstored hmsg (by simpa using huid)
    exact congrArg StoredMessage.flags hsame
  have hsome : answers.filter (fun f => f.uid = some msg.uid) ≠ [] := by
    obtain ⟨e, he, hsame⟩ := List.mem_map.mp (hsnd.symm ▸ hmsg)
    refine List.ne_nil_of_mem (a := fetched .flags e.1 e.2) (List.mem_filter.mpr ⟨?_, ?_⟩)
    · exact List.mem_map_of_mem (List.mem_filter.mpr ⟨he, by simp [hsame]⟩)
    · simp [fetched, hsame]
  have htold :
      (((answers.filter fun f => f.uid = some msg.uid).getLast?).map Fetched.flags).getD [] =
      msg.flags := by
    rw [List.getLast?_eq_some_getLast hsome]
    exact hall _ (List.getLast_mem hsome)
  rw [Talk.flagsOf, exec_bind, exec_openMailbox_examine, hexamine]
  simp only
  rw [exec_ask_bind_of_ok hfetch, exec_pure, htold]

/-! ### Changes over a session -/

/-- A mailbox that is found holds a message with some flags. -/
def Carries (s : Server) (name : String) (uid : Uid) (flags : List Flag) : Prop :=
  ∃ m msg, s.mailbox name = .ok m ∧ msg ∈ m.messages ∧ msg.uid = uid ∧ msg.flags = flags

/-- A change of a mailbox that is found has changed it. -/
theorem perform_change_of_ok {change : FlagChange} {m : StoredMailbox} (hcheck : s.check c = .ok ())
    (hm : s.mailbox change.mailbox = .ok m) (settings : Settings) :
    (session settings c).perform change.talk s = (.ok (), session settings (c.at change.mailbox),
      s.put change.mailbox (m.store change.uids change.mode change.flags)) := by
  rw [perform_session, FlagChange.talk, exec_setFlags hcheck hm]

theorem perform_change_of_missing {change : FlagChange} {fault : Fault}
    (hcheck : s.check c = .ok ())
    (hm : s.mailbox change.mailbox = .error fault) (settings : Settings) :
    (session settings c).perform change.talk s = (.error fault, session settings c.closed, s) := by
  rw [perform_session, FlagChange.talk, exec_setFlags_of_missing hcheck hm]

/-- A change does to the flags of a message what it says, if it names the message. -/
theorem perform_change (hs : s.Sound) (hcheck : s.check c = .ok ()) (h : s.Carries name uid flags)
    (settings : Settings) (change : FlagChange) :
    ∃ c' t, ((session settings c).perform change.talk s).2 = (session settings c', t) ∧
      t.Sound ∧ t.check c' = .ok () ∧
      t.Carries name uid (if change.Names name uid then change.ofList flags else flags) := by
  obtain ⟨m, msg, hm, hmsg, rfl, rfl⟩ := h
  cases hbox : s.mailbox change.mailbox with
  | error fault =>
    have hnot : ¬ change.Names name msg.uid := by
      rintro ⟨rfl, -⟩
      rw [hm] at hbox
      cases hbox
    refine ⟨c.closed, s, congrArg Prod.snd (perform_change_of_missing hcheck hbox settings), hs,
      hcheck, ?_⟩
    rw [if_neg hnot]
    exact ⟨m, msg, hm, hmsg, rfl, rfl⟩
  | ok box =>
    refine ⟨c.at change.mailbox, _, congrArg Prod.snd (perform_change_of_ok hcheck hbox settings),
      hs.put _ (sound_store (hs.of_mailbox hbox) _ _ _), hcheck, ?_⟩
    by_cases hname : change.mailbox = name
    · subst hname
      obtain rfl : box = m := Except.ok.inj (hbox.symm.trans hm)
      refine ⟨_, msg.revised change.uids change.mode change.flags, mailbox_put_self hm,
        List.mem_map_of_mem hmsg, StoredMessage.uid_revised, ?_⟩
      by_cases huid : msg.uid ∈ change.uids
      · rw [if_pos ⟨rfl, huid⟩, StoredMessage.revised_of_mem huid]
        rfl
      · rw [if_neg fun h => huid h.2, StoredMessage.revised_of_not_mem huid]
    · rw [if_neg fun h => hname h.1]
      exact ⟨m, msg, (mailbox_put_of_ne (Ne.symm hname) _).trans hm, hmsg, rfl, rfl⟩

/-- A change that was just made changes nothing more. -/
theorem perform_change_again (hcheck : s.check c = .ok ()) (settings : Settings)
    (change : FlagChange) :
    let once := ((session settings c).perform change.talk s).2
    (once.1.perform change.talk once.2).2 = once := by
  intro once
  cases hbox : s.mailbox change.mailbox with
  | error fault =>
    have honce : once = (session settings c.closed, s) :=
      congrArg Prod.snd (perform_change_of_missing hcheck hbox settings)
    have hagain := perform_change_of_missing (c := c.closed) hcheck hbox settings
    rw [honce]
    exact congrArg Prod.snd hagain
  | ok box =>
    have honce : once = (session settings (c.at change.mailbox),
        s.put change.mailbox (box.store change.uids change.mode change.flags)) :=
      congrArg Prod.snd (perform_change_of_ok hcheck hbox settings)
    have hstored := mailbox_put_self (n := box.store change.uids change.mode change.flags) hbox
    have hcheck' : (s.put change.mailbox (box.store change.uids change.mode change.flags)).check
        (c.at change.mailbox) = .ok () := hcheck
    have hagain := perform_change_of_ok hcheck' hstored settings
    rw [put_put_self, StoredMailbox.store_store] at hagain
    rw [honce]
    exact congrArg Prod.snd hagain

/-- A session and its server after changes of flags were made one after another. -/
def afterChanges (x : Session Server Connection × Server) (changes : List FlagChange) :
    Session Server Connection × Server :=
  changes.foldl (fun x change => (x.1.perform change.talk x.2).2) x

theorem afterChanges_concat (x : Session Server Connection × Server) (changes : List FlagChange)
    (change : FlagChange) :
    afterChanges x (changes ++ [change]) = ((afterChanges x changes).1.perform change.talk
      (afterChanges x changes).2).2 := by
  simp [afterChanges]

/-- What changes make of the flags of a message, one after another. -/
def revisions (name : String) (uid : Uid) (changes : List FlagChange) (flags : List Flag) :
    List Flag :=
  changes.foldl
    (fun flags change => if change.Names name uid then change.ofList flags else flags) flags

/-- After changes a message carries what they have made of its flags.  By induction
on the changes. -/
theorem afterChanges_carries (hs : s.Sound) (hcheck : s.check c = .ok ())
    (h : s.Carries name uid flags) (settings : Settings) (changes : List FlagChange) :
    ∃ c' t, afterChanges (session settings c, s) changes = (session settings c', t) ∧
      t.Sound ∧ t.check c' = .ok () ∧ t.Carries name uid (revisions name uid changes flags) := by
  induction changes generalizing s c flags with
  | nil => exact ⟨c, s, rfl, hs, hcheck, h⟩
  | cons change changes ih =>
    obtain ⟨c', t, hperform, ht, hcheck', hcarries⟩ := perform_change hs hcheck h settings change
    obtain ⟨c'', u, hafter, hu, hcheck'', hlast⟩ := ih ht hcheck' hcarries
    refine ⟨c'', u, ?_, hu, hcheck'', hlast⟩
    rw [← hafter, ← hperform]
    rfl

/-- The flags that were changed are told. -/
theorem perform_flagsOf (hs : s.Sound) (hcheck : s.check c = .ok ()) (h : s.Carries name uid flags)
    (settings : Settings) :
    ((session settings c).perform (Talk.flagsOf name uid) s).1 = .ok flags := by
  obtain ⟨m, msg, hm, hmsg, rfl, rfl⟩ := h
  rw [perform_session, exec_flagsOf (hs.of_mailbox hm) hcheck hm hmsg]

/-- What is made of a list of flags, looked at as a set, is made of the set. -/
theorem toFinset_revisions (name : String) (uid : Uid) (changes : List FlagChange)
    (flags : List Flag) :
    (revisions name uid changes flags).toFinset =
      changes.foldl
        (fun marks change => if change.Names name uid then change.ofSet marks else marks)
        flags.toFinset := by
  induction changes generalizing flags with
  | nil => rfl
  | cons change changes ih =>
    have hstep := ih (if change.Names name uid then change.ofList flags else flags)
    rw [apply_ite List.toFinset, change.toFinset_ofList] at hstep
    exact hstep

theorem nodup_revisions (name : String) (uid : Uid) (changes : List FlagChange) {flags : List Flag}
    (h : flags.Nodup) : (revisions name uid changes flags).Nodup := by
  induction changes generalizing flags with
  | nil => exact h
  | cons change changes ih =>
    have hstep : (if change.Names name uid then change.ofList flags else flags).Nodup := by
      split
      · exact change.nodup_ofList h
      · exact h
    exact ih hstep

/-- **Changes of flags are changes of sets.**  Over a session that is connected to a server,
flags are changed any number of times, in any mailboxes.  A change of a mailbox that is found
succeeds.  What is told of the flags of a message afterwards is a list without repetitions, whose
members are those that the message had at first, joined with the flags given, less them, or
replaced by them, in the form in which they are kept, by each of the changes that names the
message.  A change that does not name it changes nothing that is told, and making the last change
again changes nothing at all. -/
theorem flags_folded (hs : s.Reachable) (settings : Settings) (hcheck : s.check c = .ok ())
    {m : StoredMailbox} (hm : s.mailbox name = .ok m) {msg : StoredMessage}
    (hmsg : msg ∈ m.messages) :
    let after := afterChanges (session settings c, s)
    let told := fun changes : List FlagChange =>
      ((after changes).1.perform (Talk.flagsOf name msg.uid) (after changes).2).1
    (∀ changes, ∃ flags, told changes = .ok flags ∧ flags.Nodup ∧
      flags.toFinset = changes.foldl
        (fun marks change => if change.Names name msg.uid then change.ofSet marks else marks)
        msg.flags.toFinset) ∧
      (∀ changes (change : FlagChange), change.mailbox = name →
        ((after changes).1.perform change.talk (after changes).2).1 = .ok ()) ∧
      (∀ changes (change : FlagChange), ¬ change.Names name msg.uid →
        told (changes ++ [change]) = told changes) ∧
      ∀ changes change, after (changes ++ [change, change]) = after (changes ++ [change]) ∧
        told (changes ++ [change, change]) = told (changes ++ [change]) := by
  intro after told
  have hcarries : s.Carries name msg.uid msg.flags := ⟨m, msg, hm, hmsg, rfl, rfl⟩
  have hrun := afterChanges_carries hs.sound hcheck hcarries settings
  have htold : ∀ changes, told changes = .ok (revisions name msg.uid changes msg.flags) := by
    intro changes
    obtain ⟨c', t, hafter, ht, hcheck', hlast⟩ := hrun changes
    have hperform := perform_flagsOf ht hcheck' hlast settings
    simp only [told, after, hafter, hperform]
  have hagain :
      ∀ changes change, after (changes ++ [change, change]) = after (changes ++ [change]) := by
    intro changes change
    obtain ⟨c', t, hafter, ht, hcheck', hlast⟩ := hrun changes
    have htwice := perform_change_again hcheck' settings change
    have hsplit : changes ++ [change, change] = changes ++ [change] ++ [change] := by simp
    simp only [after, hsplit, afterChanges_concat, hafter, htwice]
  refine ⟨fun changes => ⟨_, htold changes, ?_, toFinset_revisions ..⟩,
    fun changes change hname => ?_,
    fun changes change hnot => ?_, fun changes change => ⟨hagain changes change, ?_⟩⟩
  · exact nodup_revisions name msg.uid changes ((hs.sound.of_mailbox hm).flags msg hmsg).1
  · obtain ⟨c', t, hafter, ht, hcheck', m', msg', hm', -⟩ := hrun changes
    simp only [after, hafter]
    rw [perform_change_of_ok hcheck' (hname.symm ▸ hm')]
  · rw [htold, htold, revisions, List.foldl_append]
    simp only [List.foldl_cons, List.foldl_nil, if_neg hnot, revisions]
  · simp only [told, hagain]

/-- A keyword with capital letters is added and removed again in another spelling, and one change
names no such message. -/
theorem keyword_comes_and_goes :
    let s := (Exchange.run (.new "pw") [.deliver "INBOX" [65] [.seen]]).server
    let c : Connection := ⟨0, false, none, false⟩
    let changes : List FlagChange :=
      [⟨"INBOX", [1], .add, [.keyword "Work", .draft, .keyword "WORK"]⟩,
      ⟨"INBOX", [2], .replace, []⟩, ⟨"INBOX", [1, 1], .remove, [.keyword "wORK", .seen]⟩]
    let after := afterChanges (session .empty c, s) changes
    ∃ flags, (after.1.perform (Talk.flagsOf "INBOX" 1) after.2).1 = .ok flags ∧ flags.Nodup ∧
      flags.toFinset = {.draft} := by
  intro s c changes after
  have hm : s.mailbox "INBOX" = .ok ⟨2, [⟨1, [.seen], [65]⟩]⟩ := by decide +kernel
  have hmsg : (⟨1, [.seen], [65]⟩ : StoredMessage) ∈ [⟨1, [.seen], [65]⟩] :=
    List.mem_singleton_self _
  have hset : changes.foldl (fun marks change =>
      if change.Names "INBOX" 1 then change.ofSet marks else marks) [Flag.seen].toFinset =
        {.draft} := by
    decide +kernel
  rw [← hset]
  exact (flags_folded ⟨"pw", [.deliver "INBOX" [65] [.seen]], rfl⟩ .empty (c := c)
    (by decide +kernel) hm hmsg).1 changes

end Server

end Postroom
