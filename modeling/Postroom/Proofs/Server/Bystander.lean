import Postroom.Proofs.Exchange
import Postroom.Proofs.Server.Agreement
import Postroom.Proofs.Server.Applying

/-! # Messages beside the one that commands are for

Commands are for one message of one mailbox.  All other messages should stay where
they are and as they are (`KeepsOthers`).  They do, with one exception
(`Misdirected`): if the message is gone when it is to be moved, nothing is moved,
and the flags are then changed under its old identifier in the target, where that
identifier belongs to another message.  `keepsOthers_iff` says that there is no
other exception, and `flags_reach_stranger` that this one arises.
-/

namespace Postroom.Server

open Talk

/-- Every message but one is where it was, as it was. -/
def KeepsOthers (source : String) (uid : Uid) (s t : Server) : Prop :=
  ∀ name box msg, s.mailboxes.get? name = some box → msg ∈ box.messages →
    ¬(name = source ∧ msg.uid = uid) →
    ∃ box', t.mailboxes.get? name = some box' ∧ msg ∈ box'.messages

/-- The message is gone, and its identifier names a message of the target whose flags the commands
would change. -/
def Misdirected (s : Server) (c : Connection) (commands : Commands) (source : String)
    (uid : Uid) : Prop :=
  ∃ target box dest msg, commands.moveTo = some target ∧ s.check c = .ok () ∧
    s.mailbox source = .ok box ∧ (∀ m ∈ box.messages, m.uid ≠ uid) ∧
    s.mailbox target = .ok dest ∧ msg ∈ dest.messages ∧ msg.uid = uid ∧
    commands.revise msg.flags ≠ msg.flags

variable {s t u : Server} {source target : String} {uid : Uid}

theorem keepsOthers_refl (source : String) (uid : Uid) (s : Server) : KeepsOthers source uid s s :=
  fun _ box _ hbox hmsg _ => ⟨box, hbox, hmsg⟩

theorem KeepsOthers.trans (hst : KeepsOthers source uid s t) (htu : KeepsOthers source uid t u) :
    KeepsOthers source uid s u := by
  intro name box msg hbox hmsg hother
  obtain ⟨box', hbox', hmsg'⟩ := hst name box msg hbox hmsg hother
  exact htu name box' msg hbox' hmsg' hother

/-- Putting a mailbox harms nobody if the others in it are kept. -/
theorem keepsOthers_put {name : String} {m : StoredMailbox}
    (h : ∀ box msg, s.mailboxes.get? name = some box → msg ∈ box.messages →
      ¬(name = source ∧ msg.uid = uid) → msg ∈ m.messages) :
    KeepsOthers source uid s (s.put name m) := by
  intro other box msg hbox hmsg hother
  by_cases heq : other = name
  · subst heq
    exact ⟨m, by rw [get?_put, if_pos rfl], h box msg hbox hmsg hother⟩
  · exact ⟨box, by rw [get?_put, if_neg heq, hbox], hmsg⟩

theorem Readied.keepsOthers (h : s.Readied target t) (source : String) (uid : Uid) :
    KeepsOthers source uid s t := by
  rcases h with rfl | ⟨hnone, rfl⟩
  · exact keepsOthers_refl source uid t
  · refine keepsOthers_put fun box msg hbox _ _ => ?_
    rw [hnone] at hbox
    cases hbox

/-- Moving a message takes no other away. -/
theorem keepsOthers_moved (s : Server) (source target : String) (uid : Uid) :
    KeepsOthers source uid s (s.moved source target [uid]) := by
  have hleave : KeepsOthers source uid s (s.put source ((s.box source).without [uid])) := by
    refine keepsOthers_put fun box msg hbox hmsg hother => ?_
    rw [box_eq_of_get? hbox]
    refine List.mem_filter.mpr ⟨hmsg, ?_⟩
    simpa using fun huid => hother ⟨rfl, huid⟩
  refine hleave.trans (keepsOthers_put fun box msg hbox hmsg _ => ?_)
  rw [box_eq_of_get? hbox, StoredMailbox.messages_receive]
  exact List.mem_append_left _ hmsg

/-- Changing flags of one message harms nobody if it is the message that the commands are for, a
new one, or one whose flags stay. -/
theorem KeepsOthers.amend (h : KeepsOthers source uid s t) (commands : Commands) {name : String}
    {other : Uid}
    (hspared : ∀ box msg, s.mailboxes.get? name = some box → msg ∈ box.messages → msg.uid = other →
      ¬(name = source ∧ msg.uid = uid) → commands.revise msg.flags = msg.flags) :
    KeepsOthers source uid s (t.amend commands name other).2 := by
  unfold Server.amend
  cases hm : t.mailbox name with
  | error fault => exact h
  | ok m =>
    intro place box msg hbox hmsg hother
    obtain ⟨box', hbox', hmsg'⟩ := h place box msg hbox hmsg hother
    by_cases heq : place = name
    · subst heq
      obtain rfl : m = box' := Option.some.inj ((mailbox_eq_ok_iff.mp hm).2.symm.trans hbox')
      refine ⟨m.reflag other commands.revise, by rw [get?_put, if_pos rfl], ?_⟩
      refine List.mem_map.mpr ⟨msg, hmsg', ?_⟩
      split
      · next huid => rw [hspared box msg hbox hmsg huid hother]
      · rfl
    · exact ⟨box', by rw [get?_put, if_neg heq, hbox'], hmsg'⟩

/-- Without a misdirection commands touch only their own message. -/
theorem keepsOthers_obey (hs : s.Sound) {c : Connection} (hcheck : s.check c = .ok ())
    {commands : Commands} (hclear : ¬ s.Misdirected c commands source uid) :
    KeepsOthers source uid s (s.obey commands source uid).2 := by
  unfold obey
  cases hto : commands.moveTo with
  | none =>
    exact (keepsOthers_refl source uid s).amend commands
      fun _ _ _ _ huid hother => absurd ⟨rfl, huid⟩ hother
  | some target =>
    simp only
    rcases hrel : s.relocate source target [uid] with ⟨fault | first, t⟩
    · exact (relocate_eq_error hrel).keepsOthers source uid
    · obtain ⟨ready, hready, ⟨box, hbox⟩, ⟨dest, hdest⟩, rfl, rfl⟩ := relocate_eq_ok hrel
      have hmoved :=
        (hready.keepsOthers source uid).trans (keepsOthers_moved ready source target uid)
      refine hmoved.amend commands fun box₀ msg hbox₀ hmsg huid hother => ?_
      have hsame : ready = s := by
        rcases hready with rfl | ⟨hnone, -⟩
        · rfl
        · rw [hnone] at hbox₀
          cases hbox₀
      subst hsame
      unfold firstCopy at huid
      split at huid
      · next hempty =>
        -- Nothing was moved, so the identifier is the old one.
        have hgone : ∀ m ∈ box.messages, m.uid ≠ uid := by
          rw [box_eq_of_mailbox hbox] at hempty
          have hnamed := List.filter_eq_nil_iff.mp (List.isEmpty_iff.mp hempty)
          intro m hm heq
          exact hnamed m hm (by simp [heq])
        have huid' : msg.uid = uid := huid
        refine Classical.byContradiction fun hchange => hclear ?_
        have hmailbox := mailbox_eq_ok_iff.mpr ⟨(mailbox_eq_ok_iff.mp hdest).1, hbox₀⟩
        exact ⟨target, box, box₀, msg, hto, hcheck, hbox, hgone, hmailbox, hmsg, huid', hchange⟩
      · -- The copy got an identifier that no message had.
        have hlt := ((hs.boxes target box₀ hbox₀).given msg hmsg).2
        rw [huid, box_eq_of_get? hbox₀] at hlt
        exact absurd hlt (Nat.lt_irrefl _)

/-- A misdirection changes the flags of another message. -/
theorem not_keepsOthers_obey (hs : s.Sound) {c : Connection} {commands : Commands}
    (h : s.Misdirected c commands source uid) :
    ¬ KeepsOthers source uid s (s.obey commands source uid).2 := by
  obtain ⟨target, box, dest, msg, hto, hcheck, hbox, hgone, hdest, hmsg, huid, hchange⟩ := h
  intro hkeeps
  have hne : target ≠ source := by
    rintro rfl
    obtain rfl := Except.ok.inj (hbox.symm.trans hdest)
    exact hgone msg hmsg huid
  have hget := (mailbox_eq_ok_iff.mp hdest).2
  have hnamed : box.named [uid] = [] :=
    List.filter_eq_nil_iff.mpr fun m hm => by simpa using hgone m hm
  have hfirst : s.firstCopy source target [uid] = none := by
    simp [firstCopy, box_eq_of_mailbox hbox, hnamed]
  have hmoved : (s.moved source target [uid]).mailbox target = .ok dest := by
    refine mailbox_eq_ok_iff.mpr ⟨(mailbox_eq_ok_iff.mp hdest).1, ?_⟩
    simp only [moved, get?_put, box_put, if_pos, if_neg hne, box_eq_of_mailbox hbox, hnamed,
      box_eq_of_mailbox hdest]
    rfl
  have hrel : s.relocate source target [uid] = (.ok none, s.moved source target [uid]) := by
    simp only [relocate, hbox, hdest, hfirst]
  have hobey : (s.obey commands source uid).2 =
      (s.moved source target [uid]).put target (dest.reflag uid commands.revise) := by
    simp only [obey, hto, hrel, amend, Option.getD_none, hmoved]
  rw [hobey] at hkeeps
  obtain ⟨dest', hdest', hmsg'⟩ := hkeeps target dest msg hget hmsg fun h => hne h.1
  rw [get?_put, if_pos rfl] at hdest'
  obtain rfl := Option.some.inj hdest'
  obtain ⟨old, hold, heq⟩ := List.mem_map.mp hmsg'
  have holduid : old.uid = uid := by
    rw [← huid, ← heq]
    split <;> rfl
  obtain rfl : old = msg :=
    (hs.boxes target dest hget).eq_of_uid_eq hold hmsg (holduid.trans huid.symm)
  rw [if_pos holduid] at heq
  exact hchange (congrArg StoredMessage.flags heq)

/-- **Commands touch only their own message, unless they are misdirected.** -/
theorem keepsOthers_iff (settings : Settings) (c : Connection) (hs : s.Reachable)
    (hcan : s.canMove = true ∨ s.canExpungeUids = true) (commands : Commands) (source : String)
    (uid : Uid) :
    KeepsOthers source uid s
        ((session settings c).perform (Talk.apply commands source uid) s).2.2 ↔
      ¬ s.Misdirected c commands source uid := by
  have hafter : ((session settings c).perform (Talk.apply commands source uid) s).2.2 =
      (exec answer (Talk.apply commands source uid) (c, s)).2.2 := rfl
  rw [hafter]
  cases hcheck : s.check c with
  | error fault =>
    rw [exec_apply_of_dead hcheck]
    refine iff_of_true (keepsOthers_refl source uid s) ?_
    rintro ⟨target, box, dest, msg, -, hcheck', -⟩
    rw [hcheck] at hcheck'
    cases hcheck'
  | ok _ =>
    obtain ⟨c', hexec, -⟩ := exec_apply hs.sound hcan hcheck commands source uid
    rw [hexec]
    constructor
    · exact fun hkeeps hmis => not_keepsOthers_obey hs.sound hmis hkeeps
    · exact keepsOthers_obey hs.sound hcheck

/-- A message of the target that has the same identifier as the one that is moved stays as it is. -/
theorem namesake_kept :
    let s := ((Exchange.new "pw").run [.deliver "INBOX" [66] [], .deliver "Target" [65] []]).server
    let c : Connection := ⟨0, false, none, false⟩
    let commands : Commands := ⟨some "Target", some ["\\Seen"], none, none⟩
    s.Reachable ∧ (s.canMove = true ∨ s.canExpungeUids = true) ∧
      KeepsOthers "INBOX" 1 s
        ((session .empty c).perform (Talk.apply commands "INBOX" 1) s).2.2 := by
  intro s c commands
  have hreachable : s.Reachable := ⟨"pw", _, rfl⟩
  refine ⟨hreachable, Or.inl rfl, ?_⟩
  refine (keepsOthers_iff .empty c hreachable (Or.inl rfl) commands "INBOX" 1).mpr ?_
  rintro ⟨target, box, dest, msg, -, -, hbox, hgone, -⟩
  have hinbox : s.mailbox "INBOX" = .ok ⟨2, [⟨1, [], [66]⟩]⟩ := rfl
  obtain rfl := Except.ok.inj (hinbox.symm.trans hbox)
  exact hgone ⟨1, [], [66]⟩ List.mem_cons_self rfl

/-- **A message that has nothing to do with the commands gets their flags.**  The inbox is empty,
so nothing is moved, and the message of the target is marked as read. -/
theorem flags_reach_stranger :
    let s := ((Exchange.new "pw").run [.deliver "Target" [65] []]).server
    let c : Connection := ⟨0, false, none, false⟩
    let commands : Commands := ⟨some "Target", some ["\\Seen"], none, none⟩
    s.Reachable ∧ s.canMove = true ∧ s.check c = .ok () ∧
      ¬ KeepsOthers "INBOX" 1 s
        ((session .empty c).perform (Talk.apply commands "INBOX" 1) s).2.2 := by
  intro s c commands
  refine ⟨⟨"pw", _, rfl⟩, rfl, rfl, fun hkeeps => ?_⟩
  obtain ⟨box, hbox, hmsg⟩ := hkeeps "Target" ⟨2, [⟨1, [], [65]⟩]⟩ ⟨1, [], [65]⟩ rfl
    List.mem_cons_self (by decide)
  have hafter : ((session .empty c).perform (Talk.apply commands "INBOX" 1) s).2.2.mailboxes.get?
      "Target" = some ⟨2, [⟨1, [.seen], [65]⟩]⟩ := by decide +kernel
  obtain rfl := Option.some.inj (hafter.symm.trans hbox)
  simp at hmsg

end Postroom.Server
