import Postroom.Proofs.Server.Moving

/-! # Commands on one message

What the commands of a filter come to on a server.  Taken together they revise the
flags of one message (`Commands.revise`), in the mailbox where it is or, after a
move, in the target (`exec_apply`).
-/

namespace Postroom

/-- The flags of a message after one step of commands. -/
def Commands.step (mode : StoreMode) (names : Option (List String)) (flags : List Flag) :
    List Flag :=
  match names with
  | .some names => Server.combine mode (Server.keptFlags (names.map Flag.ofString)) flags
  | .none => flags

theorem Commands.kept_step (mode : StoreMode) (names : Option (List String)) {flags : List Flag}
    (h : KeptFlags flags) : KeptFlags (step mode names flags) := by
  cases names with
  | none => exact h
  | some names => exact Server.kept_combine mode (Server.kept_keptFlags _) h

/-- The flags of a message after all commands: added, then removed, then replaced. -/
def Commands.revise (commands : Commands) (flags : List Flag) : List Flag :=
  step .replace commands.replaceFlags
    (step .remove commands.removeFlags (step .add commands.addFlags flags))

/-- Whether no flags are changed at all. -/
def Commands.sparesFlags (commands : Commands) : Bool :=
  commands.addFlags.isNone && commands.removeFlags.isNone && commands.replaceFlags.isNone

namespace StoredMailbox

variable (m : StoredMailbox) (uid : Uid) (f g : List Flag → List Flag)

/-- The mailbox with the flags of one message changed. -/
def reflag : StoredMailbox :=
  m.change fun msg => if msg.uid = uid then { msg with flags := f msg.flags } else msg

@[simp] theorem uidNext_reflag : (m.reflag uid f).uidNext = m.uidNext := rfl

@[simp] theorem reflag_id : m.reflag uid (fun flags => flags) = m := by
  have hmessages : (m.reflag uid fun flags => flags).messages = m.messages := by
    simp [reflag]
  calc m.reflag uid (fun flags => flags)
      = ⟨m.uidNext, (m.reflag uid fun flags => flags).messages⟩ := rfl
    _ = m := by rw [hmessages]

theorem reflag_reflag : (m.reflag uid f).reflag uid g = m.reflag uid fun flags => g (f flags) := by
  have hmessages : ((m.reflag uid f).reflag uid g).messages =
      (m.reflag uid fun flags => g (f flags)).messages := by
    simp only [reflag, messages_change, List.map_map]
    refine List.map_congr_left fun msg _ => ?_
    by_cases h : msg.uid = uid <;> simp [h]
  exact congrArg (StoredMailbox.mk m.uidNext) hmessages

theorem Sound.reflag {m : StoredMailbox} (h : m.Sound) (uid : Uid) {f : List Flag → List Flag}
    (hf : ∀ flags, KeptFlags flags → KeptFlags (f flags)) : (m.reflag uid f).Sound := by
  refine h.change (fun msg => ?_) (fun msg hmsg => ?_)
  · split <;> rfl
  · split
    · exact hf _ hmsg
    · exact hmsg

theorem store_eq_reflag (mode : StoreMode) (flags : List Flag) :
    m.store [uid] mode flags = m.reflag uid (Server.combine mode (Server.keptFlags flags)) := by
  refine congrArg (StoredMailbox.mk m.uidNext) (List.map_congr_left fun msg _ => ?_)
  by_cases h : msg.uid = uid
  · rw [StoredMessage.revised_of_mem (by simp [h]), if_pos h]
  · rw [StoredMessage.revised_of_not_mem (by simp [h]), if_neg h]

end StoredMailbox

namespace Server

open Talk

variable {s : Server} {c : Connection} {name source target : String} {uid : Uid}

theorem put_get?_self (hs : s.Sound) {m : StoredMailbox} (hm : s.mailbox name = .ok m) :
    s.put name m = s := by
  rw [put, Assoc.insert_get?_self hs.ascending (mailbox_eq_ok_iff.mp hm).2]

theorem exec_setFlagNames (hs : s.Sound) (hcheck : s.check c = .ok ()) {m : StoredMailbox}
    (hm : s.mailbox name = .ok m) (uid : Uid) (mode : StoreMode) (names : Option (List String)) :
    ∃ c', exec answer (setFlagNames name uid mode names) (c, s) =
        (.ok (), c', s.put name (m.reflag uid (Commands.step mode names))) ∧
      s.check c' = .ok () := by
  cases names with
  | none =>
    refine ⟨c, ?_, hcheck⟩
    have hstep : Commands.step mode none = fun flags => flags := rfl
    rw [hstep, StoredMailbox.reflag_id, put_get?_self hs hm]
    rfl
  | some names =>
    refine ⟨c.at name, ?_, hcheck⟩
    have hset := exec_setFlags hcheck hm [uid] mode (names.map Flag.ofString)
    rw [StoredMailbox.store_eq_reflag] at hset
    exact hset

/-- The flags are changed in three steps, which come to one. -/
theorem exec_reviseFlags (hs : s.Sound) (hcheck : s.check c = .ok ()) {m : StoredMailbox}
    (hm : s.mailbox name = .ok m) (commands : Commands) (uid : Uid) :
    ∃ c', exec answer (reviseFlags commands name uid) (c, s) =
        (.ok (), c', s.put name (m.reflag uid commands.revise)) ∧ s.check c' = .ok () := by
  have hmsound : m.Sound := hs.of_mailbox hm
  obtain ⟨c₁, hadd, hcheck₁⟩ := exec_setFlagNames hs hcheck hm uid .add commands.addFlags
  have hsound₁ := hmsound.reflag uid fun _ => Commands.kept_step .add commands.addFlags
  obtain ⟨c₂, hremove, hcheck₂⟩ := exec_setFlagNames (hs.put name hsound₁) hcheck₁
    (mailbox_put_self hm) uid .remove commands.removeFlags
  have hsound₂ := hsound₁.reflag uid fun _ => Commands.kept_step .remove commands.removeFlags
  rw [put_put_self] at hremove
  obtain ⟨c₃, hreplace, hcheck₃⟩ := exec_setFlagNames (hs.put name hsound₂) hcheck₂
    (mailbox_put_self hm) uid .replace commands.replaceFlags
  rw [put_put_self, StoredMailbox.reflag_reflag, StoredMailbox.reflag_reflag] at hreplace
  rw [StoredMailbox.reflag_reflag] at hremove
  refine ⟨c₃, ?_, hcheck₃⟩
  rw [reviseFlags, exec_bind_of_ok hadd, exec_bind_of_ok hremove]
  exact hreplace

/-- Nothing is changed in a mailbox that is missing, and nobody notices without flags to change. -/
theorem exec_reviseFlags_of_missing {fault : Fault} (hcheck : s.check c = .ok ())
    (hm : s.mailbox name = .error fault) (commands : Commands) (uid : Uid) :
    ∃ c', exec answer (reviseFlags commands name uid) (c, s) =
        (if commands.sparesFlags then .ok () else .error fault, c', s) ∧ s.check c' = .ok () := by
  have hset : ∀ mode names, exec answer (setFlagNames name uid mode (some names)) (c, s) =
      (.error fault, c.closed, s) := fun mode names =>
    exec_setFlags_of_missing hcheck hm [uid] mode (names.map Flag.ofString)
  have hskip : ∀ mode, exec answer (setFlagNames name uid mode none) (c, s) = (.ok (), c, s) :=
    fun _ => rfl
  unfold reviseFlags Commands.sparesFlags
  cases commands.addFlags with
  | some names => exact ⟨c.closed, by rw [exec_bind_of_error (hset .add names)]; rfl, hcheck⟩
  | none =>
    rw [exec_bind_of_ok (hskip .add)]
    cases commands.removeFlags with
    | some names => exact ⟨c.closed, by rw [exec_bind_of_error (hset .remove names)]; rfl, hcheck⟩
    | none =>
      rw [exec_bind_of_ok (hskip .remove)]
      cases commands.replaceFlags with
      | some names => exact ⟨c.closed, hset .replace names, hcheck⟩
      | none => exact ⟨c, hskip .replace, hcheck⟩

/-- What changing flags of a message comes to. -/
def amend (s : Server) (commands : Commands) (name : String) (uid : Uid) :
    Except Fault Unit × Server :=
  match s.mailbox name with
  | .ok m => (.ok (), s.put name (m.reflag uid commands.revise))
  | .error fault => (if commands.sparesFlags then .ok () else .error fault, s)

theorem exec_amend (hs : s.Sound) (hcheck : s.check c = .ok ()) (commands : Commands)
    (name : String) (uid : Uid) :
    ∃ c', exec answer (reviseFlags commands name uid) (c, s) =
        ((s.amend commands name uid).1, c', (s.amend commands name uid).2) ∧
      s.check c' = .ok () := by
  unfold amend
  cases hm : s.mailbox name with
  | ok m => exact exec_reviseFlags hs hcheck hm commands uid
  | error fault => exact exec_reviseFlags_of_missing hcheck hm commands uid

/-! ### All commands -/

/-- What applying commands to a message comes to. -/
def obey (s : Server) (commands : Commands) (source : String) (uid : Uid) :
    Except Fault Unit × Server :=
  match commands.moveTo with
  | none => s.amend commands source uid
  | some target =>
    match s.relocate source target [uid] with
    | (.ok first, s) => s.amend commands target (first.getD uid)
    | (.error fault, s) => (.error fault, s)

theorem Sound.relocate (hs : s.Sound) (source target : String) (uids : List Uid) :
    (s.relocate source target uids).2.Sound := by
  rcases hrel : s.relocate source target uids with ⟨fault | first, t⟩
  · exact (relocate_eq_error hrel).sound hs
  · obtain ⟨ready, hready, -, -, -, rfl⟩ := relocate_eq_ok hrel
    exact (hready.sound hs).moved source target uids

theorem check_relocate (s : Server) (source target : String) (uids : List Uid) :
    (s.relocate source target uids).2.check = s.check := by
  rcases hrel : s.relocate source target uids with ⟨fault | first, t⟩
  · exact (relocate_eq_error hrel).check
  · obtain ⟨ready, hready, -, -, -, rfl⟩ := relocate_eq_ok hrel
    exact hready.check

theorem exec_apply (hs : s.Sound) (hcan : s.canMove = true ∨ s.canExpungeUids = true)
    (hcheck : s.check c = .ok ()) (commands : Commands) (source : String) (uid : Uid) :
    ∃ c', exec answer (apply commands source uid) (c, s) =
        ((s.obey commands source uid).1, c', (s.obey commands source uid).2) ∧
      s.check c' = .ok () := by
  rw [Talk.apply_eq]
  unfold obey
  cases commands.moveTo with
  | none => exact exec_amend hs hcheck commands source uid
  | some target =>
    have hun : source ≠ target ∨ s.Unclaimed source [uid] := Or.inr (hs.unclaimed source uid)
    have hmove := exec_move hcan hcheck hun
    have hsound := hs.relocate source target [uid]
    have hchecks := check_relocate s source target [uid]
    have hcheck' : s.check (s.departed c source) = .ok () := by
      unfold departed
      split <;> exact hcheck
    simp only
    rcases hrel : s.relocate source target [uid] with ⟨fault | first, t⟩ <;>
      rw [hrel] at hmove hsound hchecks
    · exact ⟨_, exec_bind_of_error hmove, hcheck'⟩
    · obtain ⟨c', hamend, hc'⟩ :=
        exec_amend hsound (hchecks ▸ hcheck') commands target (first.getD uid)
      exact ⟨c', (exec_bind_of_ok hmove).trans hamend, hchecks ▸ hc'⟩

/-- Nothing is done over a connection that cannot be used. -/
theorem exec_apply_of_dead {fault : Fault} (hcheck : s.check c = .error fault) (commands : Commands)
    (source : String) (uid : Uid) :
    (exec answer (apply commands source uid) (c, s)).2 = (c, s) := by
  let Idle : Connection × Server → Connection × Server → Prop :=
    fun x y => (∃ fault, x.2.check x.1 = .error fault) → y = x
  have htrans : ∀ x y z, Idle x y → Idle y z → Idle x z := by
    intro x y z hxy hyz hdead
    rw [hyz (hxy hdead ▸ hdead), hxy hdead]
  have hset : ∀ name uid mode names, Keeps answer Idle (setFlagNames name uid mode names) := by
    rintro name uid mode (_ | names) ⟨c, s⟩ ⟨fault, hdead⟩
    · rfl
    · exact congrArg Prod.snd (exec_setFlags_of_dead hdead name [uid] mode _)
  have hmove : ∀ target, Keeps answer Idle (move [uid] source target) := by
    rintro target ⟨c, s⟩ ⟨fault, hdead⟩
    exact congrArg Prod.snd (exec_move_of_dead hdead [uid] source target)
  have hrevise : ∀ name uid, Keeps answer Idle (reviseFlags commands name uid) := fun name uid =>
    keeps_bind htrans (hset name uid _ _) fun _ =>
      keeps_bind htrans (hset name uid _ _) fun _ => hset name uid _ _
  refine (?_ : Keeps answer Idle (apply commands source uid)) (c, s) ⟨fault, hcheck⟩
  rw [Talk.apply_eq]
  cases commands.moveTo with
  | none => exact hrevise source uid
  | some target =>
    exact keeps_bind htrans (hmove target) fun moved => hrevise target (moved.getD uid)

end Server

end Postroom
