import Postroom.Proofs.Server.Applying

/-! # Dealing with one message after another

A `Treatment` says what is done to a message: whether it is moved, and what becomes
of its flags.  Messages of one mailbox are dealt with in a row (`Server.dealAll`), and
what all of this comes to is said mailbox by mailbox (`box_dealAll`): in the mailbox
they are in the messages are revised or taken out where they stand
(`StoredMailbox.settle`), and then every mailbox gets the messages bound for it, in
the order in which they were dealt with (`StoredMailbox.gather`).  This carries
through a row of steps because the messages that are still pending
(`Server.Pending`) are not touched by what is done to another.
-/

namespace Postroom

theorem Commands.kept_revise (commands : Commands) {flags : List Flag} (h : KeptFlags flags) :
    KeptFlags (commands.revise flags) :=
  kept_step .replace _ (kept_step .remove _ (kept_step .add _ h))

/-- What is done to a message. -/
structure Treatment where
  /-- The mailbox it is moved to. -/
  target : Option String
  /-- What its flags become. -/
  revise : List Flag → List Flag
  /-- The flags stay as a server keeps them. -/
  kept : ∀ flags, KeptFlags flags → KeptFlags (revise flags)

namespace Treatment

/-- What commands do. -/
def ofCommands (commands : Commands) : Treatment :=
  ⟨commands.moveTo, commands.revise, fun _ => commands.kept_revise⟩

theorem kept_flagged (flags : List Flag) (h : KeptFlags flags) :
    KeptFlags (Server.combine .add [.flagged] flags) :=
  Server.kept_combine .add (Server.kept_keptFlags [.flagged]) h

/-- A move that leaves the flags. -/
def moveTo (target : String) : Treatment := ⟨some target, fun flags => flags, fun _ h => h⟩

/-- What is done to a message of the input that no filter matches. -/
def ofFallback (input fallback : String) : Treatment :=
  if fallback.isEmpty || fallback = input then
    ⟨none, Server.combine .add [.flagged], kept_flagged⟩
  else moveTo fallback

variable (t : Treatment) (msg : StoredMessage)

/-- What is left of a message where it was. -/
def inPlace : Option StoredMessage :=
  match t.target with
  | none => some { msg with flags := t.revise msg.flags }
  | some _ => none

/-- The flags of a message where it is moved to. -/
def flagsMoved : List Flag := t.revise (msg.flags.filter (· ≠ .recent))

end Treatment

namespace StoredMailbox

variable (m : StoredMailbox) (order : List StoredMessage) (treat : StoredMessage → Treatment)

/-- The mailbox after messages of it were dealt with, without those that were moved. -/
def settle : StoredMailbox :=
  { m with messages := m.messages.filterMap fun msg =>
      if msg ∈ order then (treat msg).inPlace msg else some msg }

/-- The mailbox with messages that were moved to it. -/
def gather : StoredMailbox :=
  order.foldl (fun m msg => m.push ((treat msg).flagsMoved msg) msg.content) m

@[simp] theorem settle_nil : m.settle [] treat = m := by
  simp [settle]

/-- Only which messages are settled counts. -/
theorem settle_congr {m : StoredMailbox} {order order' : List StoredMessage}
    {treat : StoredMessage → Treatment} (h : ∀ msg, msg ∈ order ↔ msg ∈ order') :
    m.settle order treat = m.settle order' treat := by
  simp only [settle, h]

theorem gather_cons (msg : StoredMessage) :
    m.gather (msg :: order) treat =
      (m.push ((treat msg).flagsMoved msg) msg.content).gather order treat := rfl

section Settling
variable {m order treat} {msg : StoredMessage} {rest : List StoredMessage}

theorem mem_cons_iff_of_uid_ne {other : StoredMessage} (h : other.uid ≠ msg.uid) :
    other ∈ msg :: rest ↔ other ∈ rest := by
  rw [List.mem_cons]
  exact or_iff_right fun heq => h (congrArg StoredMessage.uid heq)

variable (hm : m.Sound) (hmsg : msg ∈ m.messages) (hfresh : msg.uid ∉ rest.map StoredMessage.uid)

include hm hmsg hfresh in
/-- Settling begins with revising the first message where it is. -/
theorem settle_reflag (ht : (treat msg).target = none) :
    (m.reflag msg.uid (treat msg).revise).settle rest treat = m.settle (msg :: rest) treat := by
  refine congrArg (StoredMailbox.mk m.uidNext) ?_
  rw [reflag, messages_change, List.filterMap_map]
  refine List.filterMap_congr fun other hother => ?_
  by_cases huid : other.uid = msg.uid
  · obtain rfl := hm.eq_of_uid_eq hother hmsg huid
    have hnot :
        (⟨other.uid, (treat other).revise other.flags, other.content⟩ : StoredMessage) ∉ rest :=
      fun hin => hfresh (List.mem_map.mpr ⟨_, hin, rfl⟩)
    simp [hnot, Treatment.inPlace, ht]
  · simp only [Function.comp_apply, if_neg huid, mem_cons_iff_of_uid_ne huid]

include hm hmsg in
/-- Settling begins with taking the first message out. -/
theorem settle_without {target : String} (ht : (treat msg).target = some target) :
    (m.without [msg.uid]).settle rest treat = m.settle (msg :: rest) treat := by
  refine congrArg (StoredMailbox.mk m.uidNext) ?_
  rw [without, messages_keep, List.filterMap_filter]
  refine List.filterMap_congr fun other hother => ?_
  by_cases huid : other.uid = msg.uid
  · obtain rfl := hm.eq_of_uid_eq hother hmsg huid
    simp [Treatment.inPlace, ht]
  · simp [huid, mem_cons_iff_of_uid_ne huid]

/-- A message that came in meanwhile is not settled. -/
theorem settle_push (h : ∀ other ∈ order, other.uid < m.uidNext) (flags : List Flag)
    (content : List UInt8) :
    (m.push flags content).settle order treat = (m.settle order treat).push flags content := by
  have hnew : (⟨m.uidNext, flags, content⟩ : StoredMessage) ∉ order :=
    fun hin => Nat.lt_irrefl m.uidNext (h _ hin)
  refine congrArg (StoredMailbox.mk (m.uidNext + 1)) ?_
  simp only [push, settle, List.filterMap_append, List.filterMap_cons, if_neg hnew,
    List.filterMap_nil]

end Settling

end StoredMailbox

namespace Treatment

/-- The messages that are moved to a mailbox. -/
def bound (treat : StoredMessage → Treatment) (name : String) (order : List StoredMessage) :
    List StoredMessage :=
  order.filter fun msg => (treat msg).target = some name

variable {treat : StoredMessage → Treatment} {name : String} {msg : StoredMessage}
  {rest : List StoredMessage}

theorem bound_cons_of_eq (h : (treat msg).target = some name) :
    bound treat name (msg :: rest) = msg :: bound treat name rest :=
  List.filter_cons_of_pos (decide_eq_true h)

theorem bound_cons_of_ne (h : (treat msg).target ≠ some name) :
    bound treat name (msg :: rest) = bound treat name rest :=
  List.filter_cons_of_neg (by simpa using h)

end Treatment

namespace Server

/-- The server after a message of a mailbox was dealt with. -/
def deal (s : Server) (input : String) (t : Treatment) (msg : StoredMessage) : Server :=
  match t.target with
  | none => s.put input ((s.box input).reflag msg.uid t.revise)
  | some target =>
    let rest := s.put input ((s.box input).without [msg.uid])
    rest.put target ((rest.box target).push (t.flagsMoved msg) msg.content)

/-- The server after messages of a mailbox were dealt with in a row. -/
def dealAll (s : Server) (input : String) (treat : StoredMessage → Treatment)
    (order : List StoredMessage) : Server :=
  order.foldl (fun s msg => s.deal input (treat msg) msg) s

/-- Messages that are in a mailbox, each with an identifier of its own. -/
structure Pending (s : Server) (input : String) (order : List StoredMessage) : Prop where
  /-- The server is sound. -/
  sound : s.Sound
  /-- There is the mailbox. -/
  found : s.mailboxes.has input = true
  /-- The messages are in it. -/
  here : ∀ msg ∈ order, msg ∈ (s.box input).messages
  /-- No two have one identifier. -/
  once : (order.map StoredMessage.uid).Nodup

variable {s : Server} {input : String} {msg : StoredMessage} {rest : List StoredMessage}

theorem has_put (s : Server) (name other : String) (m : StoredMailbox) :
    (s.put name m).mailboxes.has other = (decide (other = name) || s.mailboxes.has other) := by
  unfold Assoc.has
  rw [get?_put]
  by_cases h : other = name <;> simp [h]

theorem has_deal (h : s.mailboxes.has input = true) (t : Treatment) (msg : StoredMessage)
    (name : String) :
    (s.deal input t msg).mailboxes.has name =
      (decide (t.target = some name) || s.mailboxes.has name) := by
  have hinput : (decide (name = input) || s.mailboxes.has name) = s.mailboxes.has name := by
    by_cases heq : name = input
    · rw [heq, h, Bool.or_true]
    · simp [heq]
  unfold deal
  cases t.target with
  | none => simp [has_put, hinput]
  | some target =>
    simp only [has_put, hinput]
    by_cases heq : name = target
    · simp [heq]
    · simp [heq, Ne.symm heq]

/-- What becomes of the mailbox itself. -/
theorem box_deal_self (t : Treatment) (msg : StoredMessage) :
    (s.deal input t msg).box input =
      match t.target with
      | none => (s.box input).reflag msg.uid t.revise
      | some target =>
        if target = input then
          ((s.box input).without [msg.uid]).push (t.flagsMoved msg) msg.content
        else (s.box input).without [msg.uid] := by
  unfold deal
  cases t.target with
  | none => simp [box_put]
  | some target =>
    by_cases heq : target = input
    · simp [box_put, heq]
    · simp [box_put, heq, Ne.symm heq]

/-- What becomes of another mailbox. -/
theorem box_deal_of_ne {name : String} (h : name ≠ input) (t : Treatment) (msg : StoredMessage) :
    (s.deal input t msg).box name =
      if t.target = some name then (s.box name).push (t.flagsMoved msg) msg.content
      else s.box name := by
  unfold deal
  cases t.target with
  | none => simp [box_put, h]
  | some target =>
    by_cases heq : name = target
    · subst heq
      simp [box_put, h]
    · simp [box_put, h, heq, Ne.symm heq]

theorem Pending.sound_deal (h : s.Pending input (msg :: rest)) (t : Treatment) :
    (s.deal input t msg).Sound := by
  have hbox := h.sound.box input
  have hflags := hbox.flags msg (h.here msg List.mem_cons_self)
  unfold deal
  cases t.target with
  | none => exact h.sound.put input (hbox.reflag msg.uid t.kept)
  | some target =>
    have hleft := h.sound.put input (hbox.keep fun other => !([msg.uid].contains other.uid))
    exact hleft.put target
      ((hleft.box target).push (t.kept _ (KeptFlags.filter hflags _)) msg.content)

/-- Dealing with one message leaves the others pending. -/
theorem Pending.deal (h : s.Pending input (msg :: rest)) (t : Treatment) :
    (s.deal input t msg).Pending input rest where
  sound := h.sound_deal t
  found := by rw [has_deal h.found, h.found, Bool.or_true]
  here := by
    intro other hother
    have hhere := h.here other (List.mem_cons_of_mem _ hother)
    obtain ⟨hfresh, -⟩ := List.nodup_cons.mp h.once
    have hne : other.uid ≠ msg.uid := fun heq => hfresh (heq ▸ List.mem_map_of_mem hother)
    have hleft : other ∈ ((s.box input).without [msg.uid]).messages :=
      List.mem_filter.mpr ⟨hhere, by simpa using hne⟩
    rw [box_deal_self]
    split
    · exact List.mem_map.mpr ⟨other, hhere, if_neg hne⟩
    · split
      · exact List.mem_append_left _ hleft
      · exact hleft
  once := (List.nodup_cons.mp h.once).2

theorem Pending.tail (h : s.Pending input (msg :: rest)) : s.Pending input rest where
  sound := h.sound
  found := h.found
  here := fun other hother => h.here other (List.mem_cons_of_mem _ hother)
  once := (List.nodup_cons.mp h.once).2

/-- It does not matter in which order messages are pending. -/
theorem Pending.perm {order order' : List StoredMessage} (h : s.Pending input order)
    (hperm : order'.Perm order) : s.Pending input order' where
  sound := h.sound
  found := h.found
  here := fun msg hmsg => h.here msg (hperm.mem_iff.mp hmsg)
  once := ((hperm.map StoredMessage.uid).nodup_iff).mpr h.once

/-! ### All messages -/

variable {treat : StoredMessage → Treatment} {order : List StoredMessage}

/-- Messages stay pending while others are dealt with. -/
theorem Pending.dealAll {later : List StoredMessage} (h : s.Pending input (order ++ later)) :
    (s.dealAll input treat order).Pending input later := by
  induction order generalizing s with
  | nil => exact h
  | cons msg rest ih => exact ih (h.deal (treat msg))

/-- A mailbox is there if it was, or if messages were moved to it. -/
theorem has_dealAll (h : s.mailboxes.has input = true) (name : String) :
    (s.dealAll input treat order).mailboxes.has name =
      (!(Treatment.bound treat name order).isEmpty || s.mailboxes.has name) := by
  induction order generalizing s with
  | nil => simp [dealAll, Treatment.bound]
  | cons msg rest ih =>
    have hinput : (s.deal input (treat msg) msg).mailboxes.has input = true := by
      rw [has_deal h, h, Bool.or_true]
    have hih := ih hinput
    rw [has_deal h] at hih
    refine hih.trans ?_
    by_cases ht : (treat msg).target = some name
    · simp [Treatment.bound_cons_of_eq ht, ht]
    · simp [Treatment.bound_cons_of_ne ht, ht]

/-- Each mailbox is settled if the messages were in it, and gathers those bound for it. -/
theorem box_dealAll (h : s.Pending input order) (name : String) :
    (s.dealAll input treat order).box name =
      (if name = input then (s.box name).settle order treat else s.box name).gather
        (Treatment.bound treat name order) treat := by
  -- On the row of messages: the first step turns the server into one on which the rest is
  -- pending, and what that step did is the first part of settling and gathering.
  induction order generalizing s with
  | nil =>
    rw [StoredMailbox.settle_nil, ite_self]
    rfl
  | cons msg rest ih =>
    refine (ih (h.deal (treat msg))).trans ?_
    have hsound := h.sound.box input
    have hmsg := h.here msg List.mem_cons_self
    obtain ⟨hfresh, -⟩ := List.nodup_cons.mp h.once
    by_cases hname : name = input
    · subst hname
      rw [if_pos rfl, if_pos rfl, box_deal_self]
      cases ht : (treat msg).target with
      | none =>
        have hne : (treat msg).target ≠ some name := by simp [ht]
        rw [Treatment.bound_cons_of_ne hne, ← StoredMailbox.settle_reflag hsound hmsg hfresh ht]
      | some target =>
        rw [← StoredMailbox.settle_without hsound hmsg ht]
        simp only
        by_cases heq : target = name
        · -- The message comes back behind those that are still pending.
          have hgiven : ∀ other ∈ rest, other.uid < ((s.box name).without [msg.uid]).uidNext :=
            fun other hother =>
              (hsound.given other (h.here other (List.mem_cons_of_mem _ hother))).2
          rw [if_pos heq, Treatment.bound_cons_of_eq (heq ▸ ht), StoredMailbox.gather_cons,
            StoredMailbox.settle_push hgiven]
        · have hne : (treat msg).target ≠ some name :=
            fun h => heq (Option.some.inj (ht.symm.trans h))
          rw [if_neg heq, Treatment.bound_cons_of_ne hne]
    · rw [if_neg hname, if_neg hname, box_deal_of_ne hname]
      by_cases ht : (treat msg).target = some name
      · rw [if_pos ht, Treatment.bound_cons_of_eq ht, StoredMailbox.gather_cons]
      · rw [if_neg ht, Treatment.bound_cons_of_ne ht]

end Server

end Postroom
