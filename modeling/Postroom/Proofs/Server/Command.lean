import Postroom.Proofs.Table
import Postroom.Server

/-! # What commands do to a server

A command of `Server.answer` looks up the connection, the mailbox that is open and
the mailboxes it names, and puts at most two mailboxes back.  The lemmas below say
when each look-up succeeds and what the server is afterwards: `changeOpen` puts
back the open mailbox, and `copyInto` gives a mailbox the messages named, after it
took them out of the open one if that is wanted (`StoredMailbox.receive`).  All that
a request can make of a server is its `Effect`, so what holds of every answer is
proved from the effects (`effect_answer`).
-/

namespace Postroom

/-! ### Messages and mailboxes -/

namespace StoredMessage

variable {uids : List Uid} {mode : StoreMode} {flags : List Flag} {msg : StoredMessage}

/-- A message after flags of the messages named were combined with given ones. -/
def revised (uids : List Uid) (mode : StoreMode) (flags : List Flag) (msg : StoredMessage) :
    StoredMessage :=
  if uids.contains msg.uid then
    { msg with flags := Server.combine mode (Server.keptFlags flags) msg.flags } else msg

theorem revised_of_mem (h : msg.uid ∈ uids) :
    msg.revised uids mode flags =
      { msg with flags := Server.combine mode (Server.keptFlags flags) msg.flags } :=
  if_pos (List.contains_iff_mem.mpr h)

theorem revised_of_not_mem (h : msg.uid ∉ uids) : msg.revised uids mode flags = msg :=
  if_neg fun hin => h (List.contains_iff_mem.mp hin)

@[simp] theorem uid_revised : (msg.revised uids mode flags).uid = msg.uid := by
  unfold revised
  split <;> rfl

@[simp] theorem content_revised : (msg.revised uids mode flags).content = msg.content := by
  unfold revised
  split <;> rfl

end StoredMessage

namespace StoredMailbox

variable (m : StoredMailbox)

@[simp] theorem uidNext_keep (p : StoredMessage → Bool) : (m.keep p).uidNext = m.uidNext := rfl

@[simp] theorem messages_keep (p : StoredMessage → Bool) :
    (m.keep p).messages = m.messages.filter p := rfl

@[simp] theorem uidNext_change (f : StoredMessage → StoredMessage) :
    (m.change f).uidNext = m.uidNext := rfl

@[simp] theorem messages_change (f : StoredMessage → StoredMessage) :
    (m.change f).messages = m.messages.map f := rfl

/-- The messages of a mailbox that are named. -/
def named (uids : List Uid) : List StoredMessage :=
  m.messages.filter fun msg => uids.contains msg.uid

/-- The mailbox without the messages named. -/
def without (uids : List Uid) : StoredMailbox := m.keep fun msg => !uids.contains msg.uid

/-- The mailbox with copies of messages, which do not count as recent. -/
def receive (messages : List StoredMessage) : StoredMailbox :=
  messages.foldl (fun m msg => m.push (msg.flags.filter (· ≠ .recent)) msg.content) m

/-- The mailbox with the flags of the messages named combined with given ones. -/
def store (uids : List Uid) (mode : StoreMode) (flags : List Flag) : StoredMailbox :=
  m.change fun msg => msg.revised uids mode flags

/-- Copies of messages with identifiers from a number on. -/
def copies (n : Uid) : List StoredMessage → List StoredMessage
  | [] => []
  | msg :: rest => ⟨n, msg.flags.filter (· ≠ .recent), msg.content⟩ :: copies (n + 1) rest

@[simp] theorem receive_nil : m.receive [] = m := rfl

@[simp] theorem receive_cons (msg : StoredMessage) (rest : List StoredMessage) :
    m.receive (msg :: rest) =
      (m.push (msg.flags.filter (· ≠ .recent)) msg.content).receive rest := rfl

@[simp] theorem uidNext_receive (l : List StoredMessage) :
    (m.receive l).uidNext = m.uidNext + l.length := by
  induction l generalizing m with
  | nil => rfl
  | cons msg rest ih =>
    rw [receive_cons, ih, List.length_cons]
    exact Nat.add_right_comm _ _ _

theorem messages_receive (l : List StoredMessage) :
    (m.receive l).messages = m.messages ++ copies m.uidNext l := by
  induction l generalizing m with
  | nil => simp [copies]
  | cons msg rest ih =>
    rw [receive_cons, ih]
    simp [push, copies]

theorem le_uid_of_mem_copies {n : Uid} {l : List StoredMessage} {msg : StoredMessage}
    (h : msg ∈ copies n l) : n ≤ msg.uid := by
  induction l generalizing n with
  | nil => simp [copies] at h
  | cons head rest ih =>
    rcases List.mem_cons.mp h with rfl | h
    · exact Nat.le_refl n
    · exact Nat.le_of_succ_le (ih h)

end StoredMailbox

/-! ### Look-ups -/

namespace Server

variable {s : Server} {c : Connection} {name : String}

theorem selected_eq_ok_iff :
    s.selected c = .ok name ↔ s.check c = .ok () ∧ c.selected = some name := by
  unfold selected
  rw [bind_eq_ok_iff]
  constructor
  · rintro ⟨_, hcheck, h⟩
    split at h
    · next hsel => exact ⟨hcheck, by rw [hsel, Except.ok.inj h]⟩
    · cases h
  · rintro ⟨hcheck, hsel⟩
    exact ⟨(), hcheck, by rw [hsel]; rfl⟩

theorem writable_eq_ok_iff :
    s.writable c = .ok name ↔
      s.check c = .ok () ∧ c.selected = some name ∧ c.readOnly = false := by
  unfold writable
  rw [bind_eq_ok_iff]
  constructor
  · rintro ⟨other, hsel, h⟩
    obtain ⟨hcheck, hsel⟩ := selected_eq_ok_iff.mp hsel
    cases hro : c.readOnly with
    | true => rw [hro] at h; cases h
    | false =>
      rw [hro] at h
      obtain rfl : other = name := Except.ok.inj h
      exact ⟨hcheck, hsel, rfl⟩
  · rintro ⟨hcheck, hsel, hro⟩
    exact ⟨name, selected_eq_ok_iff.mpr ⟨hcheck, hsel⟩, by rw [hro]; rfl⟩

theorem mailbox_eq_ok_iff {m : StoredMailbox} :
    s.mailbox name = .ok m ↔ name ∉ s.reportedMissing ∧ s.mailboxes.get? name = some m := by
  unfold mailbox
  by_cases hrep : name ∈ s.reportedMissing
  · simp [hrep]
  · cases hget : s.mailboxes.get? name <;> simp [hrep]

/-- A mailbox that is not found is said to be missing. -/
theorem mailbox_eq_error {fault : Fault} (h : s.mailbox name = .error fault) :
    fault = missing name := by
  unfold mailbox at h
  split at h
  · exact (Except.error.inj h).symm
  · split at h
    · cases h
    · exact (Except.error.inj h).symm

/-- A mailbox; an empty one if there is none of the name. -/
def box (s : Server) (name : String) : StoredMailbox := (s.mailboxes.get? name).getD .empty

theorem box_eq_of_get? {m : StoredMailbox} (h : s.mailboxes.get? name = some m) :
    s.box name = m := by
  rw [box, h, Option.getD_some]

theorem box_eq_of_mailbox {m : StoredMailbox} (h : s.mailbox name = .ok m) : s.box name = m :=
  box_eq_of_get? (mailbox_eq_ok_iff.mp h).2

theorem box_eq_empty (h : s.mailboxes.has name = false) : s.box name = .empty := by
  rw [box, Assoc.has_eq_false_iff.mp h, Option.getD_none]

/-! ### Putting a mailbox -/

theorem get?_put (s : Server) (name other : String) (m : StoredMailbox) :
    (s.put name m).mailboxes.get? other =
      if other = name then some m else s.mailboxes.get? other := Assoc.get?_insert ..

theorem box_put (s : Server) (name other : String) (m : StoredMailbox) :
    (s.put name m).box other = if other = name then m else s.box other := by
  unfold box
  rw [get?_put]
  split <;> rfl

theorem box_put_self (s : Server) (name : String) (m : StoredMailbox) :
    (s.put name m).box name = m := by
  rw [box_put, if_pos rfl]

@[simp] theorem put_put_self (s : Server) (name : String) (m n : StoredMailbox) :
    (s.put name m).put name n = s.put name n := by
  simp [put]

theorem put_comm {a b : String} (h : a ≠ b) (s : Server) (m n : StoredMailbox) :
    (s.put b n).put a m = (s.put a m).put b n := by
  simp [put, Assoc.insert_comm h]

@[simp] theorem check_put (s : Server) (name : String) (m : StoredMailbox) :
    (s.put name m).check = s.check := rfl

@[simp] theorem selected_put (s : Server) (name : String) (m : StoredMailbox) :
    (s.put name m).selected = s.selected := rfl

@[simp] theorem writable_put (s : Server) (name : String) (m : StoredMailbox) :
    (s.put name m).writable = s.writable := rfl

theorem mailbox_put_self {m n : StoredMailbox} (h : s.mailbox name = .ok m) :
    (s.put name n).mailbox name = .ok n := by
  rw [mailbox_eq_ok_iff] at h ⊢
  exact ⟨h.1, by rw [get?_put, if_pos rfl]⟩

theorem mailbox_put_of_ne {other : String} (h : other ≠ name) (m : StoredMailbox) :
    (s.put name m).mailbox other = s.mailbox other := by
  unfold mailbox
  rw [get?_put, if_neg h]
  rfl

/-! ### Changes -/

theorem changeOpen_eq_ok_iff {f : StoredMailbox → StoredMailbox} {t : Server} :
    s.changeOpen c f = .ok t ↔
      ∃ name m, s.writable c = .ok name ∧ s.mailbox name = .ok m ∧ t = s.put name (f m) := by
  unfold changeOpen
  simp only [bind_eq_ok_iff]
  constructor
  · rintro ⟨name, hw, m, hm, h⟩
    exact ⟨name, m, hw, hm, (Except.ok.inj h).symm⟩
  · rintro ⟨name, m, hw, hm, rfl⟩
    exact ⟨name, hw, m, hm, rfl⟩

/-- The server after messages were copied from one mailbox to another. -/
def copied (s : Server) (source target : String) (uids : List Uid) : Server :=
  s.put target ((s.box target).receive ((s.box source).named uids))

/-- The server after messages were moved from one mailbox to another. -/
def moved (s : Server) (source target : String) (uids : List Uid) : Server :=
  let rest := s.put source ((s.box source).without uids)
  rest.put target ((rest.box target).receive ((s.box source).named uids))

/-- The identifier of the first copy, if there is one. -/
def firstCopy (s : Server) (source target : String) (uids : List Uid) : Option Uid :=
  if ((s.box source).named uids).isEmpty then none else some (s.box target).uidNext

theorem copySource_eq_ok_iff {source target : String} {box : StoredMailbox} :
    s.copySource c target = .ok (source, box) ↔
      s.writable c = .ok source ∧ (∃ dest, s.mailbox target = .ok dest) ∧
        s.mailbox source = .ok box := by
  unfold copySource
  simp only [bind_eq_ok_iff]
  constructor
  · rintro ⟨name, hw, dest, hd, m, hm, h⟩
    obtain ⟨rfl, rfl⟩ := Prod.mk.inj (Except.ok.inj h)
    exact ⟨hw, ⟨dest, hd⟩, hm⟩
  · rintro ⟨hw, ⟨dest, hd⟩, hm⟩
    exact ⟨source, hw, dest, hd, box, hm, rfl⟩

/-- A mailbox that was found is found again when messages have been taken out of the open one. -/
theorem mailbox_put_of_found {source target : String} {box dest : StoredMailbox}
    (rest : StoredMailbox)
    (hb : s.mailbox source = .ok box) (hd : s.mailbox target = .ok dest) :
    (s.put source rest).mailbox target = .ok (if target = source then rest else dest) := by
  by_cases heq : target = source
  · subst heq
    rw [if_pos rfl, mailbox_put_self hb]
  · rw [if_neg heq, mailbox_put_of_ne heq, hd]

/-- If both mailboxes are found, the copying succeeds. -/
theorem copyInto_of_ok {source target : String} {box dest : StoredMailbox}
    (hw : s.writable c = .ok source) (hb : s.mailbox source = .ok box)
    (hd : s.mailbox target = .ok dest) (uids : List Uid) (remove : Bool) :
    s.copyInto c uids target remove = (.ok (s.firstCopy source target uids),
      if remove then s.moved source target uids else s.copied source target uids) := by
  have hsource : s.copySource c target = .ok (source, box) :=
    copySource_eq_ok_iff.mpr ⟨hw, ⟨dest, hd⟩, hb⟩
  unfold copyInto
  rw [hsource]
  cases remove with
  | false =>
    simp only [Bool.false_eq_true, if_false, hd]
    simp only [firstCopy, copied, box_eq_of_mailbox hb, box_eq_of_mailbox hd]
    rfl
  | true =>
    -- The second look-up finds what the first one found, less what was taken out.
    have hagain := mailbox_put_of_found (box.without uids) hb hd
    have hbox : (s.put source (box.without uids)).box target =
        if target = source then box.without uids else dest := box_eq_of_mailbox hagain
    simp only [StoredMailbox.without] at hagain
    simp only [if_true, hagain]
    simp only [firstCopy, moved, box_eq_of_mailbox hb, box_eq_of_mailbox hd, hbox]
    by_cases heq : target = source
    · subst heq
      obtain rfl : dest = box := Except.ok.inj (hd.symm.trans hb)
      simp only [if_true]
      rfl
    · simp only [if_neg heq]
      rfl

theorem copyInto_of_error {fault : Fault} {target : String}
    (h : s.copySource c target = .error fault)
    (uids : List Uid) (remove : Bool) : s.copyInto c uids target remove = (.error fault, s) := by
  rw [copyInto, h]

/-- Either nothing happens, or both mailboxes were found and the messages are copied. -/
theorem copyInto_cases (s : Server) (c : Connection) (uids : List Uid) (target : String)
    (remove : Bool) :
    (∃ fault, s.copyInto c uids target remove = (.error fault, s)) ∨
      ∃ source, s.writable c = .ok source ∧
        s.copyInto c uids target remove = (.ok (s.firstCopy source target uids),
          if remove then s.moved source target uids else s.copied source target uids) := by
  rcases h : s.copySource c target with fault | ⟨source, box⟩
  · exact Or.inl ⟨fault, copyInto_of_error h uids remove⟩
  · obtain ⟨hw, ⟨dest, hd⟩, hb⟩ := copySource_eq_ok_iff.mp h
    exact Or.inr ⟨source, hw, copyInto_of_ok hw hb hd uids remove⟩

/-! ### Answers -/

/-- A change of a server leaves everything if it was not made, and is the result if it was. -/
theorem changing_cases {α : Type} (c : Connection) (s : Server) (r : Except Fault (α × Server)) :
    (∃ fault, changing c s r = (.error fault, c, s)) ∨
      ∃ a t, r = .ok (a, t) ∧ changing c s r = (.ok a, c, t) := by
  rcases r with fault | ⟨a, t⟩
  · exact Or.inl ⟨fault, rfl⟩
  · exact Or.inr ⟨a, t, rfl, rfl⟩

/-- A message is added to a mailbox that is found. -/
theorem answer_append (name : String) (flags : List Flag) (content : List UInt8) (c : Connection)
    (s : Server) :
    (∃ fault, answer (.append name flags content) (c, s) = (.error fault, c, s)) ∨
      ∃ m, s.mailbox name = .ok m ∧ answer (.append name flags content) (c, s) =
        (.ok (), c, s.put name (m.push (keptFlags flags) content)) := by
  simp only [answer]
  rcases changing_cases c s _ with h | ⟨_, t, happend, h⟩
  · exact Or.inl h
  · obtain ⟨-, -, hrest⟩ := bind_eq_ok_iff.mp happend
    obtain ⟨m, hm, heq⟩ := bind_eq_ok_iff.mp hrest
    obtain ⟨-, rfl⟩ := Prod.mk.inj (Except.ok.inj heq)
    exact Or.inr ⟨m, hm, h⟩


/-- The answer to a request for copies. -/
theorem answer_copy (uids : List Uid) (target : String) (c : Connection) (s : Server) :
    answer (.copy uids target) (c, s) =
      ((s.copyInto c uids target false).1, c, (s.copyInto c uids target false).2) := rfl

/-- A move is refused at once over an unusable connection, or if the server cannot move. -/
theorem answer_move (uids : List Uid) (target : String) (c : Connection) (s : Server) :
    (∃ fault, answer (.move uids target) (c, s) = (.error fault, c, s)) ∨
      answer (.move uids target) (c, s) =
        ((s.copyInto c uids target true).1, c, (s.copyInto c uids target true).2) := by
  simp only [answer]
  split
  · next fault _ => exact Or.inl ⟨fault, rfl⟩
  · exact Or.inr rfl

/-! ### Effects -/

/-- What a request may make of a server. -/
inductive Effect (s : Server) : Request → Server → Prop where
  /-- The server stays as it is. -/
  | nothing (r : Request) : Effect s r s
  /-- A mailbox is made where there is none. -/
  | made {name : String} (h : s.mailboxes.has name = false) :
    Effect s (.create name) (s.put name .empty)
  /-- A mailbox is removed. -/
  | removed (name : String) : Effect s (.delete name) { s with mailboxes := s.mailboxes.erase name }
  /-- Flags are changed. -/
  | stored {name : String} {m : StoredMailbox} (hm : s.mailbox name = .ok m) (uids : List Uid)
      (mode : StoreMode) (flags : List Flag) :
      Effect s (.store uids mode flags) (s.put name (m.store uids mode flags))
  /-- Messages are copied. -/
  | copied (source : String) (uids : List Uid) (target : String) :
      Effect s (.copy uids target) (s.copied source target uids)
  /-- Messages are moved. -/
  | moved (source : String) (uids : List Uid) (target : String) :
      Effect s (.move uids target) (s.moved source target uids)
  /-- All messages that are marked are removed. -/
  | expunged {name : String} {m : StoredMailbox} (hm : s.mailbox name = .ok m) :
      Effect s .expunge (s.put name (m.keep fun msg => !msg.flags.contains .deleted))
  /-- Messages that are named and marked are removed. -/
  | expungedUids {name : String} {m : StoredMailbox} (hm : s.mailbox name = .ok m)
      (uids : List Uid) :
      Effect s (.expungeUids uids)
        (s.put name (m.keep fun msg => !(uids.contains msg.uid && msg.flags.contains .deleted)))
  /-- A message is added. -/
  | appended {name : String} {m : StoredMailbox} (hm : s.mailbox name = .ok m) (flags : List Flag)
      (content : List UInt8) :
      Effect s (.append name flags content) (s.put name (m.push (keptFlags flags) content))

theorem effect_changing {α : Type} {r : Request} {x : Except Fault (α × Server)}
    (h : ∀ a t, x = .ok (a, t) → Effect s r t) : Effect s r (changing c s x).2.2 := by
  rcases x with fault | ⟨a, t⟩
  · exact .nothing r
  · exact h a t rfl

/-- A request that changes the open mailbox has the effect of the change. -/
theorem effect_of_changeOpen {r : Request} {f : StoredMailbox → StoredMailbox} {a : Unit}
    {t : Server}
    (ht : (do return ((), ← s.changeOpen c f) : Except Fault (Unit × Server)) = .ok (a, t))
    (h : ∀ name m, s.mailbox name = .ok m → Effect s r (s.put name (f m))) : Effect s r t := by
  obtain ⟨t', ht', heq⟩ := bind_eq_ok_iff.mp ht
  obtain ⟨-, rfl⟩ := Prod.mk.inj (Except.ok.inj heq)
  obtain ⟨name, m, -, hm, rfl⟩ := changeOpen_eq_ok_iff.mp ht'
  exact h name m hm

/-- Every answer leaves the server as it was, or has the effect of the request. -/
theorem effect_answer (r : Request) (c : Connection) (s : Server) :
    Effect s r (answer r (c, s)).2.2 := by
  cases r with
  | select name | examine name | list | search criteria | fetch uids items => exact .nothing _
  | create name =>
    refine effect_changing fun a t ht => ?_
    simp only [bind_eq_ok_iff] at ht
    obtain ⟨-, -, ht⟩ := ht
    split at ht
    · cases ht
    · next hnew =>
      obtain ⟨-, rfl⟩ := Prod.mk.inj (Except.ok.inj ht)
      exact .made (Bool.eq_false_iff.mpr hnew)
  | delete name =>
    rw [Server.answer]
    split
    · exact .nothing _
    · exact .removed name
  | store uids mode flags =>
    exact effect_changing fun a t ht => effect_of_changeOpen ht fun name m hm =>
      .stored hm uids mode flags
  | copy uids target =>
    rw [answer_copy]
    rcases copyInto_cases s c uids target false with ⟨fault, h⟩ | ⟨source, -, h⟩ <;> rw [h]
    · exact .nothing _
    · exact .copied source uids target
  | move uids target =>
    rcases answer_move uids target c s with ⟨fault, h⟩ | h <;> rw [h]
    · exact .nothing _
    · rcases copyInto_cases s c uids target true with ⟨fault, h⟩ | ⟨source, -, h⟩ <;> rw [h]
      · exact .nothing _
      · exact .moved source uids target
  | expunge =>
    exact effect_changing fun a t ht => effect_of_changeOpen ht fun name m hm => .expunged hm
  | expungeUids uids =>
    refine effect_changing fun a t ht => ?_
    obtain ⟨-, -, ht⟩ := bind_eq_ok_iff.mp ht
    split at ht
    · cases ht
    · exact effect_of_changeOpen ht fun name m hm => .expungedUids hm uids
  | append name flags content =>
    rcases answer_append name flags content c s with ⟨fault, h⟩ | ⟨m, hm, h⟩ <;> rw [h]
    · exact .nothing _
    · exact .appended hm flags content
  | logout =>
    rw [Server.answer]
    split <;> exact .nothing _

end Server

end Postroom
