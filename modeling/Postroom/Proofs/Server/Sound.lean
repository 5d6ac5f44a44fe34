import Mathlib.Data.List.Nodup
import Postroom.Proofs.Server.Command
import Postroom.Proofs.Text.Lower

/-! # Sound servers

What every command keeps of a server (`Server.Sound`): the names of its mailboxes
ascend, and in each mailbox the identifiers ascend in the order of the messages,
from one up and below the next to be given, and no message carries a flag twice or
in a form in which flags are not kept.  One lemma says so of each way in which a
mailbox changes, and `Sound.answer` of every request.
-/

namespace Postroom

/-! ### Flags -/

/-- Flags as a server keeps them: each once, and in the form in which it is kept. -/
def KeptFlags (flags : List Flag) : Prop := flags.Nodup ∧ ∀ f ∈ flags, ∃ g, Server.keptFlag g = f

namespace Server

/-- The form in which a flag is kept is kept as it is. -/
@[simp] theorem keptFlag_keptFlag (f : Flag) : keptFlag (keptFlag f) = keptFlag f := by
  cases f with
  | keyword name => exact congrArg Flag.keyword (Text.lower_lower name)
  | _ => rfl

theorem mem_addFlag {flags : List Flag} {f g : Flag} :
    f ∈ addFlag flags g ↔ f ∈ flags ∨ f = g := by
  unfold addFlag
  split
  · next h =>
    constructor
    · exact Or.inl
    · rintro (hf | rfl)
      · exact hf
      · simpa using h
  · simp

theorem nodup_addFlag {flags : List Flag} (h : flags.Nodup) (g : Flag) :
    (addFlag flags g).Nodup := by
  unfold addFlag
  split
  · exact h
  · next hg =>
    refine List.nodup_append.mpr ⟨h, List.nodup_singleton _, ?_⟩
    rintro a ha b hb rfl
    exact hg (by simpa using List.mem_singleton.mp hb ▸ ha)

theorem mem_foldl_addFlag {given flags : List Flag} {f : Flag} :
    f ∈ given.foldl addFlag flags ↔ f ∈ flags ∨ f ∈ given := by
  induction given generalizing flags with
  | nil => simp
  | cons g rest ih => rw [List.foldl_cons, ih, mem_addFlag, List.mem_cons, or_assoc]

theorem nodup_foldl_addFlag {flags : List Flag} (h : flags.Nodup) (given : List Flag) :
    (given.foldl addFlag flags).Nodup := by
  induction given generalizing flags with
  | nil => exact h
  | cons g rest ih => exact ih (nodup_addFlag h g)

theorem mem_keptFlags {flags : List Flag} {f : Flag} :
    f ∈ keptFlags flags ↔ ∃ g ∈ flags, keptFlag g = f := by
  simp [keptFlags, mem_foldl_addFlag]

theorem kept_keptFlags (flags : List Flag) : KeptFlags (keptFlags flags) := by
  refine ⟨nodup_foldl_addFlag List.nodup_nil _, fun f hf => ?_⟩
  obtain ⟨g, -, hg⟩ := mem_keptFlags.mp hf
  exact ⟨g, hg⟩

/-- Flags as a server keeps them are in the form in which they are kept. -/
theorem KeptFlags.keptFlag_eq {flags : List Flag} (h : KeptFlags flags) {f : Flag}
    (hf : f ∈ flags) :
    keptFlag f = f := by
  obtain ⟨g, rfl⟩ := h.2 f hf
  exact keptFlag_keptFlag g

theorem KeptFlags.filter {flags : List Flag} (h : KeptFlags flags) (p : Flag → Bool) :
    KeptFlags (flags.filter p) :=
  ⟨h.1.sublist List.filter_sublist, fun f hf => h.2 f (List.mem_of_mem_filter hf)⟩

theorem kept_combine {given flags : List Flag} (mode : StoreMode) (hg : KeptFlags given)
    (hf : KeptFlags flags) : KeptFlags (combine mode given flags) := by
  cases mode with
  | add =>
    refine ⟨nodup_foldl_addFlag hf.1 given, fun f h => ?_⟩
    exact (mem_foldl_addFlag.mp h).elim (hf.2 f) (hg.2 f)
  | remove => exact KeptFlags.filter hf _
  | replace => exact hg

end Server

/-! ### Mailboxes -/

namespace StoredMailbox

/-- What holds of every mailbox of a server. -/
structure Sound (m : StoredMailbox) : Prop where
  /-- Identifiers ascend in the order of the messages. -/
  ascending : m.messages.Pairwise fun a b => a.uid < b.uid
  /-- Every identifier was given before. -/
  given : ∀ msg ∈ m.messages, 1 ≤ msg.uid ∧ msg.uid < m.uidNext
  /-- Flags are kept as they should be. -/
  flags : ∀ msg ∈ m.messages, KeptFlags msg.flags
  /-- There is a next identifier. -/
  next : 1 ≤ m.uidNext

theorem sound_empty : Sound empty where
  ascending := List.Pairwise.nil
  given := by simp [empty]
  flags := by simp [empty]
  next := Nat.le_refl 1

variable {m : StoredMailbox}

theorem Sound.push (h : m.Sound) {flags : List Flag} (hf : KeptFlags flags) (content : List UInt8) :
    (m.push flags content).Sound where
  ascending := by
    refine List.pairwise_append.mpr ⟨h.ascending, List.pairwise_singleton _ _, fun a ha b hb => ?_⟩
    rw [List.mem_singleton.mp hb]
    exact (h.given a ha).2
  given := by
    intro msg hmsg
    rcases List.mem_append.mp hmsg with hmsg | hmsg
    · exact ⟨(h.given msg hmsg).1, Nat.lt_succ_of_lt (h.given msg hmsg).2⟩
    · rw [List.mem_singleton.mp hmsg]
      exact ⟨h.next, Nat.lt_succ_self _⟩
  flags := by
    intro msg hmsg
    rcases List.mem_append.mp hmsg with hmsg | hmsg
    · exact h.flags msg hmsg
    · rw [List.mem_singleton.mp hmsg]
      exact hf
  next := Nat.le_succ_of_le h.next

theorem Sound.keep (h : m.Sound) (p : StoredMessage → Bool) : (m.keep p).Sound where
  ascending := h.ascending.sublist List.filter_sublist
  given := fun msg hmsg => h.given msg (List.mem_of_mem_filter hmsg)
  flags := fun msg hmsg => h.flags msg (List.mem_of_mem_filter hmsg)
  next := h.next

theorem Sound.change (h : m.Sound) {f : StoredMessage → StoredMessage}
    (huid : ∀ msg, (f msg).uid = msg.uid)
    (hflags : ∀ msg, KeptFlags msg.flags → KeptFlags (f msg).flags) : (m.change f).Sound where
  ascending := by
    refine List.pairwise_map.mpr (h.ascending.imp fun hlt => ?_)
    rwa [huid, huid]
  given := by
    intro msg hmsg
    obtain ⟨old, hold, rfl⟩ := List.mem_map.mp hmsg
    rw [huid]
    exact h.given old hold
  flags := by
    intro msg hmsg
    obtain ⟨old, hold, rfl⟩ := List.mem_map.mp hmsg
    exact hflags old (h.flags old hold)
  next := h.next

theorem Sound.receive (h : m.Sound) {messages : List StoredMessage}
    (hf : ∀ msg ∈ messages, KeptFlags msg.flags) : (m.receive messages).Sound := by
  induction messages generalizing m with
  | nil => exact h
  | cons msg rest ih =>
    exact ih (h.push (Server.KeptFlags.filter (hf msg List.mem_cons_self) _) _)
      fun other hother => hf other (List.mem_cons_of_mem _ hother)

theorem Sound.nodup_uids (h : m.Sound) : (m.messages.map StoredMessage.uid).Nodup :=
  List.pairwise_map.mpr (h.ascending.imp Nat.ne_of_lt)

/-- An identifier names one message. -/
theorem Sound.eq_of_uid_eq (h : m.Sound) {a b : StoredMessage} (ha : a ∈ m.messages)
    (hb : b ∈ m.messages) (huid : a.uid = b.uid) : a = b :=
  List.inj_on_of_nodup_map h.nodup_uids ha hb huid

/-- A message stands between others that have other identifiers. -/
theorem Sound.exists_split (h : m.Sound) {msg : StoredMessage} (hmsg : msg ∈ m.messages) :
    ∃ before after, m.messages = before ++ msg :: after ∧
      (∀ other ∈ before, other.uid ≠ msg.uid) ∧ ∀ other ∈ after, other.uid ≠ msg.uid := by
  obtain ⟨before, after, heq⟩ := List.append_of_mem hmsg
  have hascending := h.ascending
  rw [heq] at hascending
  obtain ⟨-, htail, hbefore⟩ := List.pairwise_append.mp hascending
  obtain ⟨hafter, -⟩ := List.pairwise_cons.mp htail
  exact ⟨before, after, heq, fun other hother =>
    Nat.ne_of_lt (hbefore other hother msg List.mem_cons_self), fun other hother =>
    Ne.symm (Nat.ne_of_lt (hafter other hother))⟩

end StoredMailbox

/-! ### Servers -/

namespace Server

/-- What holds of every server. -/
structure Sound (s : Server) : Prop where
  /-- The names of the mailboxes ascend. -/
  ascending : s.mailboxes.Ascending
  /-- Every mailbox is sound. -/
  boxes : ∀ name m, s.mailboxes.get? name = some m → m.Sound

variable {s : Server}

theorem sound_new (password : String) : (new password).Sound where
  ascending := List.pairwise_singleton _ _
  boxes := by
    intro name m h
    simp only [new, Assoc.get?] at h
    split at h
    · exact Option.some.inj h ▸ StoredMailbox.sound_empty
    · cases h

theorem Sound.box (h : s.Sound) (name : String) : (s.box name).Sound := by
  unfold Server.box
  cases hget : s.mailboxes.get? name with
  | none => exact StoredMailbox.sound_empty
  | some m => exact h.boxes name m hget

theorem Sound.of_mailbox (h : s.Sound) {name : String} {m : StoredMailbox}
    (hm : s.mailbox name = .ok m) : m.Sound := h.boxes name m (mailbox_eq_ok_iff.mp hm).2

theorem Sound.put (h : s.Sound) (name : String) {m : StoredMailbox} (hm : m.Sound) :
    (s.put name m).Sound where
  ascending := h.ascending.insert name m
  boxes := by
    intro other n hn
    rw [get?_put] at hn
    split at hn
    · exact Option.some.inj hn ▸ hm
    · exact h.boxes other n hn

theorem Sound.erase (h : s.Sound) (name : String) :
    ({ s with mailboxes := s.mailboxes.erase name }).Sound where
  ascending := h.ascending.erase name
  boxes := by
    intro other m hm
    rw [Assoc.get?_erase] at hm
    split at hm
    · cases hm
    · exact h.boxes other m hm

theorem Sound.copied (h : s.Sound) (source target : String) (uids : List Uid) :
    (s.copied source target uids).Sound :=
  h.put target ((h.box target).receive fun msg hmsg =>
    (h.box source).flags msg (List.mem_of_mem_filter hmsg))

theorem Sound.moved (h : s.Sound) (source target : String) (uids : List Uid) :
    (s.moved source target uids).Sound := by
  have hrest : (s.put source ((s.box source).without uids)).Sound :=
    h.put source ((h.box source).keep _)
  exact hrest.put target ((hrest.box target).receive fun msg hmsg =>
    (h.box source).flags msg (List.mem_of_mem_filter hmsg))

/-! ### Requests -/

/-- Marking messages keeps a mailbox sound. -/
theorem sound_store {m : StoredMailbox} (h : m.Sound) (uids : List Uid) (mode : StoreMode)
    (flags : List Flag) :
    (m.store uids mode flags).Sound := by
  -- Flags that are combined with kept ones are kept, and other messages are left alone.
  refine h.change (fun msg => StoredMessage.uid_revised) (fun msg hmsg => ?_)
  by_cases hin : msg.uid ∈ uids
  · rw [StoredMessage.revised_of_mem hin]
    exact kept_combine mode (kept_keptFlags flags) hmsg
  · rwa [StoredMessage.revised_of_not_mem hin]

/-- No request makes a server unsound. -/
theorem Sound.effect (h : s.Sound) {r : Request} {t : Server} (ht : Effect s r t) : t.Sound := by
  cases ht with
  | nothing => exact h
  | made => exact h.put _ StoredMailbox.sound_empty
  | removed name => exact h.erase name
  | stored hm uids mode flags => exact h.put _ (sound_store (h.of_mailbox hm) uids mode flags)
  | copied source uids target => exact h.copied source target uids
  | moved source uids target => exact h.moved source target uids
  | expunged hm => exact h.put _ ((h.of_mailbox hm).keep _)
  | expungedUids hm uids => exact h.put _ ((h.of_mailbox hm).keep _)
  | appended hm flags content =>
    exact h.put _ ((h.of_mailbox hm).push (kept_keptFlags flags) content)

theorem Sound.answer (h : s.Sound) (r : Request) (c : Connection) :
    (Server.answer r (c, s)).2.2.Sound := h.effect (effect_answer r c s)

end Server

end Postroom
