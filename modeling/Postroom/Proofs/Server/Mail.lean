import Postroom.Proofs.Server.Moving

/-! # Mail that is not to be removed

For a content, the messages that have it and are not marked for removal are counted
over all mailboxes of a server (`Server.live`).  A request can lower that number only
if it marks messages or removes a mailbox; no other request does
(`keepsMail_effect`).  Marking is made up for by a copy: copying messages adds those that are marked
next, and marking takes away no more (`KeepsMail.copied_marked`).
-/

namespace Postroom

/-! ### Messages and mailboxes -/

/-- Whether a message has a content and is not marked for removal. -/
def StoredMessage.isLive (content : List UInt8) (msg : StoredMessage) : Bool :=
  decide (msg.content = content) && !msg.flags.contains .deleted

theorem StoredMessage.unmarked_of_isLive {content : List UInt8} {msg : StoredMessage}
    (h : msg.isLive content = true) : msg.flags.contains .deleted = false :=
  (Bool.not_eq_true' _).mp (Bool.and_eq_true_iff.mp h).2

/-- How many messages of a mailbox have a content and are not marked for removal. -/
def StoredMailbox.live (content : List UInt8) (m : StoredMailbox) : Nat :=
  m.messages.countP (StoredMessage.isLive content)

namespace StoredMailbox

variable {m : StoredMailbox} {content : List UInt8} {uids : List Uid}

@[simp] theorem live_empty : empty.live content = 0 := rfl

theorem isLive_copy (n : Uid) (msg : StoredMessage) :
    StoredMessage.isLive content ⟨n, msg.flags.filter (· ≠ .recent), msg.content⟩ =
      msg.isLive content := by
  have hmarked : (msg.flags.filter (· ≠ .recent)).contains Flag.deleted =
      msg.flags.contains .deleted := by
    rw [Bool.eq_iff_iff]
    simp
  simp only [StoredMessage.isLive, hmarked]

/-- Copies count as the messages they are of. -/
theorem live_receive (m : StoredMailbox) (l : List StoredMessage) :
    (m.receive l).live content = m.live content + l.countP (StoredMessage.isLive content) := by
  induction l generalizing m with
  | nil => rfl
  | cons msg rest ih =>
    rw [receive_cons, ih, live, push, List.countP_append, List.countP_singleton, isLive_copy,
      List.countP_cons, live]
    omega

theorem live_le_push (flags : List Flag) (bytes : List UInt8) :
    m.live content ≤ (m.push flags bytes).live content := by
  rw [live, live, push, List.countP_append]
  exact Nat.le_add_right _ _

/-- Only messages that do not count are removed. -/
theorem live_keep {p : StoredMessage → Bool} (h : ∀ msg, msg.isLive content = true → p msg = true) :
    (m.keep p).live content = m.live content := by
  rw [live, live, messages_keep, List.countP_filter]
  refine List.countP_congr fun msg _ => ?_
  constructor
  · exact fun hboth => (Bool.and_eq_true_iff.mp hboth).1
  · exact fun hlive => Bool.and_eq_true_iff.mpr ⟨hlive, h msg hlive⟩

/-- A change by which no message is marked. -/
theorem live_le_change {f : StoredMessage → StoredMessage}
    (h : ∀ msg, msg.isLive content = true → (f msg).isLive content = true) :
    m.live content ≤ (m.change f).live content := by
  rw [live, live, messages_change, List.countP_map]
  exact List.countP_mono_left fun msg _ hlive => h msg hlive

/-- Messages count among those named or among the others. -/
theorem live_without (content : List UInt8) (m : StoredMailbox) (uids : List Uid) :
    (m.without uids).live content + (m.named uids).countP (StoredMessage.isLive content) =
      m.live content := by
  have hsplit := List.countP_eq_countP_filter_add m.messages (StoredMessage.isLive content)
    fun msg => uids.contains msg.uid
  rw [live, live, hsplit, Nat.add_comm]
  rfl

/-- Messages that are marked count no more. -/
theorem live_store_deleted (content : List UInt8) (m : StoredMailbox) (uids : List Uid) :
    (m.store uids .add [.deleted]).live content +
      (m.named uids).countP (StoredMessage.isLive content) = m.live content := by
  rw [← live_without content m uids]
  have hstore : (m.store uids .add [.deleted]).live content = (m.without uids).live content := by
    rw [← keep_store_deleted, live_keep]
    intro msg hlive
    rw [StoredMessage.unmarked_of_isLive hlive, Bool.and_false, Bool.not_false]
  rw [hstore]

end StoredMailbox

/-! ### Servers -/

namespace Server

/-- How many messages of a server have a content and are not marked for removal. -/
def live (content : List UInt8) (s : Server) : Nat := s.mailboxes.total (StoredMailbox.live content)

/-- A server stays sound, and no content has fewer messages that are not to be removed. -/
def KeepsMail (s t : Server) : Prop :=
  s.Sound → t.Sound ∧ ∀ content, s.live content ≤ t.live content

variable {s t u : Server} {c : Connection} {content : List UInt8}

theorem KeepsMail.of_mailboxes (h : t.mailboxes = s.mailboxes) : KeepsMail s t := by
  intro hs
  refine ⟨⟨h ▸ hs.ascending, h ▸ hs.boxes⟩, fun content => ?_⟩
  have hlive : s.live content = t.live content := by rw [live, live, h]
  exact Nat.le_of_eq hlive

theorem KeepsMail.refl (s : Server) : KeepsMail s s := .of_mailboxes rfl

theorem KeepsMail.trans (hst : KeepsMail s t) (htu : KeepsMail t u) : KeepsMail s u := by
  intro hs
  obtain ⟨ht, hle⟩ := hst hs
  obtain ⟨hu, hle'⟩ := htu ht
  exact ⟨hu, fun content => Nat.le_trans (hle content) (hle' content)⟩

theorem live_put (content : List UInt8) (hs : s.Sound) (name : String) (m : StoredMailbox) :
    (s.put name m).live content + (s.box name).live content = s.live content + m.live content := by
  have hold : (s.box name).live content =
      ((s.mailboxes.get? name).map (StoredMailbox.live content)).getD 0 := by
    unfold box
    cases s.mailboxes.get? name <;> rfl
  rw [hold]
  exact Assoc.total_insert hs.ascending _ name m

/-- Putting a mailbox keeps the mail of the server if the mailbox has no less than the old one. -/
theorem KeepsMail.put {name : String} {m : StoredMailbox} (hm : s.Sound → m.Sound)
    (hle : ∀ content, (s.box name).live content ≤ m.live content) : KeepsMail s (s.put name m) := by
  intro hs
  refine ⟨hs.put name (hm hs), fun content => ?_⟩
  have hput := live_put content hs name m
  have := hle content
  omega

theorem live_copied (hs : s.Sound) (source target : String) (uids : List Uid) :
    (s.copied source target uids).live content =
      s.live content + ((s.box source).named uids).countP (StoredMessage.isLive content) := by
  have hput := live_put content hs target ((s.box target).receive ((s.box source).named uids))
  rw [StoredMailbox.live_receive] at hput
  unfold copied
  omega

/-- Copying adds nothing to the messages named in the mailbox that they are in. -/
theorem named_copied {source target : String} {uids : List Uid}
    (hun : source ≠ target ∨ s.Unclaimed source uids) :
    ((s.copied source target uids).box source).named uids = (s.box source).named uids := by
  unfold copied
  rw [box_put]
  split
  · next heq =>
    subst heq
    have hcopies : (StoredMailbox.copies (s.box source).uidNext ((s.box source).named uids)).filter
        (fun msg => uids.contains msg.uid) = [] := by
      refine List.filter_eq_nil_iff.mpr fun msg hmsg hin => ?_
      rcases hun.resolve_left fun h => h rfl with hnone | hlt
      · rw [hnone] at hmsg
        cases hmsg
      · have hle := StoredMailbox.le_uid_of_mem_copies hmsg
        exact Nat.not_lt.mpr hle (hlt _ (List.contains_iff_mem.mp hin))
    rw [StoredMailbox.named, StoredMailbox.messages_receive, List.filter_append, hcopies,
      List.append_nil]
    rfl
  · rfl

theorem live_moved (hs : s.Sound) (source target : String) (uids : List Uid) :
    (s.moved source target uids).live content = s.live content := by
  have hleave := live_put content hs source ((s.box source).without uids)
  have hparts := StoredMailbox.live_without content (s.box source) uids
  have hrest : (s.put source ((s.box source).without uids)).Sound :=
    hs.put source ((hs.box source).keep _)
  have harrive := live_put content hrest target
    (((s.put source ((s.box source).without uids)).box target).receive
      ((s.box source).named uids))
  rw [StoredMailbox.live_receive] at harrive
  unfold moved
  simp only
  omega

theorem KeepsMail.copied (s : Server) (source target : String) (uids : List Uid) :
    KeepsMail s (s.copied source target uids) := by
  intro hs
  refine ⟨hs.copied source target uids, fun content => ?_⟩
  rw [live_copied hs]
  exact Nat.le_add_right _ _

/-- Messages that were copied can be marked: the copies make up for them. -/
theorem KeepsMail.copied_marked {source target : String} {uids : List Uid}
    (hun : s.Sound → source ≠ target ∨ s.Unclaimed source uids)
    (ht : t.mailboxes = (s.copied source target uids).mailboxes) :
    KeepsMail s (t.put source ((t.box source).store uids .add [.deleted])) := by
  intro hs
  obtain ⟨htsound, -⟩ := KeepsMail.of_mailboxes ht (hs.copied source target uids)
  refine ⟨htsound.put source (sound_store (htsound.box source) uids .add [.deleted]),
    fun content => ?_⟩
  have hbox : t.box source = (s.copied source target uids).box source := by rw [box, box, ht]
  have hlive : t.live content = (s.copied source target uids).live content := by rw [live, live, ht]
  have hput := live_put content htsound source ((t.box source).store uids .add [.deleted])
  have hmarked := StoredMailbox.live_store_deleted content (t.box source) uids
  have hnamed : (t.box source).named uids = (s.box source).named uids :=
    hbox ▸ named_copied (hun hs)
  -- The copies and the marks are of the same messages, so they cancel out.
  rw [hlive, live_copied hs] at hput
  rw [hnamed] at hmarked
  omega

end Server

/-! ### Requests -/

/-- A request that neither marks messages for removal nor removes a mailbox. -/
def Request.Gentle : Request → Prop
  | .delete _ => False
  | .store _ mode flags => mode = .remove ∨ .deleted ∉ flags
  | _ => True

namespace Server

variable {s : Server} {c : Connection}

theorem deleted_mem_keptFlags {flags : List Flag} :
    Flag.deleted ∈ keptFlags flags ↔ Flag.deleted ∈ flags := by
  rw [mem_keptFlags]
  constructor
  · rintro ⟨g, hg, hkept⟩
    cases g <;> first | exact hg | cases hkept
  · exact fun h => ⟨_, h, rfl⟩

/-- Changing flags marks no message if the flags do not say so. -/
theorem isLive_revised {content : List UInt8} {uids : List Uid} {mode : StoreMode}
    {flags : List Flag} (h : mode = .remove ∨ .deleted ∉ flags) {msg : StoredMessage}
    (hlive : msg.isLive content = true) : (msg.revised uids mode flags).isLive content = true := by
  obtain ⟨hcontent, hmarked⟩ := Bool.and_eq_true_iff.mp hlive
  have hunmarked : Flag.deleted ∉ msg.flags := by simpa using hmarked
  by_cases hin : msg.uid ∈ uids
  · rw [StoredMessage.revised_of_mem hin]
    refine Bool.and_eq_true_iff.mpr ⟨hcontent, ?_⟩
    have hnot : Flag.deleted ∉ combine mode (keptFlags flags) msg.flags := by
      cases mode with
      | add =>
        have hflags := h.resolve_left (by simp)
        exact fun hmem => (mem_foldl_addFlag.mp hmem).elim hunmarked
          fun hkept => hflags (deleted_mem_keptFlags.mp hkept)
      | remove => exact fun hmem => hunmarked (List.mem_of_mem_filter hmem)
      | replace =>
        have hflags := h.resolve_left (by simp)
        exact fun hkept => hflags (deleted_mem_keptFlags.mp hkept)
    simpa using hnot
  · rwa [StoredMessage.revised_of_not_mem hin]

/-- Whatever is asked of a server, mail is kept unless it is asked to mark or remove some. -/
theorem keepsMail_effect {r : Request} (h : r.Gentle) {t : Server} (ht : Effect s r t) :
    KeepsMail s t := by
  cases ht with
  | nothing => exact .refl s
  | made hnew =>
    exact .put (fun _ => StoredMailbox.sound_empty) fun content => box_eq_empty hnew ▸ Nat.le_refl _
  | removed name => exact h.elim
  | stored hm uids mode flags =>
    refine .put (fun hs => sound_store (hs.of_mailbox hm) uids mode flags) fun content => ?_
    rw [box_eq_of_mailbox hm]
    exact StoredMailbox.live_le_change fun msg => isLive_revised h
  | copied source uids target => exact .copied s source target uids
  | moved source uids target =>
    exact fun hs => ⟨hs.moved source target uids,
      fun content => Nat.le_of_eq (live_moved hs source target uids).symm⟩
  | expunged hm =>
    refine .put (fun hs => (hs.of_mailbox hm).keep _) fun content => ?_
    have hkeep : ∀ msg : StoredMessage, msg.isLive content = true →
        (!msg.flags.contains .deleted) = true := by
      intro msg hlive
      rw [StoredMessage.unmarked_of_isLive hlive, Bool.not_false]
    rw [box_eq_of_mailbox hm]
    exact Nat.le_of_eq (StoredMailbox.live_keep hkeep).symm
  | expungedUids hm uids =>
    refine .put (fun hs => (hs.of_mailbox hm).keep _) fun content => ?_
    have hkeep : ∀ msg : StoredMessage, msg.isLive content = true →
        (!(uids.contains msg.uid && msg.flags.contains .deleted)) = true := by
      intro msg hlive
      rw [StoredMessage.unmarked_of_isLive hlive, Bool.and_false, Bool.not_false]
    rw [box_eq_of_mailbox hm]
    exact Nat.le_of_eq (StoredMailbox.live_keep hkeep).symm
  | appended hm flags bytes =>
    refine .put (fun hs => (hs.of_mailbox hm).push (kept_keptFlags flags) bytes) fun content => ?_
    rw [box_eq_of_mailbox hm]
    exact StoredMailbox.live_le_push _ _

theorem keepsMail_answer {r : Request} (h : r.Gentle) (c : Connection) (s : Server) :
    KeepsMail s (answer r (c, s)).2.2 := keepsMail_effect h (effect_answer r c s)

end Server

end Postroom
