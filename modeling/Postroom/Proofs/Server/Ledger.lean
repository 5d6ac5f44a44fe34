import Postroom.Proofs.Server.Refusal

/-! # The ledger of identifiers

Every server that can arise is sound, so at any one time the identifiers of a mailbox
ascend.  That an identifier is never given twice is a statement about all times, and the
mailbox does not remember what it held.  The ledger does (`Exchange.ledger`): it has
every identifier that was issued in a mailbox since the mailbox was made, in the order
in which they were issued.

Whatever happens, a mailbox keeps some of its messages in their order, and has new ones
behind them that are numbered from its counter on (`StoredMailbox.Grown`).  From this
one step the ledger ascends (`Exchange.recorded_ledger`).
-/

namespace Postroom

/-! ### Mailboxes that grow -/

namespace StoredMailbox

variable {m m' m'' : StoredMailbox} {k : Nat}

/-- The identifiers of the messages, in order. -/
def uids (m : StoredMailbox) : List Uid := m.messages.map StoredMessage.uid

/-- The identifiers of the last messages. -/
def lastUids (k : Nat) (m : StoredMailbox) : List Uid := m.uids.drop (m.uids.length - k)

/-- One mailbox has some messages of another, and a number of new ones behind them. -/
structure Grown (k : Nat) (m m' : StoredMailbox) : Prop where
  /-- The new messages are numbered from the counter on. -/
  uids : ∃ kept, kept.Sublist m.uids ∧ m'.uids = kept ++ List.range' m.uidNext k
  /-- The counter goes on behind them. -/
  next : m'.uidNext = m.uidNext + k

theorem Grown.of_sublist (hnext : m'.uidNext = m.uidNext) (h : m'.uids.Sublist m.uids) :
    Grown 0 m m' := ⟨⟨m'.uids, h, (List.append_nil _).symm⟩, hnext⟩

theorem Grown.refl (m : StoredMailbox) : Grown 0 m m := .of_sublist rfl (List.Sublist.refl _)

theorem Grown.trans (h : Grown 0 m m') (h' : Grown k m' m'') : Grown k m m'' := by
  obtain ⟨⟨kept, hkept, huids⟩, hnext⟩ := h
  obtain ⟨⟨kept', hkept', huids'⟩, hnext'⟩ := h'
  rw [huids, List.range'_zero, List.append_nil] at hkept'
  rw [hnext] at huids' hnext'
  exact ⟨⟨kept', hkept'.trans hkept, huids'⟩, hnext'⟩

theorem grown_keep (m : StoredMailbox) (p : StoredMessage → Bool) : Grown 0 m (m.keep p) :=
  .of_sublist rfl (List.filter_sublist.map _)

theorem grown_store (m : StoredMailbox) (uids : List Uid) (mode : StoreMode) (flags : List Flag) :
    Grown 0 m (m.store uids mode flags) := by
  have hsame : (m.store uids mode flags).uids = m.uids := by
    simp [StoredMailbox.uids, store]
  exact .of_sublist rfl (hsame ▸ List.Sublist.refl _)

theorem grown_push (m : StoredMailbox) (flags : List Flag) (content : List UInt8) :
    Grown 1 m (m.push flags content) :=
  ⟨⟨m.uids, List.Sublist.refl _, by simp [uids, push]⟩, rfl⟩

theorem uids_copies (n : Uid) (l : List StoredMessage) :
    (copies n l).map StoredMessage.uid = List.range' n l.length := by
  induction l generalizing n with
  | nil => rfl
  | cons msg rest ih => rw [copies, List.map_cons, ih, List.length_cons, List.range'_succ]

theorem grown_receive (m : StoredMailbox) (l : List StoredMessage) :
    Grown l.length m (m.receive l) := by
  refine ⟨⟨m.uids, List.Sublist.refl _, ?_⟩, uidNext_receive m l⟩
  rw [uids, messages_receive, List.map_append, uids_copies]
  rfl

/-- A record of identifiers that goes with a mailbox: it ascends, what it has is used up, and the
messages have theirs from it. -/
structure Recorded (given : List Uid) (m : StoredMailbox) : Prop where
  ascending : given.Pairwise (· < ·)
  used : ∀ uid ∈ given, uid < m.uidNext
  present : m.uids.Sublist given

theorem recorded_empty : Recorded [] empty := ⟨List.Pairwise.nil, by simp, List.Sublist.refl _⟩

/-- The new identifiers go to the end of the record. -/
theorem Recorded.grown {given : List Uid} (h : Recorded given m) (hgrown : Grown k m m') :
    Recorded (given ++ m'.lastUids k) m' := by
  obtain ⟨⟨kept, hkept, huids⟩, hnext⟩ := hgrown
  have hlast : m'.lastUids k = List.range' m.uidNext k := by
    rw [lastUids, huids, List.length_append, List.length_range', Nat.add_sub_cancel,
      List.drop_left]
  rw [hlast]
  constructor
  · refine List.pairwise_append.mpr
      ⟨h.ascending, List.pairwise_lt_range', fun old hold new hnew => ?_⟩
    exact Nat.lt_of_lt_of_le (h.used old hold) (List.mem_range'_1.mp hnew).1
  · intro uid huid
    rw [hnext]
    rcases List.mem_append.mp huid with hold | hnew
    · exact Nat.lt_add_right k (h.used uid hold)
    · exact (List.mem_range'_1.mp hnew).2
  · rw [huids]
    exact (hkept.trans h.present).append (List.Sublist.refl _)

end StoredMailbox

/-! ### Requests -/

/-- How many messages a request adds to a mailbox if it is not refused. -/
def Request.additions (s : Server) (c : Connection) (name : String) : Request → Nat
  | .append mailbox _ _ => if mailbox = name then 1 else 0
  | .copy uids target | .move uids target =>
    if target = name then ((s.box (c.selected.getD "")).named uids).length else 0
  | _ => 0

/-- Whether a request may add messages to a mailbox. -/
def Request.adds : Request → Bool
  | append .. | copy .. | move .. => true
  | _ => false

theorem Request.additions_of_not_adds {r : Request} (h : r.adds = false) (s : Server)
    (c : Connection)
    (name : String) : r.additions s c name = 0 := by
  cases r <;> first | rfl | cases h

namespace Server

open StoredMailbox (Grown)

variable {s t : Server} {c : Connection} {name target : String} {k : Nat} {r : Request}

/-- If one mailbox grows, the others stay as they are. -/
theorem grown_put {m : StoredMailbox} (h : Grown k (s.box target) m) (name : String) :
    Grown (if target = name then k else 0) (s.box name) ((s.put target m).box name) := by
  rw [box_put]
  by_cases heq : target = name
  · subst heq
    rwa [if_pos rfl, if_pos rfl]
  · rw [if_neg heq, if_neg (Ne.symm heq)]
    exact .refl _

theorem grown_copied (s : Server) (source target : String) (uids : List Uid) (name : String) :
    Grown (if target = name then ((s.box source).named uids).length else 0) (s.box name)
      ((s.copied source target uids).box name) := grown_put (StoredMailbox.grown_receive _ _) name

theorem grown_moved (s : Server) (source target : String) (uids : List Uid) (name : String) :
    Grown (if target = name then ((s.box source).named uids).length else 0) (s.box name)
      ((s.moved source target uids).box name) := by
  -- First the messages are taken out of their mailbox, then the target receives them.
  have htaken := grown_put (s := s) (StoredMailbox.grown_keep (s.box source) fun msg =>
    !uids.contains msg.uid) name
  rw [ite_self] at htaken
  exact htaken.trans (grown_put (StoredMailbox.grown_receive _ _) name)

/-- Requests that add no messages take some away at most. -/
theorem Effect.grown (h : Effect s r t) (hr : r.adds = false) (hhas : t.mailboxes.has name = true) :
    Grown 0 (s.box name) (t.box name) := by
  have hput : ∀ {target m}, Grown 0 (s.box target) m →
      Grown 0 (s.box name) ((s.put target m).box name) := by
    intro target m hm
    have hgrown := grown_put hm name
    rwa [ite_self] at hgrown
  cases h with
  | nothing => exact .refl _
  | made hnew => exact hput (box_eq_empty hnew ▸ .refl _)
  | removed gone =>
    by_cases heq : name = gone
    · rw [Assoc.has, Assoc.get?_erase, if_pos heq] at hhas
      cases hhas
    · rw [box, box, Assoc.get?_erase, if_neg heq]
      exact .refl _
  | stored hm uids mode flags =>
    exact hput (box_eq_of_mailbox hm ▸ StoredMailbox.grown_store _ uids mode flags)
  | expunged hm | expungedUids hm uids =>
    exact hput (box_eq_of_mailbox hm ▸ StoredMailbox.grown_keep _ _)
  | copied | moved | appended => cases hr

theorem isOk_error {α : Type} (fault : Fault) :
    ¬ (Except.error fault : Except Fault α).isOk = true :=
  Bool.false_ne_true

/-- A request that is not refused adds as many messages to a mailbox as it says. -/
theorem grown_answer (hok : (answer r (c, s)).1.isOk = true)
    (hhas : (answer r (c, s)).2.2.mailboxes.has name = true) :
    Grown (r.additions s c name) (s.box name) ((answer r (c, s)).2.2.box name) := by
  cases hr : r.adds with
  | false =>
    rw [Request.additions_of_not_adds hr]
    exact (effect_answer r c s).grown hr hhas
  | true =>
    have hsource : ∀ {source}, s.writable c = .ok source → c.selected.getD "" = source :=
      fun hw => by rw [(writable_eq_ok_iff.mp hw).2.1, Option.getD_some]
    cases r with
    | copy uids target =>
      rw [answer_copy] at hok ⊢
      rcases copyInto_cases s c uids target false with ⟨fault, h⟩ | ⟨source, hw, h⟩ <;>
        rw [h] at hok ⊢
      · exact absurd hok (isOk_error fault)
      · simp only [Request.additions, hsource hw]
        exact grown_copied s source target uids name
    | move uids target =>
      rcases answer_move uids target c s with ⟨fault, h⟩ | h <;> rw [h] at hok ⊢
      · exact absurd hok (isOk_error fault)
      · rcases copyInto_cases s c uids target true with ⟨fault, h⟩ | ⟨source, hw, h⟩ <;>
          rw [h] at hok ⊢
        · exact absurd hok (isOk_error fault)
        · simp only [Request.additions, hsource hw]
          exact grown_moved s source target uids name
    | append mailbox flags content =>
      rcases answer_append mailbox flags content c s with ⟨fault, h⟩ | ⟨m, hm, h⟩ <;>
        rw [h] at hok ⊢
      · exact absurd hok (isOk_error fault)
      · exact grown_put (box_eq_of_mailbox hm ▸ StoredMailbox.grown_push _ _ content) name
    | _ => cases hr

end Server

/-! ### Flags and answers -/

/-- Keywords are kept in lower case. -/
theorem KeptFlags.lower {flags : List Flag} (h : KeptFlags flags) {word : String}
    (hmem : .keyword word ∈ flags) : Text.lower word = word :=
  Flag.keyword.inj (Server.KeptFlags.keptFlag_eq h hmem)

namespace StoredMailbox

/-- What makes a mailbox well formed. -/
structure WellFormed (m : StoredMailbox) : Prop where
  /-- Identifiers ascend in the order of the messages. -/
  ascending : m.uids.Pairwise (· < ·)
  /-- Identifiers begin at one and are below the next to be issued. -/
  bounds : ∀ uid ∈ m.uids, 1 ≤ uid ∧ uid < m.uidNext
  /-- No message has a flag twice. -/
  distinct : ∀ msg ∈ m.messages, msg.flags.Nodup
  /-- Keywords are in lower case. -/
  lowered : ∀ msg ∈ m.messages, ∀ word, .keyword word ∈ msg.flags → Text.lower word = word

theorem Sound.wellFormed {m : StoredMailbox} (h : m.Sound) : m.WellFormed where
  ascending := List.pairwise_map.mpr h.ascending
  bounds := by
    intro uid huid
    obtain ⟨msg, hmsg, rfl⟩ := List.mem_map.mp huid
    exact h.given msg hmsg
  distinct := fun msg hmsg => (h.flags msg hmsg).1
  lowered := fun msg hmsg _ => (h.flags msg hmsg).lower

end StoredMailbox

namespace Server

variable {s : Server} {c : Connection}

/-- The messages of the open mailbox are those of a mailbox of the server. -/
theorem openMessages_ascend (hs : s.Sound) {messages : List StoredMessage}
    (h : s.openMessages c = .ok messages) :
    (messages.map StoredMessage.uid).Pairwise (· < ·) := by
  obtain ⟨name, -, h⟩ := bind_eq_ok_iff.mp h
  obtain ⟨m, hm, heq⟩ := bind_eq_ok_iff.mp h
  obtain rfl : m.messages = messages := Except.ok.inj heq
  exact (hs.of_mailbox hm).wellFormed.ascending

/-- A search is answered in ascending order. -/
theorem search_ascends (hs : s.Sound) {criteria : Criteria} {found : List Uid}
    (h : (answer (.search criteria) (c, s)).1 = .ok found) : found.Pairwise (· < ·) := by
  obtain ⟨messages, hmessages, heq⟩ := bind_eq_ok_iff.mp h
  obtain rfl := Except.ok.inj heq
  exact (openMessages_ascend hs hmessages).sublist (List.filter_sublist.map _)

/-- Everything that is fetched has its identifier, and they ascend. -/
theorem fetch_ascends (hs : s.Sound) {uids : List Uid} {items : FetchItems} {told : List Fetched}
    (h : (answer (.fetch uids items) (c, s)).1 = .ok told) :
    ∃ found : List Uid, told.map Fetched.uid = found.map some ∧ found.Pairwise (· < ·) := by
  obtain ⟨messages, hmessages, heq⟩ := bind_eq_ok_iff.mp h
  obtain rfl := Except.ok.inj heq
  set picked := (numbered messages).filter fun e => uids.contains e.2.uid
  refine ⟨(picked.map Prod.snd).map StoredMessage.uid, by simp [fetched], ?_⟩
  have hsnd : (numbered messages).map Prod.snd = messages := List.map_snd_zip (by simp)
  have hpicked : (picked.map Prod.snd).Sublist messages :=
    hsnd ▸ List.filter_sublist.map Prod.snd
  exact (openMessages_ascend hs hmessages).sublist (hpicked.map _)

end Server

/-! ### Runs -/

namespace Exchange

open StoredMailbox (Grown Recorded)

/-- How many messages an event adds to a mailbox. -/
def additions (x : Exchange) (name : String) : Event → Nat
  | .deliver mailbox _ _ => if mailbox = name then 1 else 0
  | .request place r =>
    match x.connections[place]? with
    | some c => if (Server.answer r (c, x.server)).1.isOk then r.additions x.server c name else 0
    | none => 0
  | _ => 0

/-- The identifiers that an event issues in a mailbox. -/
def issued (x : Exchange) (name : String) (e : Event) : List Uid :=
  ((x.step e).server.box name).lastUids (x.additions name e)

/-- The identifiers that were issued in a mailbox since it was made, in order: those that are given,
and those of a row of events. -/
def ledger (name : String) : Exchange → List Uid → List Event → List Uid
  | _, given, [] => given
  | x, given, e :: rest =>
    let kept := (x.step e).server.mailboxes.has name
    ledger name (x.step e) (if kept then given ++ x.issued name e else []) rest

variable {x : Exchange} {name : String}

theorem grown_step {e : Event} (hhas : (x.step e).server.mailboxes.has name = true) :
    Grown (x.additions name e) (x.server.box name) ((x.step e).server.box name) := by
  cases e with
  | deliver mailbox content flags =>
    exact Server.grown_put (StoredMailbox.grown_push _ _ content) name
  | addMailbox made =>
    have hgrown := Server.grown_put (s := x.server) (Grown.refl (x.server.box made)) name
    rwa [ite_self] at hgrown
  | connect settings =>
    have hsame : (x.step (.connect settings)).server.box name = x.server.box name := by
      have hmailboxes := mailboxes_connect settings x.server
      simp only [step]
      split <;> next hs => rw [hs] at hmailboxes; rw [Server.box, Server.box, hmailboxes]
    rw [hsame]
    exact .refl _
  | request place r =>
    rcases hc : x.connections[place]? with _ | c
    · simp only [step, additions, hc]
      exact .refl _
    · obtain ⟨-, hserver⟩ := step_request hc r
      rw [hserver] at hhas ⊢
      simp only [additions, hc]
      rcases hanswer : (Server.answer r (c, x.server)).1 with fault | reply
      · rw [Server.answer_eq_error hanswer]
        exact .refl _
      · exact Server.grown_answer (by rw [hanswer]; rfl) hhas
  | _ => exact .refl _

/-- The record goes with the mailbox as long as there is one, and then starts anew. -/
theorem recorded_ledger {given : List Uid} (h : Recorded given (x.server.box name))
    (events : List Event) :
    Recorded (ledger name x given events) ((x.run events).server.box name) := by
  induction events generalizing x given with
  | nil => exact h
  | cons e rest ih =>
    refine ih ?_
    cases hhas : (x.step e).server.mailboxes.has name with
    | true =>
      rw [if_pos rfl]
      exact h.grown (grown_step hhas)
    | false =>
      rw [if_neg Bool.false_ne_true, Server.box_eq_empty hhas]
      exact StoredMailbox.recorded_empty

theorem box_new (password name : String) : (new password).server.box name = .empty := by
  by_cases hname : "INBOX" = name
  · simp [new, Server.new, Server.box, Assoc.get?, hname]
  · simp [new, Server.new, Server.box, Assoc.get?, hname]

/-- **Mailboxes stay well formed, and no identifier is issued twice.**  Whatever happens to a new
server and over its connections, every mailbox is well formed.  The identifiers that were issued in
a mailbox since it was made ascend in the order in which they were issued, and every message has one
of them; so searching and fetching are answered in ascending order. -/
theorem mailboxes_well_formed (password : String) (events : List Event) :
    let s := ((new password).run events).server
    (∀ name m, s.mailboxes.get? name = some m → m.WellFormed) ∧
    (∀ name, (ledger name (new password) [] events).Pairwise (· < ·) ∧
      (s.box name).uids.Sublist (ledger name (new password) [] events)) ∧
    (∀ c criteria found, (Server.answer (.search criteria) (c, s)).1 = .ok found →
      found.Pairwise (· < ·)) ∧
    ∀ c uids items told, (Server.answer (.fetch uids items) (c, s)).1 = .ok told →
      ∃ found : List Uid, told.map Fetched.uid = found.map some ∧ found.Pairwise (· < ·) := by
  intro s
  have hsound : s.Sound := sound_run (Server.sound_new password) events
  refine ⟨fun name m hm => (hsound.boxes name m hm).wellFormed, fun name => ?_,
    fun c criteria found h => Server.search_ascends hsound h,
    fun c uids items told h => Server.fetch_ascends hsound h⟩
  have hnew : Recorded [] ((new password).server.box name) := by
    rw [box_new]
    exact StoredMailbox.recorded_empty
  have hrecorded := recorded_ledger hnew events
  exact ⟨hrecorded.ascending, hrecorded.present⟩

/-- Three messages come in, the first is moved to where it is, and the mailbox is removed and made
again while mail comes in. -/
theorem ledger_of_two_mailboxes :
    let before : List Event := [.connect ⟨"host", 143, "me", "pw", false, none, none, none⟩,
      .deliver "INBOX" [65] [.keyword "Later", .keyword "LATER"], .deliver "INBOX" [66] [],
      .request 0 (.select "INBOX"), .request 0 (.move [1] "INBOX"), .deliver "INBOX" [67] []]
    let after : List Event := [.request 0 (.delete "INBOX"), .deliver "INBOX" [68] []]
    let s := ((new "pw").run before).server
    ledger "INBOX" (new "pw") [] before = [1, 2, 3, 4] ∧ (s.box "INBOX").uids = [2, 3, 4] ∧
      ledger "INBOX" (new "pw") [] (before ++ after) = [1] ∧
      ((s.box "INBOX").WellFormed ∧ [1, 2, 3, 4].Pairwise (· < ·)) ∧ [2, 4].Pairwise (· < ·) := by
  intro before after s
  have hgiven : ledger "INBOX" (new "pw") [] before = [1, 2, 3, 4] := by decide +kernel
  obtain ⟨hboxes, hledger, hsearch, -⟩ := mailboxes_well_formed "pw" before
  refine ⟨hgiven, by decide +kernel, by decide +kernel,
    ⟨hboxes "INBOX" _ (by decide +kernel), hgiven ▸ (hledger "INBOX").1⟩, ?_⟩
  exact hsearch ⟨0, false, some "INBOX", true⟩ ⟨[], [.keyword "later"]⟩ [2, 4] (by decide +kernel)

end Exchange

end Postroom
