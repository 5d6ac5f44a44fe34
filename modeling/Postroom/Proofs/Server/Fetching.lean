import Mathlib.Tactic.Set
import Postroom.Proofs.Server.Moving

/-! # What is sorted

The messages to be sorted are searched for and then fetched by their identifiers.
On a sound server the identifiers name just these messages, so what is fetched are
the messages that were found, in their order (`exec_searchAndFetch`).
-/

namespace Postroom

/-- A message as it is sorted, if these are its headers. -/
def StoredMessage.asFetched (headers : Header.Map) (msg : StoredMessage) : Message :=
  ⟨msg.uid, msg.flags, .empty, headers⟩

/-- The messages of a mailbox that carry none of some flags. -/
def StoredMailbox.candidates (m : StoredMailbox) (excluded : List Flag) : List StoredMessage :=
  m.messages.filter fun msg => !excluded.any msg.flags.contains

/-- The connection with a mailbox open for reading. -/
def Connection.viewing (c : Connection) (name : String) : Connection :=
  { c with selected := some name, readOnly := true }

theorem mapM_ok {α β : Type} {f : α → Except Fault β} {g : α → β} {l : List α}
    (h : ∀ a ∈ l, f a = .ok (g a)) : l.mapM f = .ok (l.map g) := by
  induction l with
  | nil => rfl
  | cons a rest ih =>
    obtain ⟨ha, hrest⟩ := List.forall_mem_cons.mp h
    rw [List.mapM_cons, ha, ih hrest]
    rfl

theorem ok_of_mapM_eq_ok {α β : Type} {f : α → Except Fault β} {l : List α} {results : List β}
    (h : l.mapM f = .ok results) : ∀ a ∈ l, ∃ b, f a = .ok b := by
  induction l generalizing results with
  | nil => exact fun a ha => absurd ha List.not_mem_nil
  | cons a rest ih =>
    rw [List.mapM_cons] at h
    obtain ⟨b, ha, h⟩ := bind_eq_ok_iff.mp h
    obtain ⟨others, hrest, -⟩ := bind_eq_ok_iff.mp h
    exact List.forall_mem_cons.mpr ⟨⟨b, ha⟩, ih hrest⟩

theorem error_of_mapM_eq_error {α β : Type} {f : α → Except Fault β} {l : List α} {fault : Fault}
    (h : l.mapM f = .error fault) : ∃ a ∈ l, f a = .error fault := by
  induction l with
  | nil => cases h
  | cons a rest ih =>
    rw [List.mapM_cons] at h
    cases ha : f a with
    | error other =>
      rw [ha] at h
      obtain rfl : other = fault := Except.error.inj h
      exact ⟨a, List.mem_cons_self, ha⟩
    | ok b =>
      rw [ha] at h
      cases hrest : rest.mapM f with
      | error other =>
        rw [hrest] at h
        obtain rfl : other = fault := Except.error.inj h
        obtain ⟨a', ha', hfault⟩ := ih hrest
        exact ⟨a', List.mem_cons_of_mem _ ha', hfault⟩
      | ok others =>
        rw [hrest] at h
        cases h

/-- The messages found are those that their identifiers name. -/
theorem StoredMailbox.Sound.filter_uids {m : StoredMailbox} (h : m.Sound)
    (p : StoredMessage → Bool) :
    m.messages.filter (fun msg => ((m.messages.filter p).map StoredMessage.uid).contains msg.uid) =
      m.messages.filter p := by
  refine List.filter_congr fun msg hmsg => ?_
  rw [Bool.eq_iff_iff, List.contains_iff_mem, List.mem_map]
  constructor
  · rintro ⟨other, hother, huid⟩
    obtain ⟨hmem, hp⟩ := List.mem_filter.mp hother
    exact h.eq_of_uid_eq hmem hmsg huid ▸ hp
  · exact fun hp => ⟨msg, List.mem_filter.mpr ⟨hmsg, hp⟩, rfl⟩

namespace Server

open Talk

variable {s : Server} {c : Connection} {name : String} {m : StoredMailbox}

theorem answer_examine_of_ok (hcheck : s.check c = .ok ()) (hm : s.mailbox name = .ok m) :
    ∃ status, answer (.examine name) (c, s) = (.ok status, c.viewing name, s) := by
  simp only [answer, openMailbox, hcheck, hm]
  exact ⟨_, rfl⟩

theorem openMessages_viewing (hcheck : s.check c = .ok ()) (hm : s.mailbox name = .ok m) :
    s.openMessages (c.viewing name) = .ok m.messages := by
  have hselected : s.selected (c.viewing name) = .ok name := selected_eq_ok_iff.mpr ⟨hcheck, rfl⟩
  simp only [openMessages, hselected, bind, Except.bind, hm]
  rfl

theorem exec_search (hcheck : s.check c = .ok ()) (hm : s.mailbox name = .ok m)
    (criteria : Criteria) :
    exec answer (search name criteria) (c, s) =
      (.ok ((m.messages.filter fun msg => criteria.holds msg.flags).map StoredMessage.uid),
        c.viewing name, s) := by
  obtain ⟨status, hexamine⟩ := answer_examine_of_ok hcheck hm
  have hsearch : answer (.search criteria) (c.viewing name, s) =
      (.ok ((m.messages.filter fun msg => criteria.holds msg.flags).map StoredMessage.uid),
        c.viewing name, s) := by
    simp only [answer, openMessages_viewing hcheck hm]
    rfl
  rw [search, exec_bind, exec_openMailbox_examine, hexamine]
  exact hsearch

/-- What is sent of the messages that are named is wanted. -/
theorem wanted_eq (m : StoredMailbox) (uids : List Uid) :
    ∃ picked : List (Nat × StoredMessage), picked.map Prod.snd = m.named uids ∧
      ((((numbered m.messages).filter fun e => uids.contains e.2.uid).map
        fun e => fetched .headers e.1 e.2).filter (isWanted uids)) =
        picked.map fun e => fetched .headers e.1 e.2 := by
  set picked := (numbered m.messages).filter fun e => uids.contains e.2.uid with hpicked
  refine ⟨picked, ?_, List.filter_eq_self.mpr fun f hf => ?_⟩
  · have hsnd : (numbered m.messages).map Prod.snd = m.messages :=
      List.map_snd_zip (by simp)
    rw [StoredMailbox.named, ← hsnd, List.filter_map]
    rfl
  · obtain ⟨e, he, rfl⟩ := List.mem_map.mp hf
    have huid := (List.mem_filter.mp he).2
    simpa [isWanted, fetched] using huid

/-- What is made of the messages of a mailbox when some are fetched. -/
theorem mapM_ofFetched {headers : StoredMessage → Header.Map} (uids : List Uid)
    (h : ∀ msg ∈ m.named uids, Header.ofBlock msg.header .empty = .ok (headers msg)) :
    (((((numbered m.messages).filter fun e => uids.contains e.2.uid).map
        fun e => fetched .headers e.1 e.2).filter (isWanted uids)).mapM Message.ofFetched) =
      .ok ((m.named uids).map fun msg => msg.asFetched (headers msg)) := by
  obtain ⟨picked, hnamed, hwanted⟩ := wanted_eq m uids
  have hmessages : ∀ e ∈ picked,
      (Message.ofFetched ∘ fun e => fetched .headers e.1 e.2) e =
        .ok (e.2.asFetched (headers e.2)) := by
    intro e he
    have hheader := h e.2 (hnamed ▸ List.mem_map_of_mem he)
    simp only [Function.comp_apply, Message.ofFetched, fetched, Option.getD_none, hheader]
    rfl
  rw [hwanted, List.mapM_map, mapM_ok hmessages, ← hnamed, List.map_map]
  rfl

/-- Nothing is made of them unless all their headers can be read. -/
theorem headers_of_mapM_ofFetched {uids : List Uid} {messages : List Message}
    (h : (((((numbered m.messages).filter fun e => uids.contains e.2.uid).map
        fun e => fetched .headers e.1 e.2).filter (isWanted uids)).mapM Message.ofFetched) =
      .ok messages) :
    ∀ msg ∈ m.named uids, ∃ headers, Header.ofBlock msg.header .empty = .ok headers := by
  obtain ⟨picked, hnamed, hwanted⟩ := wanted_eq m uids
  intro msg hmsg
  rw [← hnamed] at hmsg
  obtain ⟨e, he, rfl⟩ := List.mem_map.mp hmsg
  rw [hwanted] at h
  obtain ⟨message, hread⟩ := ok_of_mapM_eq_ok h _ (List.mem_map_of_mem he)
  simp only [Message.ofFetched, fetched, Option.getD_none] at hread
  split at hread
  · next headers hheaders => exact ⟨headers, hheaders⟩
  · cases hread

theorem exec_fetch_eq (hcheck : s.check c = .ok ()) (hm : s.mailbox name = .ok m)
    (uids : List Uid) :
    exec answer (fetch name uids) (c, s) =
      (((((numbered m.messages).filter fun e => uids.contains e.2.uid).map
        fun e => fetched .headers e.1 e.2).filter (isWanted uids)).mapM Message.ofFetched,
        c.viewing name, s) := by
  obtain ⟨status, hexamine⟩ := answer_examine_of_ok hcheck hm
  have hfetch : answer (.fetch uids .headers) (c.viewing name, s) =
      (.ok (((numbered m.messages).filter fun e => uids.contains e.2.uid).map
        fun e => fetched .headers e.1 e.2), c.viewing name, s) := by
    simp only [answer, openMessages_viewing hcheck hm]
    rfl
  rw [fetch, exec_bind, exec_openMailbox_examine, hexamine]
  simp only
  rw [exec_ask_bind_of_ok hfetch, exec_mapM_pure]

theorem exec_fetch (hcheck : s.check c = .ok ()) (hm : s.mailbox name = .ok m) (uids : List Uid)
    {headers : StoredMessage → Header.Map}
    (h : ∀ msg ∈ m.named uids, Header.ofBlock msg.header .empty = .ok (headers msg)) :
    exec answer (fetch name uids) (c, s) =
      (.ok ((m.named uids).map fun msg => msg.asFetched (headers msg)), c.viewing name, s) := by
  rw [exec_fetch_eq hcheck hm, mapM_ofFetched uids h]

theorem search_candidates (m : StoredMailbox) (excluded : List Flag) :
    (m.messages.filter fun msg => Criteria.holds ⟨[], excluded⟩ msg.flags) =
      m.candidates excluded := by
  refine List.filter_congr fun msg _ => ?_
  simp [Criteria.holds]

/-- Just the messages that carry none of the flags are fetched. -/
theorem exec_searchAndFetch (hs : s.Sound) (hcheck : s.check c = .ok ())
    (hm : s.mailbox name = .ok m) (excluded : List Flag) {headers : StoredMessage → Header.Map}
    (h : ∀ msg ∈ m.candidates excluded, Header.ofBlock msg.header .empty = .ok (headers msg)) :
    exec answer (searchAndFetch name ⟨[], excluded⟩) (c, s) =
      (.ok ((m.candidates excluded).map fun msg => msg.asFetched (headers msg)), c.viewing name,
        s) := by
  have hsound : m.Sound := hs.of_mailbox hm
  have hnamed : m.named ((m.candidates excluded).map StoredMessage.uid) = m.candidates excluded :=
    hsound.filter_uids _
  rw [searchAndFetch, exec_bind_of_ok (exec_search hcheck hm _), search_candidates]
  split
  · next hempty =>
    have hnil : m.candidates excluded = [] := by simpa using hempty
    rw [hnil]
    rfl
  · rw [exec_fetch (c := c.viewing name) hcheck hm _ (hnamed.symm ▸ h), hnamed]
    rfl

/-- Nothing is fetched unless all their headers can be read. -/
theorem headers_of_exec_searchAndFetch (hs : s.Sound) (hcheck : s.check c = .ok ())
    (hm : s.mailbox name = .ok m) {excluded : List Flag} {messages : List Message}
    {x : Connection × Server}
    (h : exec answer (searchAndFetch name ⟨[], excluded⟩) (c, s) = (.ok messages, x)) :
    ∀ msg ∈ m.candidates excluded, ∃ headers, Header.ofBlock msg.header .empty = .ok headers := by
  have hsound : m.Sound := hs.of_mailbox hm
  have hnamed : m.named ((m.candidates excluded).map StoredMessage.uid) = m.candidates excluded :=
    hsound.filter_uids _
  rw [searchAndFetch, exec_bind_of_ok (exec_search hcheck hm _), search_candidates] at h
  split at h
  · next hempty =>
    have hnil : m.candidates excluded = [] := by simpa using hempty
    rw [hnil]
    exact fun msg hmsg => absurd hmsg List.not_mem_nil
  · rw [exec_fetch_eq (c := c.viewing name) hcheck hm] at h
    exact hnamed ▸ headers_of_mapM_ofFetched (Prod.mk.inj h).1

theorem isDisconnect_of_ofFetched {f : Fetched} {fault : Fault}
    (h : Message.ofFetched f = .error fault) : fault.isDisconnect = false := by
  unfold Message.ofFetched at h
  split at h
  · obtain rfl := Except.error.inj h
    rfl
  · split at h
    · obtain rfl := Except.error.inj h
      rfl
    · simp only at h
      split at h
      · cases h
      · obtain rfl := Except.error.inj h
        rfl

/-- If they cannot be fetched, it is not for the connection. -/
theorem isDisconnect_of_exec_searchAndFetch (hcheck : s.check c = .ok ())
    (hm : s.mailbox name = .ok m) {criteria : Criteria} {fault : Fault} {x : Connection × Server}
    (h : exec answer (searchAndFetch name criteria) (c, s) = (.error fault, x)) :
    fault.isDisconnect = false := by
  rw [searchAndFetch, exec_bind_of_ok (exec_search hcheck hm _)] at h
  split at h
  · cases h
  · rw [exec_fetch_eq (c := c.viewing name) hcheck hm] at h
    obtain ⟨f, -, hfault⟩ := error_of_mapM_eq_error (Prod.mk.inj h).1
    exact isDisconnect_of_ofFetched hfault

end Server

end Postroom
