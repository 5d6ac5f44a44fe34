import Postroom.Proofs.Server.Agreement
import Postroom.Proofs.Server.Applying
import Postroom.Proofs.Server.Dwindling
import Postroom.Proofs.Server.Fetching

/-! # Sorting settles

When a pass has succeeded, every message that it tried has left the input mailbox, or no
filter matches it and it is marked there.  That is so whatever the server can do, since
what one message comes to is kept while others are dealt with (`InRow.forall_of_ok`), and
it is all that matters for a second pass.  What the second pass finds is a message that the
first one had found (`candidate_of_left`), with the same headers, so again no filter matches
it; and marking it once more changes nothing.  So the second pass succeeds and leaves the
server as it is (`sort_settles`), and if marked messages are excluded it finds none.
-/

namespace Postroom

/-- The headers of a message; none if they cannot be read. -/
def StoredMessage.headers (msg : StoredMessage) : Header.Map :=
  (Header.ofBlock msg.header .empty).toOption.getD .empty

theorem StoredMessage.ofBlock_header {msg : StoredMessage}
    (h : ∃ headers, Header.ofBlock msg.header .empty = .ok headers) :
    Header.ofBlock msg.header .empty = .ok msg.headers := by
  obtain ⟨headers, hheaders⟩ := h
  rw [StoredMessage.headers, hheaders]
  rfl

namespace Talk

open Server (Proceeds Gone Marked)

variable {input fallback : String} {uid : Uid} {turns : List Turn} {x y : Connection × Server}

/-! ### The first pass -/

/-- Flags are only added, or they are those of another mailbox. -/
theorem Reflagging.proceeds {mailbox : String} {change : StoreMode × List Flag}
    {result : Except Fault Unit} (h : Reflagging mailbox uid change turns result)
    (hharmless : change.1 = .add ∨ mailbox ≠ input) (hrecites : Recites Server.answer turns x y) :
    Proceeds input x y := by
  have hselect : Proceeds input x (Server.answer (.select mailbox) x).2 :=
    Server.proceeds_answer (r := .select mailbox) trivial
  cases h with
  | notOpened fault =>
    obtain ⟨-, rfl⟩ := hrecites
    exact hselect
  | stored status =>
    obtain ⟨hopened, -, rfl⟩ := hrecites
    refine hselect.trans (Server.proceeds_answer (hharmless.imp id fun hne hopen => hne ?_))
    exact Option.some.inj ((Server.selected_of_select hopened).symm.trans hopen)

/-- A message that is marked where it is carries the flag then. -/
theorem Reflagging.marked (h : Reflagging input uid (.add, [.flagged]) turns (.ok ()))
    (hrecites : Recites Server.answer turns x y) : y.2.Marked input uid .flagged := by
  generalize hresult : (Except.ok () : Except Fault Unit) = result at h
  cases h with
  | notOpened fault => cases hresult
  | stored status =>
    subst hresult
    obtain ⟨hopened, hstored, rfl⟩ := hrecites
    have hopen := Server.selected_of_select hopened
    obtain ⟨name, hname, hserver⟩ := Server.store_eq_ok hstored
    obtain rfl : input = name := Option.some.inj (hopen.symm.trans hname)
    rw [hserver]
    exact Server.marked_store _ uid .flagged

section InRow

variable {α : Type} {course : α → List Turn → Except Fault Unit → Prop} {l : List α}
  (hcourse : ∀ a ∈ l, ∀ turns result x y, course a turns result →
    Recites Server.answer turns x y → Proceeds input x y)

include hcourse

theorem InRow.proceeds {result : Except Fault Unit} (h : InRow course l turns result)
    (hrecites : Recites Server.answer turns x y) : Proceeds input x y := by
  induction h generalizing x with
  | nil =>
    obtain rfl : y = x := hrecites
    exact Server.proceeds_refl input y
  | failed hfirst => exact hcourse _ List.mem_cons_self _ _ _ _ hfirst hrecites
  | cons hfirst hrest ih =>
    obtain ⟨z, hfirstRecites, hrestRecites⟩ := recites_append.mp hrecites
    refine (hcourse _ List.mem_cons_self _ _ _ _ hfirst hfirstRecites).trans (ih ?_ hrestRecites)
    exact fun a ha => hcourse a (List.mem_cons_of_mem _ ha)

/-- What becomes of each thing in a row when it is dealt with holds in the end, if it stays so while
the others are dealt with. -/
theorem InRow.forall_of_ok {P : α → Server → Prop}
    (hdone : ∀ a ∈ l, ∀ turns x y, course a turns (.ok ()) → Recites Server.answer turns x y →
      P a y.2)
    (hkept : ∀ a s t, s.Thins input t → P a s → P a t) (h : InRow course l turns (.ok ()))
    (hrecites : Recites Server.answer turns x y) : ∀ a ∈ l, P a y.2 := by
  generalize hresult : (Except.ok () : Except Fault Unit) = result at h
  induction h generalizing x with
  | nil => exact fun a ha => absurd ha List.not_mem_nil
  | failed => cases hresult
  | cons hfirst hrest ih =>
    obtain ⟨z, hfirstRecites, hrestRecites⟩ := recites_append.mp hrecites
    have hlater := fun a ha => hcourse a (List.mem_cons_of_mem _ ha)
    refine List.forall_mem_cons.mpr ⟨?_, ih hlater ?_ hrestRecites hresult⟩
    · refine hkept _ _ _ (hrest.proceeds hlater hrestRecites).thins ?_
      exact hdone _ List.mem_cons_self _ _ _ hfirst hfirstRecites
    · exact fun a ha => hdone a (List.mem_cons_of_mem _ ha)

end InRow

variable {filters : List (String × Filter)}

/-- Every filter moves what it matches out of a mailbox. -/
def MovesOut (input : String) (filters : List (String × Filter)) : Prop :=
  ∀ e ∈ filters, ∃ target, e.2.commands.moveTo = some target ∧ target ≠ input

theorem Obeying.proceeds {commands : Commands} {result : Except Fault Unit}
    (h : Obeying commands input uid turns result) {target : String}
    (hto : commands.moveTo = some target) (hne : target ≠ input)
    (hrecites : Recites Server.answer turns x y) :
    Proceeds input x y ∧ (result = .ok () → y.2.Gone input uid) := by
  cases h with
  | stays hstays => rw [hstays] at hto; cases hto
  | notMoved hto' hmoving =>
    obtain rfl := Option.some.inj (hto.symm.trans hto')
    exact ⟨Server.proceeds_of_recites (hmoving.drains hne) hrecites, fun h => nomatch h⟩
  | moved hto' hmoving hflags =>
    obtain rfl := Option.some.inj (hto.symm.trans hto')
    obtain ⟨z, hmove, hrevise⟩ := recites_append.mp hrecites
    have hproceeds : Proceeds input z y := hflags.proceeds
      (fun _ _ _ _ _ _ hreflagging => hreflagging.proceeds (Or.inr hne)) hrevise
    refine ⟨(Server.proceeds_of_recites (hmoving.drains hne) hmove).trans hproceeds, fun _ => ?_⟩
    exact hproceeds.thins.gone (hmoving.gone hne hmove)

/-- A message that has been tried is gone, or no filter matches it. -/
theorem Trying.proceeds {message : Message} {result : Except Fault Unit}
    (h : Trying filters input message turns result) (hmoves : MovesOut input filters)
    (hrecites : Recites Server.answer turns x y) :
    Proceeds input x y ∧ (result = .ok () →
      Filter.firstMatch message.headers filters = .ok none ∨ y.2.Gone input message.uid) := by
  cases h with
  | notTried fault =>
    obtain rfl : y = x := hrecites
    exact ⟨Server.proceeds_refl input y, fun h => nomatch h⟩
  | unmatched hfirst =>
    obtain rfl : y = x := hrecites
    exact ⟨Server.proceeds_refl input y, fun _ => Or.inl hfirst⟩
  | matched filter hfirst hobeying =>
    obtain ⟨name, hmem⟩ := Filter.mem_of_firstMatch hfirst
    obtain ⟨target, hto, hne⟩ := hmoves _ hmem
    obtain ⟨hproceeds, hgone⟩ := hobeying.proceeds hto hne hrecites
    exact ⟨hproceeds, fun hok => Or.inr (hgone hok)⟩

/-- A message that no filter matches is gone then, or marked where it is. -/
theorem FallingBack.proceeds {result : Except Fault Unit}
    (h : FallingBack input fallback uid turns result)
    (hrecites : Recites Server.answer turns x y) :
    Proceeds input x y ∧ (result = .ok () →
      (fallback = "" ∨ fallback = input) ∧ y.2.Marked input uid .flagged ∨ y.2.Gone input uid) := by
  cases h with
  | marked hhere hflags =>
    refine ⟨hflags.proceeds (Or.inl rfl) hrecites, ?_⟩
    rintro rfl
    exact Or.inl ⟨hhere, hflags.marked hrecites⟩
  | @moved hthere turns result hmoving =>
    have hne : fallback ≠ input := fun heq => hthere (Or.inr heq)
    refine ⟨Server.proceeds_of_recites (hmoving.drains hne) hrecites, fun hok => ?_⟩
    cases result with
    | error fault => cases hok
    | ok told => exact Or.inr (hmoving.gone hne hrecites)

/-! ### The second pass -/

/-- If no filter matches anything, nothing is asked. -/
theorem exec_applyFilters_of_unmatched {σ : Type} (answer : Answerer σ) (z : σ) (mailbox : String)
    {messages : List Message}
    (h : ∀ message ∈ messages, Filter.firstMatch message.headers filters = .ok none) :
    exec answer (applyFilters mailbox filters messages) z =
      (.ok (0, messages.map Message.uid), z) := by
  induction messages with
  | nil => rfl
  | cons message rest ih =>
    obtain ⟨hfirst, hrest⟩ := List.forall_mem_cons.mp h
    rw [applyFilters, exec_bind, exec_mk_pure, hfirst]
    exact exec_bind_of_ok (ih hrest)

end Talk

namespace Server

open Talk

variable {s t : Server} {c : Connection} {input fallback : String} {m : StoredMailbox}

/-- Adding a flag that every message named has changes nothing. -/
theorem store_add_of_marked {uid : Uid} {f : Flag} (hkept : keptFlag f = f)
    (h : ∀ msg ∈ m.messages, msg.uid = uid → f ∈ msg.flags) : m.store [uid] .add [f] = m := by
  have hmessages : (m.messages.map fun msg => msg.revised [uid] .add [f]) = m.messages := by
    refine (List.map_congr_left fun msg hmsg => ?_).trans (List.map_id' _)
    by_cases hin : msg.uid ∈ [uid]
    · have hcarried : f ∈ msg.flags := h msg hmsg (List.mem_singleton.mp hin)
      have hflags : combine .add (keptFlags [f]) msg.flags = msg.flags := by
        simp [combine, keptFlags, addFlag, hkept, hcarried]
      rw [StoredMessage.revised_of_mem hin, hflags]
    · rw [StoredMessage.revised_of_not_mem hin]
  exact congrArg (StoredMailbox.mk m.uidNext) hmessages

/-- Marking messages where they are changes nothing if they are marked. -/
theorem exec_forM_fallBack_of_marked (hs : s.Sound) (hcheck : s.check c = .ok ())
    (hm : s.mailbox input = .ok m) {uids : List Uid}
    (h : ∀ uid ∈ uids, (fallback = "" ∨ fallback = input) ∧ s.Marked input uid .flagged) :
    ∃ c', exec answer (uids.forM (fallBack input fallback)) (c, s) = (.ok (), c', s) := by
  induction uids generalizing c with
  | nil => exact ⟨c, rfl⟩
  | cons uid rest ih =>
    obtain ⟨⟨hhere, hmarked⟩, hrest⟩ := List.forall_mem_cons.mp h
    have hsame : m.store [uid] .add [.flagged] = m :=
      store_add_of_marked rfl (box_eq_of_mailbox hm ▸ hmarked)
    have hset := exec_setFlags hcheck hm [uid] .add [.flagged]
    rw [hsame, put_get?_self hs hm] at hset
    have hfall : exec answer (fallBack input fallback uid) (c, s) = (.ok (), c.at input, s) := by
      rw [fallBack, if_pos (by simpa using hhere)]
      exact hset
    obtain ⟨c', hexec⟩ := ih (c := c.at input) hcheck hrest
    exact ⟨c', (exec_bind_of_ok hfall).trans hexec⟩

variable {excluded : List Flag} {filters : Assoc Filter}

/-- Nothing is left to do but to mark messages that are marked. -/
structure Settled (input : String) (excluded : List Flag) (fallback : String)
    (filters : List (String × Filter)) (c : Connection) (s : Server) : Prop where
  /-- The server is sound. -/
  sound : s.Sound
  /-- The connection can be used. -/
  alive : s.check c = .ok ()
  /-- The mailbox is found. -/
  found : ∃ m, s.mailbox input = .ok m
  /-- The headers of every candidate can be read, and no filter matches them. -/
  unmatched : ∀ msg ∈ (s.box input).candidates excluded,
    Header.ofBlock msg.header .empty = .ok msg.headers ∧
      Filter.firstMatch msg.headers filters = .ok none
  /-- Every candidate is marked, and this is the place for it. -/
  marked : ∀ msg ∈ (s.box input).candidates excluded,
    (fallback = "" ∨ fallback = input) ∧ s.Marked input msg.uid .flagged

/-- A pass over what is settled changes nothing. -/
theorem Settled.exec_sort (h : Settled input excluded fallback (Filter.ordered filters) c s) :
    ∃ c', exec answer (sort input excluded fallback filters) (c, s) =
      (.ok ⟨0, ((s.box input).candidates excluded).length⟩, c', s) := by
  obtain ⟨m, hm⟩ := h.found
  have hbox := box_eq_of_mailbox hm
  have hfetch := exec_searchAndFetch h.sound h.alive hm excluded
    fun msg hmsg => (h.unmatched msg (hbox.symm ▸ hmsg)).1
  have hunmatched : ∀ message ∈ (m.candidates excluded).map fun msg => msg.asFetched msg.headers,
      Filter.firstMatch message.headers (Filter.ordered filters) = .ok none := by
    intro message hmessage
    obtain ⟨msg, hmsg, rfl⟩ := List.mem_map.mp hmessage
    exact (h.unmatched msg (hbox.symm ▸ hmsg)).2
  have hmarked : ∀ uid ∈ (m.candidates excluded).map StoredMessage.uid,
      (fallback = "" ∨ fallback = input) ∧ s.Marked input uid .flagged := by
    intro uid huid
    obtain ⟨msg, hmsg, rfl⟩ := List.mem_map.mp huid
    exact h.marked msg (hbox.symm ▸ hmsg)
  have hidle := exec_applyFilters_of_unmatched answer (c.viewing input, s) input hunmatched
  obtain ⟨c', hfall⟩ :=
    exec_forM_fallBack_of_marked (c := c.viewing input) h.sound h.alive hm hmarked
  refine ⟨c', ?_⟩
  rw [sort, exec_bind_of_ok hfetch, exec_bind_of_ok hidle, List.map_map]
  refine (exec_bind_of_ok hfall).trans ?_
  rw [hbox, exec_pure, List.length_map]

/-- If marked messages are excluded, there are no candidates. -/
theorem Settled.candidates_eq_nil (h : Settled input excluded fallback filters c s)
    (hflagged : .flagged ∈ excluded) : (s.box input).candidates excluded = [] := by
  refine List.eq_nil_iff_forall_not_mem.mpr fun msg hmsg => ?_
  obtain ⟨hmem, hcarries⟩ := List.mem_filter.mp hmsg
  have hmarked := (h.marked msg hmsg).2 msg hmem rfl
  rw [Bool.not_eq_true', List.any_eq_false] at hcarries
  exact hcarries .flagged hflagged (List.contains_iff_mem.mpr hmarked)

theorem of_answer_examine {status : MailboxStatus} {x : Connection × Server}
    (h : answer (.examine input) (c, s) = (.ok status, x)) :
    s.check c = .ok () ∧ ∃ m, s.mailbox input = .ok m := by
  simp only [answer, openMailbox] at h
  split at h
  · cases h
  · next hcheck =>
    split at h
    · cases h
    · next m hm => exact ⟨hcheck, m, hm⟩

/-- Messages are gathered only over a connection that can be used, from a mailbox that is found. -/
theorem of_exec_searchAndFetch {criteria : Criteria} {messages : List Message}
    {x : Connection × Server}
    (h : exec answer (searchAndFetch input criteria) (c, s) = (.ok messages, x)) :
    s.check c = .ok () ∧ ∃ m, s.mailbox input = .ok m := by
  obtain ⟨uids, y, hsearch, -⟩ := exec_bind_eq_ok_iff.mp h
  obtain ⟨status, z, hopen, -⟩ := exec_bind_eq_ok_iff.mp hsearch
  rw [exec_openMailbox_examine] at hopen
  exact of_answer_examine hopen

/-- What is still a candidate was one before, with the same headers. -/
theorem Thins.candidate (h : s.Thins input t) {msg : StoredMessage}
    (hmsg : msg ∈ (t.box input).candidates excluded) :
    ∃ old ∈ (s.box input).candidates excluded, msg.uid = old.uid ∧ msg.header = old.header := by
  obtain ⟨hmem, hlacks⟩ := List.mem_filter.mp hmsg
  obtain ⟨old, hold, huid, hcontent, hflags⟩ := h.left msg hmem
  refine ⟨old, List.mem_filter.mpr ⟨hold, ?_⟩, huid, ?_⟩
  · rw [Bool.not_eq_true', List.any_eq_false] at hlacks ⊢
    intro f hf hcarried
    exact hlacks f hf (List.contains_iff_mem.mpr (hflags (List.contains_iff_mem.mp hcarried)))
  · rw [StoredMessage.header, StoredMessage.header, hcontent]

/-- When messages have been tried, each of them is gone or matched by no filter. -/
theorem tried_of_exec {filters : List (String × Filter)} (hmoves : MovesOut input filters)
    {messages : List Message} {x y : Connection × Server} {matched : Nat} {others : List Uid}
    (h : exec answer (applyFilters input filters messages) x = (.ok (matched, others), y)) :
    others = Filter.unmatched filters messages ∧ Proceeds input x y ∧
      ∀ message ∈ messages, Filter.firstMatch message.headers filters = .ok none ∨
        y.2.Gone input message.uid := by
  obtain ⟨turns, hgoes, hrecites⟩ := goes_of_exec h
  obtain ⟨_, heq, -⟩ | ⟨_, heq, -, htrying⟩ := goes_applyFilters hgoes
  · cases heq
  obtain ⟨rfl, rfl⟩ := Prod.mk.inj (Except.ok.inj heq)
  refine ⟨rfl, htrying.proceeds (fun _ _ _ _ _ _ h hr => (h.proceeds hmoves hr).1) hrecites, ?_⟩
  refine htrying.forall_of_ok (P := fun message s =>
      Filter.firstMatch message.headers filters = .ok none ∨ s.Gone input message.uid)
    (fun _ _ _ _ _ _ h hr => (h.proceeds hmoves hr).1)
    (fun _ _ _ _ _ h hr => (h.proceeds hmoves hr).2 rfl) (fun message s t hthins h => ?_) hrecites
  exact h.imp (fun hfirst => hfirst) fun hgone => hthins.gone hgone

/-- When the others have been dealt with, each of them is gone or marked where it is. -/
theorem fallen_of_exec {uids : List Uid} {x y : Connection × Server}
    (h : exec answer (uids.forM (fallBack input fallback)) x = (.ok (), y)) :
    Proceeds input x y ∧ ∀ uid ∈ uids,
      (fallback = "" ∨ fallback = input) ∧ y.2.Marked input uid .flagged ∨ y.2.Gone input uid := by
  obtain ⟨turns, hgoes, hrecites⟩ := goes_of_exec h
  have hfalling := (goes_forM hgoes).mono fun _ _ _ h => goes_fallBack h
  refine ⟨hfalling.proceeds (fun _ _ _ _ _ _ h hr => (h.proceeds hr).1) hrecites, ?_⟩
  refine hfalling.forall_of_ok (P := fun uid s =>
      (fallback = "" ∨ fallback = input) ∧ s.Marked input uid .flagged ∨ s.Gone input uid)
    (fun _ _ _ _ _ _ h hr => (h.proceeds hr).1)
    (fun _ _ _ _ _ h hr => (h.proceeds hr).2 rfl) (fun uid s t hthins h => ?_) hrecites
  exact h.imp (fun hhere => ⟨hhere.1, hthins.marked hhere.2⟩) fun hgone => hthins.gone hgone

/-- A pass that succeeds leaves things settled. -/
theorem settled_of_exec_sort (hs : s.Sound) (hmoves : MovesOut input filters) {tally : Tally}
    {c' : Connection}
    (h : exec answer (sort input excluded fallback filters) (c, s) = (.ok tally, c', t)) :
    Settled input excluded fallback (Filter.ordered filters) c' t := by
  have hordered : MovesOut input (Filter.ordered filters) := fun e he =>
    hmoves e (List.mem_mergeSort.mp he)
  obtain ⟨messages, x, hgather, hrest⟩ := exec_bind_eq_ok_iff.mp h
  obtain ⟨⟨matched, others⟩, y, htry, hrest⟩ := exec_bind_eq_ok_iff.mp hrest
  obtain ⟨_, z, hfall, hend⟩ := exec_bind_eq_ok_iff.mp hrest
  obtain rfl : z = (c', t) := (Prod.mk.inj hend).2
  -- What was gathered.
  obtain ⟨hcheck, m, hm⟩ := of_exec_searchAndFetch hgather
  have hheaders : ∀ msg ∈ m.candidates excluded,
      Header.ofBlock msg.header .empty = .ok msg.headers := fun msg hmsg =>
    StoredMessage.ofBlock_header (headers_of_exec_searchAndFetch hs hcheck hm hgather msg hmsg)
  obtain ⟨hmessages, rfl⟩ :=
    Prod.mk.inj ((exec_searchAndFetch hs hcheck hm excluded hheaders).symm.trans hgather)
  obtain rfl := Except.ok.inj hmessages
  -- What became of it.
  obtain ⟨rfl, htryProceeds, htried⟩ := tried_of_exec hordered htry
  obtain ⟨hfallProceeds, hfallen⟩ := fallen_of_exec hfall
  have hproceeds := htryProceeds.trans hfallProceeds
  have hleft : ∀ msg ∈ (t.box input).candidates excluded, ∃ old ∈ m.candidates excluded,
      msg.uid = old.uid ∧ msg.header = old.header ∧
        Filter.firstMatch old.headers (Filter.ordered filters) = .ok none := by
    intro msg hmsg
    obtain ⟨old, hold, huid, hheader⟩ := hproceeds.thins.candidate hmsg
    rw [box_eq_of_mailbox hm] at hold
    refine ⟨old, hold, huid, hheader, ?_⟩
    refine (htried _ (List.mem_map_of_mem hold)).resolve_right fun hgone => ?_
    exact hfallProceeds.thins.gone hgone msg (List.mem_of_mem_filter hmsg) huid
  refine ⟨hproceeds.sound hs, hproceeds.alive.trans hcheck, hproceeds.thins.found ⟨m, hm⟩,
    fun msg hmsg => ?_, fun msg hmsg => ?_⟩
  · obtain ⟨old, hold, -, hheader, hfirst⟩ := hleft msg hmsg
    rw [StoredMessage.headers, hheader]
    exact ⟨hheaders old hold, hfirst⟩
  · obtain ⟨old, hold, huid, -, hfirst⟩ := hleft msg hmsg
    have hother : msg.uid ∈ Filter.unmatched (Filter.ordered filters)
        ((m.candidates excluded).map fun msg => msg.asFetched msg.headers) := by
      refine List.mem_map.mpr ⟨old.asFetched old.headers, List.mem_filter.mpr ⟨?_, ?_⟩, huid.symm⟩
      · exact List.mem_map_of_mem hold
      · simp only [StoredMessage.asFetched, hfirst]
    exact (hfallen _ hother).resolve_right fun hgone =>
      hgone msg (List.mem_of_mem_filter hmsg) rfl

/-- **Sorting settles.**  If every filter moves what it matches to another mailbox, then a second
pass behind one that succeeded succeeds as well, matches nothing and leaves the server as the first
one left it; and if marked messages are excluded it finds nothing at all.  It does not matter which
commands the server has, and which mailboxes it reports as missing or leaves out of its listing. -/
theorem sort_settles (settings : Settings) (c : Connection) (hs : s.Reachable)
    (input fallback : String) (excluded : List Flag) {filters : Assoc Filter}
    (hmoves : ∀ e ∈ filters, ∃ target, e.2.commands.moveTo = some target ∧ target ≠ input)
    {tally : Tally} {first : Session Server Connection}
    (hfirst : (session settings c).perform (Talk.sort input excluded fallback filters) s =
      (.ok tally, first, t)) :
    ∃ fallen second, first.perform (Talk.sort input excluded fallback filters) t =
        (.ok ⟨0, fallen⟩, second, t) ∧
      (.flagged ∈ excluded → fallen = 0) := by
  rcases hsort : exec answer (sort input excluded fallback filters) (c, s) with ⟨result, c', t'⟩
  rw [perform_session, hsort] at hfirst
  obtain ⟨rfl, rfl, rfl⟩ : result = .ok tally ∧ session settings c' = first ∧ t' = t := by
    simpa only [Prod.mk.injEq] using hfirst
  have hsettled := settled_of_exec_sort hs.sound hmoves hsort
  obtain ⟨c'', hagain⟩ := hsettled.exec_sort
  refine ⟨_, session settings c'', by rw [perform_session, hagain], fun hflagged => ?_⟩
  rw [hsettled.candidates_eq_nil hflagged, List.length_nil]

/-- A server that can neither move messages nor remove named ones, with a target that has to be
made: one candidate goes there, the other is marked, and a second pass leaves all this as it is. -/
theorem settled_without_moves :
    let s := ((Exchange.new "pw").run [.loseMove, .loseExpungeUids,
      .deliver "INBOX" [83, 58, 97, 13, 10, 13, 10] [.recent],
      .deliver "INBOX" [84, 58, 98, 13, 10, 13, 10] [.seen]]).server
    let c : Connection := ⟨0, false, none, false⟩
    let filter : Filter :=
      ⟨0, ⟨some "Target", some ["\\Answered"], none, none⟩, [⟨[("or", [⟨"s", .one "a"⟩])]⟩]⟩
    let pass := Talk.sort "INBOX" [] "" [("f", filter)]
    let first := (session .empty c).perform pass s
    first.1 = .ok ⟨1, 1⟩ ∧ first.2.2.mailboxes =
        [("INBOX", ⟨3, [⟨2, [.seen, .flagged], [84, 58, 98, 13, 10, 13, 10]⟩]⟩),
          ("Target", ⟨2, [⟨1, [.answered], [83, 58, 97, 13, 10, 13, 10]⟩]⟩)] ∧
      ∃ fallen second, first.2.1.perform pass first.2.2 = (.ok ⟨0, fallen⟩, second, first.2.2) := by
  intro s c filter pass first
  have hordered : Filter.ordered [("f", filter)] = [("f", filter)] := List.mergeSort_singleton _
  have hpass : first.1 = .ok ⟨1, 1⟩ ∧ first.2.2.mailboxes =
      [("INBOX", ⟨3, [⟨2, [.seen, .flagged], [84, 58, 98, 13, 10, 13, 10]⟩]⟩),
        ("Target", ⟨2, [⟨1, [.answered], [83, 58, 97, 13, 10, 13, 10]⟩]⟩)] := by
    simp only [first, pass, Talk.sort, hordered]
    decide +kernel
  have hmoves : ∀ e ∈ [("f", filter)],
      ∃ target, e.2.commands.moveTo = some target ∧ target ≠ "INBOX" := by
    intro e he
    obtain rfl := List.mem_singleton.mp he
    exact ⟨"Target", rfl, by decide⟩
  obtain ⟨fallen, second, hagain, -⟩ := sort_settles .empty c (s := s) ⟨"pw", _, rfl⟩ "INBOX" "" []
    hmoves (Prod.ext hpass.1 rfl : first = (.ok ⟨1, 1⟩, first.2.1, first.2.2))
  exact ⟨hpass.1, hpass.2, fallen, second, hagain⟩

end Server

end Postroom
