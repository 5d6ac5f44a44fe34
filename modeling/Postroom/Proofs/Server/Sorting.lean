import Mathlib.Tactic.Choose
import Mathlib.Tactic.Set
import Postroom.Proofs.Exchange
import Postroom.Proofs.FilterOrder
import Postroom.Proofs.Server.Agreement
import Postroom.Proofs.Server.Dealing
import Postroom.Proofs.Server.Fetching

/-! # What sorting comes to

Where nothing stands in the way of a move (`Server.Calm`), each request of a sort
succeeds.  A message that is still in the input is moved and gets the next identifier
of its target, so flag changes after the move find it there (`reflag_deal_moveTo`).
Commands and fallback therefore come to a `Treatment` of the message
(`obey_pending`, `exec_fallBack_pending`), the filters deal with the messages that
they match while the others stay pending (`exec_applyFilters`), and the fallback
deals with those (`exec_forM_fallBack`).  `sort_exact` says what all mailboxes hold in
the end.
-/

namespace Postroom

/-- What is done to a message of the input for which a filter was chosen, or none. -/
def Treatment.ofChoice (input fallback : String) : Option Filter → Treatment
  | some filter => ofCommands filter.commands
  | none => ofFallback input fallback

namespace StoredMailbox

variable {m : StoredMailbox} {msg : StoredMessage}

theorem named_singleton (hm : m.Sound) (hmsg : msg ∈ m.messages) : m.named [msg.uid] = [msg] := by
  obtain ⟨before, after, heq, hbefore, hafter⟩ := hm.exists_split hmsg
  have hnone : ∀ l : List StoredMessage, (∀ other ∈ l, other.uid ≠ msg.uid) →
      l.filter (fun other => [msg.uid].contains other.uid) = [] := by
    intro l hl
    refine List.filter_eq_nil_iff.mpr fun other hother => ?_
    simpa using hl other hother
  rw [named, heq, List.filter_append, hnone before hbefore, List.nil_append,
    List.filter_cons_of_pos (by simp), hnone after hafter]

/-- The flags of the last message changed. -/
theorem reflag_push (hm : m.Sound) (flags : List Flag) (content : List UInt8)
    (f : List Flag → List Flag) :
    (m.push flags content).reflag m.uidNext f = m.push (f flags) content := by
  refine congrArg (StoredMailbox.mk (m.uidNext + 1)) ?_
  have hold : ∀ msg ∈ m.messages, (if msg.uid = m.uidNext then
      { msg with flags := f msg.flags } else msg) = msg :=
    fun msg hmsg => if_neg (Nat.ne_of_lt (hm.given msg hmsg).2)
  simp only [push, List.map_append, List.map_congr_left hold, List.map_id', List.map_cons,
    List.map_nil, if_pos]

end StoredMailbox

namespace Server

open Talk

/-- A server on which nothing stands in the way of a move. -/
structure Calm (s : Server) : Prop where
  /-- No mailbox is reported as missing. -/
  seen : s.reportedMissing = []
  /-- Every mailbox is listed. -/
  listed : s.hidden = []
  /-- There is a way to move messages. -/
  moves : s.canMove = true ∨ s.canExpungeUids = true

variable {s : Server} {c : Connection} {input : String} {msg : StoredMessage}
  {rest : List StoredMessage}

theorem Calm.deal (h : s.Calm) (input : String) (t : Treatment) (msg : StoredMessage) :
    (s.deal input t msg).Calm := by
  unfold Server.deal
  split <;> exact ⟨h.seen, h.listed, h.moves⟩

theorem check_deal (s : Server) (input : String) (t : Treatment) (msg : StoredMessage) :
    (s.deal input t msg).check = s.check := by
  unfold deal
  split <;> rfl

theorem Calm.dealAll (h : s.Calm) (input : String) (treat : StoredMessage → Treatment)
    (order : List StoredMessage) : (s.dealAll input treat order).Calm := by
  induction order generalizing s with
  | nil => exact h
  | cons msg rest ih => exact ih (h.deal input (treat msg) msg)

theorem check_dealAll (s : Server) (input : String) (treat : StoredMessage → Treatment)
    (order : List StoredMessage) : (s.dealAll input treat order).check = s.check := by
  induction order generalizing s with
  | nil => rfl
  | cons msg rest ih => exact (ih _).trans (check_deal s input (treat msg) msg)

theorem Calm.mailbox_of_has (h : s.Calm) {name : String} (hname : s.mailboxes.has name = true) :
    s.mailbox name = .ok (s.box name) := by
  obtain ⟨m, hm⟩ := Option.isSome_iff_exists.mp hname
  rw [box_eq_of_get? hm]
  exact mailbox_eq_ok_iff.mpr ⟨by simp [h.seen], hm⟩

theorem Calm.mailbox_of_not_has (h : s.Calm) {name : String}
    (hname : s.mailboxes.has name = false) :
    s.mailbox name = .error (missing name) := by
  simp [Server.mailbox, h.seen, Assoc.has_eq_false_iff.mp hname]

/-! ### One message -/

theorem named_pending (h : s.Pending input (msg :: rest)) : (s.box input).named [msg.uid] = [msg] :=
  StoredMailbox.named_singleton (h.sound.box input) (h.here msg List.mem_cons_self)

theorem moved_pending (h : s.Pending input (msg :: rest)) (target : String) :
    s.moved input target [msg.uid] = s.deal input (.moveTo target) msg := by
  unfold moved
  rw [named_pending h]
  rfl

/-- A target that is made for a move might as well have been made by it. -/
theorem moved_put_empty {source target : String} (hne : source ≠ target)
    (hempty : s.box target = .empty) (uids : List Uid) :
    (s.put target .empty).moved source target uids = s.moved source target uids := by
  simp only [moved, box_put, if_neg hne, if_neg (Ne.symm hne), if_pos, hempty, put_comm hne,
    put_put_self]

/-- A message that is pending is moved, and has the next identifier of the target. -/
theorem relocate_pending (hcalm : s.Calm) (h : s.Pending input (msg :: rest)) (target : String) :
    s.relocate input target [msg.uid] =
      (.ok (some (s.box target).uidNext), s.deal input (.moveTo target) msg) := by
  have hinput := hcalm.mailbox_of_has h.found
  cases hhas : s.mailboxes.has target with
  | true =>
    have hfirst : s.firstCopy input target [msg.uid] = some (s.box target).uidNext := by
      rw [firstCopy, named_pending h]
      rfl
    simp only [relocate, hinput, hcalm.mailbox_of_has hhas, hfirst, moved_pending h]
  | false =>
    -- The target cannot be the input, which is there.
    have hne : input ≠ target := by
      rintro rfl
      rw [h.found] at hhas
      cases hhas
    have hempty := box_eq_empty hhas
    have hcalm' : (s.put target .empty).Calm := ⟨hcalm.seen, hcalm.listed, hcalm.moves⟩
    have hhas' : (s.put target .empty).mailboxes.has target = true := by simp [has_put]
    have hfirst : (s.put target .empty).firstCopy input target [msg.uid] =
        some (s.box target).uidNext := by
      rw [firstCopy, box_put, if_neg hne, named_pending h, box_put, if_pos rfl, hempty]
      rfl
    simp only [relocate, hinput, hcalm.mailbox_of_not_has hhas, lists, hhas,
      hcalm'.mailbox_of_has hhas', hfirst, moved_put_empty hne hempty, moved_pending h]
    rfl

/-- Changing the flags of the copy after a move is moving with other flags. -/
theorem reflag_deal_moveTo (h : s.Pending input (msg :: rest)) {t : Treatment} {target : String}
    (ht : t.target = some target) :
    (s.deal input (.moveTo target) msg).put target
        (((s.deal input (.moveTo target) msg).box target).reflag (s.box target).uidNext t.revise) =
      s.deal input t msg := by
  set left := s.put input ((s.box input).without [msg.uid]) with hleft
  have hsound : (left.box target).Sound :=
    (h.sound.put input ((h.sound.box input).keep _)).box target
  have hnext : (s.box target).uidNext = (left.box target).uidNext := by
    rw [hleft, box_put]
    split
    · next heq => rw [heq]; rfl
    · rfl
  have hmove : s.deal input (.moveTo target) msg =
      left.put target ((left.box target).push (msg.flags.filter (· ≠ .recent)) msg.content) := rfl
  rw [hmove, box_put_self, hnext, StoredMailbox.reflag_push hsound, put_put_self, deal, ht]
  rfl

/-- Commands for a message that is pending come to its treatment. -/
theorem obey_pending (hcalm : s.Calm) (h : s.Pending input (msg :: rest)) (commands : Commands) :
    s.obey commands input msg.uid = (.ok (), s.deal input (.ofCommands commands) msg) := by
  unfold obey
  cases hto : commands.moveTo with
  | none => simp only [amend, hcalm.mailbox_of_has h.found, deal, Treatment.ofCommands, hto]
  | some target =>
    have hhas : (s.deal input (.moveTo target) msg).mailboxes.has target = true := by
      rw [has_deal h.found]
      simp [Treatment.moveTo]
    have hmailbox := (hcalm.deal input (.moveTo target) msg).mailbox_of_has hhas
    have hreflag := reflag_deal_moveTo h (t := .ofCommands commands) hto
    simp only [relocate_pending hcalm h target, Option.getD_some, amend, hmailbox]
    exact congrArg (Prod.mk _) hreflag

/-- So does the fallback. -/
theorem exec_fallBack_pending (hcalm : s.Calm) (hcheck : s.check c = .ok ())
    (h : s.Pending input (msg :: rest)) (fallback : String) :
    ∃ c', exec answer (fallBack input fallback msg.uid) (c, s) =
        (.ok (), c', s.deal input (.ofFallback input fallback) msg) ∧ s.check c' = .ok () := by
  unfold fallBack Treatment.ofFallback
  split
  · refine ⟨c.at input, ?_, hcheck⟩
    have hset := exec_setFlags hcheck (hcalm.mailbox_of_has h.found) [msg.uid] .add [.flagged]
    rw [StoredMailbox.store_eq_reflag] at hset
    exact hset
  · have hun : input ≠ fallback ∨ s.Unclaimed input [msg.uid] :=
      Or.inr (h.sound.unclaimed input msg.uid)
    have hmove := exec_move hcalm.moves hcheck hun
    rw [relocate_pending hcalm h fallback] at hmove
    refine ⟨s.departed c input, exec_bind_of_ok hmove, ?_⟩
    unfold departed
    split <;> exact hcheck

/-! ### All messages -/

theorem exec_apply_pending (hcalm : s.Calm) (hcheck : s.check c = .ok ())
    (h : s.Pending input (msg :: rest)) (commands : Commands) :
    ∃ c', exec answer (Talk.apply commands input msg.uid) (c, s) =
        (.ok (), c', s.deal input (.ofCommands commands) msg) ∧ s.check c' = .ok () := by
  have happly := exec_apply h.sound hcalm.moves hcheck commands input msg.uid
  rwa [obey_pending hcalm h] at happly

variable {order : List StoredMessage} {choice : StoredMessage → Option Filter}

/-- Messages that a filter matches are dealt with, and the others are put off. -/
theorem exec_applyFilters (filters : List (String × Filter)) (fallback : String)
    {headers : StoredMessage → Header.Map} (hcalm : s.Calm) (hcheck : s.check c = .ok ())
    (h : s.Pending input order)
    (hchoice : ∀ msg ∈ order, Filter.firstMatch (headers msg) filters = .ok (choice msg)) :
    ∃ c',
      exec answer (applyFilters input filters (order.map fun msg => msg.asFetched (headers msg)))
          (c, s) =
        (.ok ((order.filter fun msg => (choice msg).isSome).length,
            (order.filter fun msg => (choice msg).isNone).map StoredMessage.uid), c',
          s.dealAll input (fun msg => .ofChoice input fallback (choice msg))
            (order.filter fun msg => (choice msg).isSome)) ∧
      s.check c' = .ok () := by
  -- On the messages; the server changes only where a filter matches, and the messages behind
  -- stay pending either way.
  induction order generalizing s c with
  | nil => exact ⟨c, rfl, hcheck⟩
  | cons msg rest ih =>
    obtain ⟨hfirst, hrest⟩ := List.forall_mem_cons.mp hchoice
    rw [List.map_cons, applyFilters, exec_bind, exec_mk_pure]
    simp only [StoredMessage.asFetched, hfirst]
    cases hmsg : choice msg with
    | none =>
      obtain ⟨c', hexec, hcheck'⟩ := ih hcalm hcheck h.tail hrest
      refine ⟨c', ?_, hcheck'⟩
      simp only
      refine (exec_bind_of_ok hexec).trans ?_
      simp [hmsg]
    | some filter =>
      obtain ⟨c₁, happly, hcheck₁⟩ := exec_apply_pending hcalm hcheck h filter.commands
      have hcheck₁' : (s.deal input (.ofCommands filter.commands) msg).check c₁ = .ok () := by
        rw [check_deal, hcheck₁]
      obtain ⟨c', hexec, hcheck'⟩ := ih (hcalm.deal _ _ _) hcheck₁' (h.deal _) hrest
      rw [check_deal] at hcheck'
      refine ⟨c', ?_, hcheck'⟩
      simp only
      refine (exec_bind_of_ok happly).trans ((exec_bind_of_ok hexec).trans ?_)
      simp [hmsg, dealAll, Treatment.ofChoice]

/-- Then the others are dealt with. -/
theorem exec_forM_fallBack (fallback : String) (hcalm : s.Calm) (hcheck : s.check c = .ok ())
    (h : s.Pending input order) (hnone : ∀ msg ∈ order, choice msg = none) :
    ∃ c', exec answer ((order.map StoredMessage.uid).forM (fallBack input fallback)) (c, s) =
      (.ok (), c', s.dealAll input (fun msg => .ofChoice input fallback (choice msg)) order) := by
  induction order generalizing s c with
  | nil => exact ⟨c, rfl⟩
  | cons msg rest ih =>
    obtain ⟨hmsg, hrest⟩ := List.forall_mem_cons.mp hnone
    obtain ⟨c₁, hfall, hcheck₁⟩ := exec_fallBack_pending hcalm hcheck h fallback
    have hcheck₁' : (s.deal input (.ofFallback input fallback) msg).check c₁ = .ok () := by
      rw [check_deal, hcheck₁]
    obtain ⟨c', hexec⟩ := ih (hcalm.deal _ _ _) hcheck₁' (h.deal _) hrest
    refine ⟨c', ?_⟩
    rw [List.map_cons]
    refine (exec_bind_of_ok hfall).trans (hexec.trans ?_)
    simp [dealAll, Treatment.ofChoice, hmsg]

/-- The messages in the order in which they are dealt with: those that a filter matches, and
then the others. -/
def dealt (choice : StoredMessage → Option Filter) (candidates : List StoredMessage) :
    List StoredMessage :=
  (candidates.filter fun msg => (choice msg).isSome) ++
    candidates.filter fun msg => (choice msg).isNone

theorem dealt_perm (choice : StoredMessage → Option Filter) (candidates : List StoredMessage) :
    (dealt choice candidates).Perm candidates := by
  have hnone : (candidates.filter fun msg => (choice msg).isNone) =
      candidates.filter fun msg => !(choice msg).isSome :=
    List.filter_congr fun msg _ => by simp
  rw [dealt, hnone]
  exact List.filter_append_perm _ candidates

theorem pending_candidates (hs : s.Sound) (hinput : s.mailboxes.has input = true)
    (excluded : List Flag) : s.Pending input ((s.box input).candidates excluded) where
  sound := hs
  found := hinput
  here := fun _ hmsg => List.mem_of_mem_filter hmsg
  once := (hs.box input).nodup_uids.sublist (List.filter_sublist.map _)

/-- Sorting deals with all candidates, and nothing else. -/
theorem exec_sort (hs : s.Sound) (hcalm : s.Calm) (hcheck : s.check c = .ok ())
    (hinput : s.mailboxes.has input = true) (excluded : List Flag) (fallback : String)
    (filters : Assoc Filter) {headers : StoredMessage → Header.Map}
    (hheaders : ∀ msg ∈ (s.box input).candidates excluded,
      Header.ofBlock msg.header .empty = .ok (headers msg))
    (hchoice : ∀ msg ∈ (s.box input).candidates excluded,
      Filter.firstMatch (headers msg) (Filter.ordered filters) = .ok (choice msg)) :
    ∃ c', exec answer (sort input excluded fallback filters) (c, s) =
      (.ok ⟨(((s.box input).candidates excluded).filter fun msg => (choice msg).isSome).length,
          (((s.box input).candidates excluded).filter fun msg => (choice msg).isNone).length⟩, c',
        s.dealAll input (fun msg => .ofChoice input fallback (choice msg))
          (dealt choice ((s.box input).candidates excluded))) := by
  set candidates := (s.box input).candidates excluded with hcandidates
  have hpending : s.Pending input candidates := pending_candidates hs hinput excluded
  have hfetch := exec_searchAndFetch hs hcheck (hcalm.mailbox_of_has hinput) excluded hheaders
  obtain ⟨c₁, hmatched, hcheck₁⟩ :=
    exec_applyFilters (c := c.viewing input) (Filter.ordered filters)
    fallback hcalm hcheck hpending hchoice
  have hothers : (s.dealAll input (fun msg => .ofChoice input fallback (choice msg))
      (candidates.filter fun msg => (choice msg).isSome)).Pending input
        (candidates.filter fun msg => (choice msg).isNone) :=
    (hpending.perm (dealt_perm choice candidates)).dealAll
  have hnone : ∀ msg ∈ candidates.filter fun msg => (choice msg).isNone, choice msg = none :=
    fun msg hmsg => Option.isNone_iff_eq_none.mp (List.mem_filter.mp hmsg).2
  obtain ⟨c', hfall⟩ := exec_forM_fallBack fallback (hcalm.dealAll input _ _)
    ((congrFun (check_dealAll s input _ _) c₁).trans hcheck₁) hothers hnone
  refine ⟨c', ?_⟩
  rw [sort, exec_bind_of_ok hfetch, exec_bind_of_ok hmatched]
  simp only
  rw [exec_bind_of_ok hfall, exec_pure, List.length_map, dealt, Server.dealAll, Server.dealAll,
    Server.dealAll, List.foldl_append]

theorem get?_eq_box (s : Server) (name : String) :
    s.mailboxes.get? name = if s.mailboxes.has name then some (s.box name) else none := by
  unfold Assoc.has box
  cases s.mailboxes.get? name <;> rfl

/-- **Sorting does what the filters say, and nothing else.**  If the headers of every candidate can
be read and the filters be tried on them, each candidate gets the treatment of the filter that is
first to match it, or of the fallback.  The candidates are settled where they are, every mailbox
gathers the messages bound for it behind those it has, and a mailbox is made only if there are any.
No other message is touched. -/
theorem sort_exact (settings : Settings) (hs : s.Reachable) (hseen : s.reportedMissing = [])
    (hlisted : s.hidden = []) (hmoves : s.canMove = true ∨ s.canExpungeUids = true)
    (hcheck : s.check c = .ok ()) {box : StoredMailbox} (hbox : s.mailboxes.get? input = some box)
    (excluded : List Flag) (fallback : String) {filters : Assoc Filter}
    (hfilters : filters.Ascending)
    (htried : ∀ msg ∈ box.candidates excluded, ∃ headers verdict,
      Header.ofBlock msg.header .empty = .ok headers ∧
        Filter.firstMatch headers (Filter.ordered filters) = .ok verdict) :
    ∃ choice : StoredMessage → Option Filter,
      (∀ msg ∈ box.candidates excluded, ∃ headers,
        Header.ofBlock msg.header .empty = .ok headers ∧
          Filter.IsFirst filters headers (choice msg)) ∧
      let candidates := box.candidates excluded
      let matched := candidates.filter fun msg => (choice msg).isSome
      let others := candidates.filter fun msg => (choice msg).isNone
      let treat := fun msg => Treatment.ofChoice input fallback (choice msg)
      let outcome := (session settings c).perform (Talk.sort input excluded fallback filters) s
      outcome.1 = .ok ⟨matched.length, others.length⟩ ∧
      matched.length + others.length = candidates.length ∧
      ∀ name, outcome.2.2.mailboxes.get? name =
        let arrivals := Treatment.bound treat name (matched ++ others)
        if s.mailboxes.has name || !arrivals.isEmpty then
          some ((if name = input then box.settle candidates treat else s.box name).gather
            arrivals treat)
        else none := by
  have : Nonempty Header.Map := ⟨.empty⟩
  choose! headers choice hheaders hchoice using htried
  have hcalm : s.Calm := ⟨hseen, hlisted, hmoves⟩
  have hinput : s.mailboxes.has input = true := by rw [Assoc.has, hbox, Option.isSome_some]
  obtain rfl : s.box input = box := box_eq_of_get? hbox
  have hperm := dealt_perm choice ((s.box input).candidates excluded)
  have hpending := (pending_candidates hs.sound hinput excluded).perm hperm
  obtain ⟨c', hexec⟩ :=
    exec_sort hs.sound hcalm hcheck hinput excluded fallback filters hheaders hchoice
  refine ⟨choice, fun msg hmsg => ⟨headers msg, hheaders msg hmsg,
    Filter.isFirst_of_firstMatch hfilters (hchoice msg hmsg)⟩, ?_⟩
  intro candidates matched others treat outcome
  have houtcome : (outcome.1, outcome.2.2) = (.ok ⟨matched.length, others.length⟩,
      s.dealAll input treat (dealt choice candidates)) := by
    simp only [outcome, session, Session.perform_some, backend, hexec]
    rfl
  obtain ⟨hresult, hserver⟩ := Prod.mk.inj houtcome
  refine ⟨hresult, ?_, fun name => ?_⟩
  · rw [← List.length_append]
    exact hperm.length_eq
  · have hsettle : (s.box input).settle (dealt choice ((s.box input).candidates excluded)) treat =
        (s.box input).settle candidates treat := StoredMailbox.settle_congr fun msg => hperm.mem_iff
    rw [hserver, get?_eq_box, has_dealAll hinput, box_dealAll hpending, Bool.or_comm]
    by_cases hname : name = input
    · subst hname
      rw [if_pos rfl, hsettle]
      simp only [if_pos]
      rfl
    · simp only [if_neg hname]
      rfl

/-- One candidate is moved by a filter, the other has no header that the filter looks at and is
flagged, and a message that has been read is no candidate. -/
theorem two_candidates_sorted :
    let s := ((Exchange.new "pw").run [.deliver "INBOX" [83, 58, 97, 13, 10, 13, 10] [.recent],
      .deliver "INBOX" [84, 58, 98, 13, 10, 13, 10] [], .deliver "INBOX" [65] [.seen],
      .deliver "Target" [66] []]).server
    let c : Connection := ⟨0, false, none, false⟩
    let filter : Filter :=
      ⟨0, ⟨some "Target", some ["\\Answered"], none, none⟩, [⟨[("or", [⟨"s", .one "a"⟩])]⟩]⟩
    let outcome := (session .empty c).perform (Talk.sort "INBOX" [.seen] "" [("f", filter)]) s
    (∃ matched others, outcome.1 = .ok ⟨matched, others⟩ ∧ matched + others = 2) ∧
      outcome.2.2.mailboxes =
        [("INBOX", ⟨4, [⟨2, [.flagged], [84, 58, 98, 13, 10, 13, 10]⟩, ⟨3, [.seen], [65]⟩]⟩),
          ("Target", ⟨3, [⟨1, [], [66]⟩, ⟨2, [.answered], [83, 58, 97, 13, 10, 13, 10]⟩]⟩)] := by
  intro s c filter outcome
  set box : StoredMailbox := ⟨4, [⟨1, [.recent], [83, 58, 97, 13, 10, 13, 10]⟩,
    ⟨2, [], [84, 58, 98, 13, 10, 13, 10]⟩, ⟨3, [.seen], [65]⟩]⟩ with hbox
  have hordered : Filter.ordered [("f", filter)] = [("f", filter)] := List.mergeSort_singleton _
  have htried : ∀ msg ∈ box.candidates [.seen], ∃ headers verdict,
      Header.ofBlock msg.header .empty = .ok headers ∧
        Filter.firstMatch headers (Filter.ordered [("f", filter)]) = .ok verdict := by
    rw [hordered]
    intro msg hmsg
    have hcandidates : msg = ⟨1, [.recent], [83, 58, 97, 13, 10, 13, 10]⟩ ∨
      msg = ⟨2, [], [84, 58, 98, 13, 10, 13, 10]⟩ := by
        simpa [hbox, StoredMailbox.candidates] using hmsg
    rcases hcandidates with rfl | rfl
    · exact ⟨⟨[("date", .single ""), ("message-id", .single ""), ("s", .single "a"),
        ("subject", .single "")]⟩, some filter, by decide +kernel, by decide +kernel⟩
    · exact ⟨⟨[("date", .single ""), ("message-id", .single ""), ("subject", .single ""),
        ("t", .single "b")]⟩, none, by decide +kernel, by decide +kernel⟩
  obtain ⟨choice, -, hresult, htotal, -⟩ := sort_exact .empty (s := s) ⟨"pw", _, rfl⟩ rfl rfl
    (Or.inl rfl) (c := c) rfl (rfl : s.mailboxes.get? "INBOX" = some box) [.seen] ""
    (List.pairwise_singleton _ _) htried
  refine ⟨⟨_, _, hresult, htotal⟩, ?_⟩
  simp only [outcome, Talk.sort, hordered]
  decide +kernel

end Server

end Postroom
