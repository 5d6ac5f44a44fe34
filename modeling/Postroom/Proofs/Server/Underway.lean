import Postroom.Proofs.Rule.Meaning
import Postroom.Proofs.Server.Passage

/-! # Sorting under way

If no rule fails, which filter is chosen for a message depends on its content alone
(`Filter.chosen`).  So it can be said beforehand what is to be done with each message, in
which order, and what comes of it (`Server.errand`, `Server.inTurn`, `Server.sorted`).
Sorting goes through servers on which that is under way, and through no others
(`passes_sort`); if some of the messages cannot be read, nothing is done
(`passes_sort_of_not_readable`).
-/

namespace Postroom

namespace Filter

variable {filters : Assoc Filter} {headers : Header.Map}

/-- The rules of every filter can be tried, whatever the headers are. -/
def Decided (filters : Assoc Filter) : Prop :=
  ∀ e ∈ filters, ∀ headers, ∃ holds, Rule.anyHolds e.2.rules headers = .ok holds

/-- It is enough that each pattern can be tried on any text. -/
theorem Decided.of_plain (h : ∀ e ∈ filters, ∀ rule ∈ e.2.rules, rule.Plain ∧
    ∀ o ∈ rule.operators, ∀ p ∈ o.2, ∀ pattern ∈ p.alternatives.patterns, ∀ text,
      ∃ b, Rule.matchText pattern text = .ok b) : Decided filters := by
  intro e he headers
  have hanswers : ∀ rule ∈ e.2.rules, Answers (rule.holds headers) (rule.Matches headers) := by
    intro rule hrule
    obtain ⟨hplain, hpatterns⟩ := h e he rule hrule
    exact hplain.answers fun o ho p hp _ _ pattern hpattern text _ =>
      hpatterns o ho p hp pattern hpattern text
  obtain ⟨holds, hholds, -⟩ := Rule.anyM_answers hanswers
  exact ⟨holds, hholds⟩

/-- So a rule of one empty pattern never fails. -/
theorem Decided.of_empty (name : String) (priority : Int) (commands : Commands) (key : String) :
    Decided [(name, ⟨priority, commands, [⟨[("or", [⟨key, .one ""⟩])]⟩]⟩)] := by
  refine .of_plain fun e he rule hrule => ?_
  obtain rfl := List.mem_singleton.mp he
  obtain rfl := List.mem_singleton.mp hrule
  refine ⟨⟨List.pairwise_singleton _ _, fun _ hname => Or.inr (List.mem_singleton.mp hname)⟩, ?_⟩
  intro o ho p hp pattern hpattern text
  obtain rfl := List.mem_singleton.mp ho
  obtain rfl := List.mem_singleton.mp hp
  obtain rfl := List.mem_singleton.mp hpattern
  exact ⟨_, rfl⟩

/-- The filter that is first to match messages of a content, if their headers can be read. -/
def chosen (filters : Assoc Filter) (content : List UInt8) : Option Filter :=
  match Header.ofBlock (StoredMessage.header ⟨0, [], content⟩) .empty with
  | .error _ => none
  | .ok headers =>
    match firstMatch headers (ordered filters) with
    | .error _ => none
    | .ok choice => choice

theorem firstMatch_eq_ok {l : List (String × Filter)}
    (h : ∀ e ∈ l, ∃ holds, Rule.anyHolds e.2.rules headers = .ok holds) :
    ∃ choice, firstMatch headers l = .ok choice := by
  induction l with
  | nil => exact ⟨none, rfl⟩
  | cons head rest ih =>
    obtain ⟨name, filter⟩ := head
    obtain ⟨⟨holds, hholds⟩, hrest⟩ := List.forall_mem_cons.mp h
    rw [firstMatch, hholds]
    cases holds with
    | true => exact ⟨some filter, rfl⟩
    | false => exact ih hrest

/-- Filters that can be tried choose as they are tried. -/
theorem firstMatch_chosen (h : Decided filters) {msg : StoredMessage}
    (hheaders : Header.ofBlock msg.header .empty = .ok headers) :
    firstMatch headers (ordered filters) = .ok (chosen filters msg.content) := by
  have htried : ∀ e ∈ ordered filters, ∃ holds, Rule.anyHolds e.2.rules headers = .ok holds :=
    fun e he => h e (List.mem_mergeSort.mp he) headers
  obtain ⟨choice, hchoice⟩ := firstMatch_eq_ok htried
  have hsame : StoredMessage.header ⟨0, [], msg.content⟩ = msg.header := rfl
  rw [chosen, hsame, hheaders]
  simp only [hchoice]

end Filter

namespace Server

open Talk

variable {s : Server} {c : Connection} {input fallback : String} {excluded : List Flag}
  {filters : Assoc Filter} {P : Server → Prop}

/-- A server on which the messages to be sorted can be read. -/
structure Readable (s : Server) (input : String) (excluded : List Flag) : Prop where
  /-- There is the mailbox. -/
  found : s.mailboxes.has input = true
  /-- All headers can be read. -/
  headers : ∀ msg ∈ (s.box input).candidates excluded,
    ∃ headers, Header.ofBlock msg.header .empty = .ok headers

theorem exec_searchAndFetch_of_not_has (hcalm : s.Calm) (hcheck : s.check c = .ok ())
    (hinput : s.mailboxes.has input = false) (criteria : Criteria) :
    exec answer (searchAndFetch input criteria) (c, s) = (.error (missing input), c.closed, s) := by
  have hexamine : answer (.examine input) (c, s) = (.error (missing input), c.closed, s) := by
    simp only [answer, openMailbox, hcheck, hcalm.mailbox_of_not_has hinput]
    rfl
  have hsearch : exec answer (search input criteria) (c, s) =
      (.error (missing input), c.closed, s) := by
    rw [search, exec_bind, exec_openMailbox_examine, hexamine]
  exact exec_bind_of_error hsearch

/-- Nothing is gathered otherwise. -/
theorem readable_of_gathered (hs : s.Sound) (hcalm : s.Calm) (hcheck : s.check c = .ok ())
    {messages : List Message} {x : Connection × Server}
    (h : exec answer (searchAndFetch input ⟨[], excluded⟩) (c, s) = (.ok messages, x)) :
    s.Readable input excluded := by
  cases hfound : s.mailboxes.has input with
  | true =>
    exact ⟨hfound, headers_of_exec_searchAndFetch hs hcheck (hcalm.mailbox_of_has hfound) h⟩
  | false =>
    rw [exec_searchAndFetch_of_not_has hcalm hcheck hfound] at h
    cases h

/-- If nothing is gathered, it is not for the connection. -/
theorem isDisconnect_of_gathered (hcalm : s.Calm) (hcheck : s.check c = .ok ())
    {criteria : Criteria} {fault : Fault} {x : Connection × Server}
    (h : exec answer (searchAndFetch input criteria) (c, s) = (.error fault, x)) :
    fault.isDisconnect = false := by
  cases hfound : s.mailboxes.has input with
  | true => exact isDisconnect_of_exec_searchAndFetch hcheck (hcalm.mailbox_of_has hfound) h
  | false =>
    rw [exec_searchAndFetch_of_not_has hcalm hcheck hfound] at h
    obtain rfl := Except.error.inj (Prod.mk.inj h).1
    rfl

/-- The order in which the messages are dealt with. -/
def inTurn (s : Server) (input : String) (excluded : List Flag) (filters : Assoc Filter) :
    List StoredMessage :=
  dealt (fun msg => Filter.chosen filters msg.content) ((s.box input).candidates excluded)

/-- What is to be done with messages of a content. -/
def errand (input fallback : String) (filters : Assoc Filter) (content : List UInt8) : Errand :=
  .ofChoice input fallback (Filter.chosen filters content)

/-- The server after the messages were sorted. -/
def sorted (s : Server) (input : String) (excluded : List Flag) (fallback : String)
    (filters : Assoc Filter) : Server :=
  s.dealAll input (fun msg => (errand input fallback filters msg.content).treatment)
    (s.inTurn input excluded filters)

theorem exec_sort_of_readable (hs : s.Sound) (hcalm : s.Calm) (hcheck : s.check c = .ok ())
    (hdecided : Filter.Decided filters) (h : s.Readable input excluded) (fallback : String) :
    ∃ tally c', exec answer (sort input excluded fallback filters) (c, s) =
      (.ok tally, c', s.sorted input excluded fallback filters) := by
  have : Nonempty Header.Map := ⟨.empty⟩
  choose! headers hheaders using h.headers
  have hchoice : ∀ msg ∈ (s.box input).candidates excluded,
      Filter.firstMatch (headers msg) (Filter.ordered filters) =
        .ok (Filter.chosen filters msg.content) :=
    fun msg hmsg => Filter.firstMatch_chosen hdecided (hheaders msg hmsg)
  obtain ⟨c', hexec⟩ :=
    exec_sort hs hcalm hcheck h.found excluded fallback filters hheaders hchoice
  have hsorted : s.sorted input excluded fallback filters =
      s.dealAll input (fun msg => .ofChoice input fallback (Filter.chosen filters msg.content))
        (s.inTurn input excluded filters) := by
    simp only [sorted, errand, Errand.treatment_ofChoice]
  rw [hsorted]
  exact ⟨_, c', hexec⟩

theorem exec_sort_of_not_readable (hs : s.Sound) (hcalm : s.Calm) (hcheck : s.check c = .ok ())
    (h : ¬ s.Readable input excluded) (fallback : String) (filters : Assoc Filter) :
    ∃ fault x, exec answer (sort input excluded fallback filters) (c, s) = (.error fault, x) ∧
      fault.isDisconnect = false := by
  rcases hgather : exec answer (searchAndFetch input ⟨[], excluded⟩) (c, s) with
    ⟨fault | messages, x⟩
  · exact ⟨fault, x, exec_bind_of_error hgather, isDisconnect_of_gathered hcalm hcheck hgather⟩
  · exact absurd (readable_of_gathered hs hcalm hcheck hgather) h

/-- Nothing is done if the messages cannot be read. -/
theorem passes_sort_of_not_readable (hs : s.Sound) (hcalm : s.Calm) (hcheck : s.check c = .ok ())
    (h : ¬ s.Readable input excluded) (fallback : String) (filters : Assoc Filter) :
    Passes (· = s) (sort input excluded fallback filters) c s :=
  passes_bind_of_idle (passes_searchAndFetch hcheck _ _) rfl fun _ _ hexec _ =>
    absurd (readable_of_gathered hs hcalm hcheck hexec) h

/-- Sorting goes through servers on which it is under way. -/
theorem passes_sort (hs : s.Sound) (hcalm : s.Calm) (hcan : s.canMove = true)
    (hcheck : s.check c = .ok ()) (hdecided : Filter.Decided filters) :
    Passes (Partway input (fun msg => errand input fallback filters msg.content) s
      (s.inTurn input excluded filters)) (sort input excluded fallback filters) c s := by
  refine passes_bind_of_idle (passes_searchAndFetch hcheck _ _) (.start _ _ _ _)
    fun messages c' hexec _ => ?_
  have hread := readable_of_gathered hs hcalm hcheck hexec
  have : Nonempty Header.Map := ⟨.empty⟩
  choose! headers hheaders using hread.headers
  set candidates := (s.box input).candidates excluded with hcandidates
  have hchoice : ∀ msg ∈ candidates, Filter.firstMatch (headers msg) (Filter.ordered filters) =
      .ok (Filter.chosen filters msg.content) :=
    fun msg hmsg => Filter.firstMatch_chosen hdecided (hheaders msg hmsg)
  have hpending : s.Pending input candidates := pending_candidates hs hread.found excluded
  obtain ⟨rfl, rfl, -⟩ := (exec_searchAndFetch hs hcheck (hcalm.mailbox_of_has hread.found) excluded
    hheaders).symm.trans hexec
  have hmatched := passes_applyFilters (c := c.viewing input) (Filter.ordered filters) fallback
    hcalm hcan hcheck hpending hchoice fun t ht => ht.append_right
      (candidates.filter fun msg => (Filter.chosen filters msg.content).isNone)
  refine passes_bind hmatched fun outcome c' s' hexec => ?_
  obtain ⟨c₁, hexec', hcheck₁⟩ := exec_applyFilters (c := c.viewing input) (Filter.ordered filters)
    fallback hcalm hcheck hpending hchoice
  obtain ⟨rfl, rfl, rfl⟩ := hexec'.symm.trans hexec
  have hothers : (s.dealAll input
      (fun msg => .ofChoice input fallback (Filter.chosen filters msg.content))
      (candidates.filter fun msg => (Filter.chosen filters msg.content).isSome)).Pending input
        (candidates.filter fun msg => (Filter.chosen filters msg.content).isNone) :=
    (hpending.perm (dealt_perm _ candidates)).dealAll
  have hnone : ∀ msg ∈ candidates.filter fun msg => (Filter.chosen filters msg.content).isNone,
      Filter.chosen filters msg.content = none :=
    fun msg hmsg => Option.isNone_iff_eq_none.mp (List.mem_filter.mp hmsg).2
  refine passes_bind_pure (passes_forM_fallBack (hcalm.dealAll input _ _) ?_ ?_ hothers hnone
    fun t ht => Partway.append_left ?_)
  · rw [(rearranged_dealAll s input _ _).canMove, hcan]
  · rw [check_dealAll, hcheck₁]
  · simp only [errand, Errand.treatment_ofChoice]
    exact ht

end Server

end Postroom
