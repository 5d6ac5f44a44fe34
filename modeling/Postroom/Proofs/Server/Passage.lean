import Postroom.Proofs.Interruption
import Postroom.Proofs.Server.Errand

/-! # What messages go through

On a server on which nothing stands in the way each talk about a message goes through a
few states, which are told here one by one (`Talk.Passes`): a move goes through the server
with its target made, changes of flags go through one server for each of them, and so what
is done with a message goes through the servers midway (`passes_dispatch`).  Filters and
fallback deal with one message after the other (`passes_applyFilters`,
`passes_forM_fallBack`), and the connection can be used all the while.
-/

namespace Postroom

namespace Talk

open Server

variable {α β : Type} {P Q : Server → Prop} {s : Server} {c : Connection} {input name : String}
  {msg : StoredMessage} {rest : List StoredMessage}

/-- In every state that the talk goes through the connection can be used, and the server has a
property. -/
def Passes (P : Server → Prop) (talk : Talk α) (c : Connection) (s : Server) : Prop :=
  Through Server.answer (fun x => x.2.check x.1 = .ok () ∧ P x.2) talk (c, s)

theorem passes_pure {a : α} (hcheck : s.check c = .ok ()) (h : P s) : Passes P (pure a) c s :=
  through_pure ⟨hcheck, h⟩

theorem passes_bind {talk : Talk α} {f : α → Talk β} (ht : Passes P talk c s)
    (hf : ∀ a c' s', exec Server.answer talk (c, s) = (.ok a, c', s') → Passes P (f a) c' s') :
    Passes P (talk >>= f) c s := through_bind ht fun a x hx => hf a x.1 x.2 hx

theorem Passes.mono {talk : Talk α} (h : Passes P talk c s) (hPQ : ∀ s, P s → Q s) :
    Passes Q talk c s := Through.mono h fun _ hx => ⟨hx.1, hPQ _ hx.2⟩

/-- What comes behind a talk that ends well, if there is nothing more to do. -/
theorem passes_bind_pure {talk : Talk α} {f : α → β} (ht : Passes P talk c s) :
    Passes P (talk >>= fun a => pure (f a)) c s := by
  refine passes_bind ht fun a c' s' hexec => ?_
  have hend := Through.finish ht
  rw [hexec] at hend
  exact hend

/-- What comes behind a talk that leaves the server as it is. -/
theorem passes_bind_of_idle {talk : Talk α} {f : α → Talk β} (ht : Passes (· = s) talk c s)
    (h : P s) (hf : ∀ a c', exec Server.answer talk (c, s) = (.ok a, c', s) → s.check c' = .ok () →
      Passes P (f a) c' s) : Passes P (talk >>= f) c s := by
  refine passes_bind (ht.mono fun _ heq => heq ▸ h) fun a c' s' hexec => ?_
  have hend := Through.finish ht
  rw [hexec] at hend
  obtain ⟨hcheck, rfl⟩ := hend
  exact hf a c' hexec hcheck

/-- Opening a mailbox leaves the server as it is. -/
theorem passes_openMailbox (hcheck : s.check c = .ok ()) (name : String) (readOnly : Bool) :
    Passes (· = s) (openMailbox name readOnly false) c s := by
  have hanswer : ∀ again, s.check (s.openMailbox c name again).2 = .ok () := by
    intro again
    rw [Server.openMailbox, hcheck]
    cases s.mailbox name <;> exact hcheck
  have honce : Passes (· = s) (openOnce name readOnly) c s := by
    unfold openOnce
    split
    · exact through_attempt ⟨hcheck, rfl⟩ ⟨hanswer true, rfl⟩
    · exact through_attempt ⟨hcheck, rfl⟩ ⟨hanswer false, rfl⟩
  refine passes_bind_of_idle honce rfl fun reply c' _ hcheck' => ?_
  cases reply with
  | ok status => exact passes_pure hcheck' rfl
  | error fault => exact through_throw ⟨hcheck', rfl⟩

theorem passes_setFlags {m : StoredMailbox} (hcheck : s.check c = .ok ())
    (hm : s.mailbox name = .ok m) (uids : List Uid) (mode : StoreMode) (flags : List Flag)
    (hbefore : P s) (hafter : P (s.put name (m.store uids mode flags))) :
    Passes P (setFlags name uids mode flags false) c s := by
  refine passes_bind_of_idle (passes_openMailbox hcheck name false) hbefore fun _ c' hexec _ => ?_
  obtain ⟨told, hselect⟩ := answer_select_of_ok hcheck hm
  rw [exec_openMailbox_select, hselect] at hexec
  obtain ⟨-, rfl, -⟩ := hexec
  have hstore := answer_store (writable_at hcheck name) hm uids mode flags
  refine passes_bind (through_ask ⟨hcheck, hbefore⟩ ?_) fun _ c' s' hexec => ?_
  · rw [hstore]
    exact ⟨hcheck, hafter⟩
  · rw [exec_ask, hstore] at hexec
    obtain ⟨-, rfl, rfl⟩ := hexec
    exact ⟨hcheck, hafter⟩

/-- Changes of flags go through a server for each number of them that are made. -/
theorem passes_changeFlags (hcheck : s.check c = .ok ()) (hseen : name ∉ s.reportedMissing)
    (uid : Uid) {changes : List (StoreMode × List Flag)} {m : StoredMailbox}
    (hP : ∀ front, front <+: changes → P (s.put name (m.reflag uid (reviseBy front)))) :
    Passes P (changeFlags name uid changes) c (s.put name m) := by
  have hm : ∀ m, (s.put name m).mailbox name = .ok m := fun m =>
    mailbox_eq_ok_iff.mpr ⟨hseen, by rw [get?_put, if_pos rfl]⟩
  have hbefore : P (s.put name m) := by
    have hnone := hP [] List.nil_prefix
    have hrevise : reviseBy [] = fun flags => flags := rfl
    rwa [hrevise, StoredMailbox.reflag_id] at hnone
  induction changes generalizing c m with
  | nil => exact ⟨hcheck, hbefore⟩
  | cons change rest ih =>
    set made := m.reflag uid (combine change.1 (keptFlags change.2)) with hmade
    have hstore : (s.put name m).put name (m.store [uid] change.1 change.2) = s.put name made := by
      rw [put_put_self, StoredMailbox.store_eq_reflag]
    have hrest : ∀ front, front <+: rest → P (s.put name (made.reflag uid (reviseBy front))) := by
      intro front hfront
      have hcons := hP (change :: front) (List.cons_prefix_cons.mpr ⟨rfl, hfront⟩)
      rwa [hmade, StoredMailbox.reflag_reflag]
    have hafter : P (s.put name made) :=
      hP [change] (List.cons_prefix_cons.mpr ⟨rfl, List.nil_prefix⟩)
    refine passes_bind (passes_setFlags (s := s.put name m) hcheck (hm m) [uid] change.1 change.2
      hbefore ?_) fun _ c' s' hexec => ?_
    · rw [hstore]
      exact hafter
    · rw [exec_setFlags (s := s.put name m) hcheck (hm m) [uid] change.1 change.2, hstore] at hexec
      obtain ⟨-, rfl, rfl⟩ := hexec
      exact ih (c := c.at name) hcheck hrest hafter

/-! ### Moving -/

theorem passes_moveOnce {source target : String} {uids : List Uid} {box dest : StoredMailbox}
    (hcan : s.canMove = true) (hw : s.writable c = .ok source) (hb : s.mailbox source = .ok box)
    (hd : s.mailbox target = .ok dest) (hbefore : P s) (hafter : P (s.moved source target uids)) :
    Passes P (moveOnce uids target) c s := by
  have hcheck := (writable_eq_ok_iff.mp hw).1
  have hanswer := answer_move_of_ok hcan hw hb hd uids
  refine passes_bind (through_attempt ⟨hcheck, hbefore⟩ ?_) fun reply c' s' hexec => ?_
  · rw [hanswer]
    exact ⟨hcheck, hafter⟩
  · rw [exec_attempt, hanswer] at hexec
    obtain ⟨rfl, rfl, rfl⟩ := hexec
    exact ⟨hcheck, hafter⟩

theorem passes_list (hcheck : s.check c = .ok ()) : Passes (· = s) list c s :=
  passes_bind_pure (through_ask ⟨hcheck, rfl⟩ ⟨hcheck, rfl⟩)

/-- A move goes through the server as it was, the one with the target made, and the last one. -/
theorem passes_move (hcalm : s.Calm) (hcan : s.canMove = true) (hcheck : s.check c = .ok ())
    (h : s.Pending input (msg :: rest)) {target : String} (hbefore : P s)
    (hmade : s.mailboxes.has target = false → P (s.put target .empty))
    (hafter : P (s.deal input (.moveTo target) msg)) :
    Passes P (move [msg.uid] input target) c s := by
  have hinput := hcalm.mailbox_of_has h.found
  refine passes_bind_of_idle (passes_openMailbox hcheck input false) hbefore fun _ c' hexec _ => ?_
  obtain ⟨told, hselect⟩ := answer_select_of_ok hcheck hinput
  rw [exec_openMailbox_select, hselect] at hexec
  obtain ⟨-, rfl, -⟩ := hexec
  have hw := writable_at hcheck input
  rw [← moved_pending h target] at hafter
  cases hhas : s.mailboxes.has target with
  | true =>
    have hdest := hcalm.mailbox_of_has hhas
    refine through_tryCatch (passes_moveOnce hcan hw hinput hdest hbefore hafter)
      fun fault x hexec => ?_
    rw [exec_moveOnce (Or.inl hcan) hw hinput hdest (Or.inr (h.sound.unclaimed input msg.uid))]
      at hexec
    cases hexec
  | false =>
    have hmissing := hcalm.mailbox_of_not_has hhas
    have hanswer := answer_move_of_error hcan hw hmissing [msg.uid]
    have hfirst : Passes P (moveOnce [msg.uid] target) (c.at input) s := by
      refine passes_bind (through_attempt ⟨hcheck, hbefore⟩ ?_) fun reply c' s' hexec => ?_
      · rw [hanswer]
        exact ⟨hcheck, hbefore⟩
      · rw [exec_attempt, hanswer] at hexec
        obtain ⟨rfl, rfl, rfl⟩ := hexec
        exact ⟨hcheck, hbefore⟩
    refine through_tryCatch hfirst fun fault x hexec => ?_
    rw [exec_moveOnce_of_error hw hmissing] at hexec
    obtain ⟨rfl, rfl⟩ := hexec
    -- The target is missing and not listed, so it is made.
    have hfault : (missing target).isMailboxMissing = true := rfl
    simp only [hfault, Bool.not_true, Bool.false_eq_true, if_false]
    obtain ⟨table, hlist, htable⟩ := exec_list (s := s) (c := c.at input) hcheck
    have hlists : table.has target = false := by rw [htable, lists, hhas, Bool.false_and]
    refine passes_bind_of_idle (passes_list (c := c.at input) hcheck) hbefore fun _ c' hexec _ => ?_
    rw [hlist] at hexec
    obtain ⟨rfl, rfl, -⟩ := hexec
    rw [hlists]
    have hcreate := answer_create (c := c.at input) hcheck hhas
    refine passes_bind (through_ask ⟨hcheck, hbefore⟩ ?_) fun _ c' s' hexec => ?_
    · rw [hcreate]
      exact ⟨hcheck, hmade hhas⟩
    · rw [exec_ask, hcreate] at hexec
      obtain ⟨-, rfl, rfl⟩ := hexec
      -- The target is not the input, which is there.
      have hne : input ≠ target := by
        rintro rfl
        rw [h.found] at hhas
        cases hhas
      have hsource := (mailbox_put_of_ne hne StoredMailbox.empty).trans hinput
      have hcalm' : (s.put target .empty).Calm := ⟨hcalm.seen, hcalm.listed, hcalm.moves⟩
      have hthere : (s.put target .empty).mailboxes.has target = true := by simp [has_put]
      have hdest := hcalm'.mailbox_of_has hthere
      rw [← moved_put_empty hne (box_eq_empty hhas)] at hafter
      exact passes_moveOnce (s := s.put target .empty) hcan hw hsource hdest (hmade hhas) hafter

/-- What is done with a message that is pending goes through the servers midway. -/
theorem passes_dispatch (hcalm : s.Calm) (hcan : s.canMove = true) (hcheck : s.check c = .ok ())
    (h : s.Pending input (msg :: rest)) (e : Errand) (hP : ∀ t, Midway s input e msg t → P t) :
    Passes P (dispatch e input msg.uid) c s := by
  have hbefore : P s := hP s .untouched
  unfold dispatch
  cases htarget : e.target with
  | none =>
    have hinput := hcalm.mailbox_of_has h.found
    have hfront : ∀ front, front <+: e.changes →
        P (s.put input ((s.box input).reflag msg.uid (reviseBy front))) := by
      intro front hfront
      have hmidway := hP _ (.changed hfront)
      rwa [Server.deal, show (e.upTo front).treatment.target = none from htarget] at hmidway
    have hall := passes_changeFlags (s := s) hcheck (by simp [hcalm.seen]) msg.uid hfront
    rwa [put_get?_self h.sound hinput] at hall
  | some target =>
    have hmoved : s.deal input (e.upTo []).treatment msg = s.deal input (.moveTo target) msg := by
      simp only [Server.deal, show (e.upTo []).treatment.target = some target from htarget]
      rfl
    have hafter : P (s.deal input (.moveTo target) msg) := hmoved ▸ hP _ (.changed List.nil_prefix)
    have hmove := passes_move hcalm hcan hcheck h hbefore
      (fun hnew => hP _ (.made htarget hnew)) hafter
    refine passes_bind hmove fun moved c' s' hexec => ?_
    have hcalm' := hcalm.deal input (.moveTo target) msg
    have hthere : (s.deal input (.moveTo target) msg).mailboxes.has target = true := by
      rw [has_deal h.found]
      simp [Treatment.moveTo]
    have hbox := hcalm'.mailbox_of_has hthere
    have hcheck' : (s.deal input (.moveTo target) msg).check (s.departed c input) = .ok () := by
      rw [check_deal, departed, hcalm.mailbox_of_has h.found]
      exact hcheck
    have hfront : ∀ front, front <+: e.changes → P ((s.deal input (.moveTo target) msg).put target
        (((s.deal input (.moveTo target) msg).box target).reflag (s.box target).uidNext
          (reviseBy front))) := by
      intro front hfront
      have hmidway := hP _ (.changed hfront)
      rwa [← reflag_deal_moveTo h (t := (e.upTo front).treatment) htarget] at hmidway
    rw [exec_move (Or.inl hcan) hcheck (Or.inr (h.sound.unclaimed input msg.uid)),
      relocate_pending hcalm h target] at hexec
    obtain ⟨rfl, rfl, rfl⟩ := hexec
    have hall := passes_changeFlags hcheck' (by simp [hcalm'.seen]) (s.box target).uidNext hfront
    rwa [put_get?_self (h.sound_deal _) hbox] at hall

/-! ### Sorting -/

theorem passes_searchAndFetch (hcheck : s.check c = .ok ()) (mailbox : String)
    (criteria : Criteria) : Passes (· = s) (searchAndFetch mailbox criteria) c s := by
  have hopen : ∀ {c : Connection}, s.check c = .ok () →
      Passes (· = s) (openMailbox mailbox true false) c s :=
    fun hcheck => passes_openMailbox hcheck mailbox true
  have hask : ∀ {c : Connection} {r : Request}, s.check c = .ok () →
      (answer r (c, s)).2 = (c, s) → Passes (· = s) (ask r) c s := by
    intro c r hcheck hidle
    refine through_ask ⟨hcheck, rfl⟩ ?_
    rw [hidle]
    exact ⟨hcheck, rfl⟩
  have hsearch : Passes (· = s) (search mailbox criteria) c s :=
    passes_bind_of_idle (hopen hcheck) rfl fun _ c' _ hcheck' => hask hcheck' rfl
  refine passes_bind_of_idle hsearch rfl fun uids c' _ hcheck' => ?_
  split
  · exact passes_pure hcheck' rfl
  · refine passes_bind_of_idle (hopen hcheck') rfl fun _ c' _ hcheck' => ?_
    refine passes_bind_of_idle (hask hcheck' rfl) rfl fun fetched c' _ hcheck' => ?_
    rw [mapM_mk_pure]
    exact ⟨hcheck', rfl⟩

variable {order : List StoredMessage} {choice : StoredMessage → Option Filter}

/-- What is to be done with each message, given the filters that were chosen. -/
abbrev errands (input fallback : String) (choice : StoredMessage → Option Filter) :
    StoredMessage → Errand := fun msg => .ofChoice input fallback (choice msg)

theorem exec_dispatch_pending (hcalm : s.Calm) (hcheck : s.check c = .ok ())
    (h : s.Pending input (msg :: rest)) (fallback : String)
    (choice : StoredMessage → Option Filter) :
    ∃ c', exec answer (dispatch (errands input fallback choice msg) input msg.uid) (c, s) =
        (.ok (), c', s.deal input (errands input fallback choice msg).treatment msg) ∧
      s.check c' = .ok () := by
  rw [Errand.treatment_ofChoice]
  unfold errands Errand.ofChoice
  cases choice msg with
  | some filter =>
    rw [← apply_eq_dispatch]
    exact exec_apply_pending hcalm hcheck h filter.commands
  | none =>
    rw [← fallBack_eq_dispatch]
    exact exec_fallBack_pending hcalm hcheck h fallback

/-- The first message is dealt with, and then the others are. -/
theorem passes_dispatch_bind {others : List StoredMessage} {f : Unit → Talk α} (hcalm : s.Calm)
    (hcan : s.canMove = true) (hcheck : s.check c = .ok ()) (h : s.Pending input (msg :: rest))
    (hP : ∀ t, Partway input (errands input fallback choice) s (msg :: others) t → P t)
    (hf : ∀ c' t, t.Calm → t.canMove = true → t.check c' = .ok () → t.Pending input rest →
      (∀ u, Partway input (errands input fallback choice) t others u → P u) →
        Passes P (f ()) c' t) :
    Passes P (dispatch (errands input fallback choice msg) input msg.uid >>= f) c s := by
  have hfirst := passes_dispatch hcalm hcan hcheck h (errands input fallback choice msg)
    fun t ht => hP t (.here ht)
  refine passes_bind hfirst fun _ c' t hexec => ?_
  obtain ⟨c₁, hend, hcheck₁⟩ := exec_dispatch_pending hcalm hcheck h fallback choice
  obtain ⟨-, rfl, rfl⟩ := hend.symm.trans hexec
  refine hf c' _ (hcalm.deal _ _ _) ?_ ?_ (h.deal _) fun u hu => hP u (.next hu)
  · rw [(rearranged_deal s input _ msg).canMove, hcan]
  · rw [check_deal, hcheck₁]

theorem passes_applyFilters (filters : List (String × Filter)) (fallback : String)
    {headers : StoredMessage → Header.Map} (hcalm : s.Calm) (hcan : s.canMove = true)
    (hcheck : s.check c = .ok ()) (h : s.Pending input order)
    (hchoice : ∀ msg ∈ order, Filter.firstMatch (headers msg) filters = .ok (choice msg))
    (hP : ∀ t, Partway input (errands input fallback choice) s
      (order.filter fun msg => (choice msg).isSome) t → P t) :
    Passes P
      (applyFilters input filters (order.map fun msg => msg.asFetched (headers msg))) c s := by
  induction order generalizing s c with
  | nil => exact passes_pure hcheck (hP s (.nil s))
  | cons msg rest ih =>
    obtain ⟨hfirst, hrest⟩ := List.forall_mem_cons.mp hchoice
    have hstart := hP s (Partway.start _ _ _ _)
    rw [List.map_cons, applyFilters]
    refine passes_bind (show Passes P _ c s from ⟨hcheck, hstart⟩) fun chosen c' s' hexec => ?_
    rw [exec_mk_pure] at hexec
    simp only [StoredMessage.asFetched, hfirst] at hexec
    obtain ⟨rfl, rfl, rfl⟩ := hexec
    cases hmsg : choice msg with
    | none =>
      rw [List.filter_cons_of_neg (by simp [hmsg])] at hP
      exact passes_bind_pure (ih hcalm hcan hcheck h.tail hrest hP)
    | some filter =>
      rw [List.filter_cons_of_pos (by simp [hmsg])] at hP
      have herrand : errands input fallback choice msg = .ofCommands filter.commands := by
        simp only [errands, hmsg, Errand.ofChoice]
      simp only [StoredMessage.asFetched, apply_eq_dispatch]
      rw [← herrand]
      exact passes_dispatch_bind hcalm hcan hcheck h hP fun c' t hcalm' hcan' hcheck' h' hP' =>
        passes_bind_pure (ih hcalm' hcan' hcheck' h' hrest hP')

theorem passes_forM_fallBack {fallback : String} (hcalm : s.Calm) (hcan : s.canMove = true)
    (hcheck : s.check c = .ok ()) (h : s.Pending input order)
    (hnone : ∀ msg ∈ order, choice msg = none)
    (hP : ∀ t, Partway input (errands input fallback choice) s order t → P t) :
    Passes P ((order.map StoredMessage.uid).forM (fallBack input fallback)) c s := by
  induction order generalizing s c with
  | nil => exact passes_pure hcheck (hP s (.nil s))
  | cons msg rest ih =>
    obtain ⟨hmsg, hrest⟩ := List.forall_mem_cons.mp hnone
    have herrand : errands input fallback choice msg = .ofFallback input fallback := by
      simp only [errands, hmsg, Errand.ofChoice]
    rw [List.map_cons, List.forM, fallBack_eq_dispatch, ← herrand]
    exact passes_dispatch_bind hcalm hcan hcheck h hP fun c' t hcalm' hcan' hcheck' h' hP' =>
      ih hcalm' hcan' hcheck' h' hrest hP'

end Talk

end Postroom
