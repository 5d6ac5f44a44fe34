import Postroom.Proofs.Conservation
import Postroom.Proofs.Pass
import Postroom.Proofs.Server.Refusal

/-! # Interrupted talks

A connection that is lost answers every further request with the same fault.  All work on
mailboxes ends at the first such answer (`Talk.Heeds`), so a talk whose connection is lost
has come as far as it had when it made the request, and no further.

What it can have come to is told by the states that it goes through when nothing happens
(`Talk.Through`): a statement about each of them is a statement about the state in which
the connection was lost.  `Dialogue.run_torn` puts the two together for a server under
trial that drops its connections before it answers one of the requests.
-/

namespace Postroom

namespace Dialogue

variable {α β σ : Type} {answer : Answerer σ} {P Q : σ → Prop}

/-- Wherever the dialogue is told of a fault, it ends with it. -/
def Heeds (fault : Fault) : Dialogue (Except Fault α) → Prop
  | done _ => True
  | ask _ next => next (.error fault) = done (.error fault) ∧ ∀ reply, (next reply).Heeds fault

/-- Every state that the dialogue goes through, the last one included, has a property. -/
def Through (answer : Answerer σ) (P : σ → Prop) : Dialogue α → σ → Prop
  | done _, s => P s
  | ask r next, s => P s ∧ (next (answer r s).1).Through answer P (answer r s).2

theorem Through.finish {d : Dialogue α} {s : σ} (h : d.Through answer P s) :
    P (d.run answer s).2 := by
  induction d generalizing s with
  | done a => exact h
  | ask r next ih => exact ih _ h.2

theorem Through.mono (hPQ : ∀ s, P s → Q s) {d : Dialogue α} {s : σ} (h : d.Through answer P s) :
    d.Through answer Q s := by
  induction d generalizing s with
  | done a => exact hPQ s h
  | ask r next ih => exact ⟨hPQ s h.1, ih _ h.2⟩

theorem Through.bind {d : Dialogue α} {f : α → Dialogue β} {s : σ} (h : d.Through answer P s)
    (hf : (f (d.run answer s).1).Through answer P (d.run answer s).2) :
    (d.bind f).Through answer P s := by
  induction d generalizing s with
  | done a => exact hf
  | ask r next ih => exact ⟨h.1, ih _ h.2 hf⟩

theorem Heeds.bind {fault : Fault} {d : Dialogue (Except Fault α)}
    {f : Except Fault α → Dialogue (Except Fault β)} (hd : d.Heeds fault)
    (hfault : f (.error fault) = done (.error fault)) (hf : ∀ a, (f a).Heeds fault) :
    (d.bind f).Heeds fault := by
  induction d with
  | done a => exact hf a
  | ask r next ih =>
    refine ⟨?_, fun reply => ih reply (hd.2 reply)⟩
    show (next (.error fault)).bind f = done (.error fault)
    rw [hd.1]
    exact hfault

end Dialogue

namespace Talk

variable {α β σ : Type} {fault : Fault} {answer : Answerer σ} {P Q : σ → Prop} {s : σ}

/-! ### Talks that heed a fault -/

/-- Wherever the talk is told of a fault, it ends with it. -/
def Heeds (fault : Fault) (talk : Talk α) : Prop := talk.run.Heeds fault

theorem heeds_pure (a : α) : Heeds fault (pure a) := trivial

theorem heeds_throw (other : Fault) : Heeds fault (throw other : Talk α) := trivial

theorem heeds_mk_pure (r : Except Fault α) : Heeds fault (ExceptT.mk (pure r) : Talk α) := trivial

theorem heeds_ask (r : Request) : Heeds fault (ask r) := ⟨rfl, fun _ => trivial⟩

theorem heeds_bind {talk : Talk α} {f : α → Talk β} (ht : Heeds fault talk)
    (hf : ∀ a, Heeds fault (f a)) : Heeds fault (talk >>= f) := by
  refine Dialogue.Heeds.bind ht rfl fun result => ?_
  cases result with
  | error other => exact trivial
  | ok a => exact hf a

/-- After an attempt it counts what is made of the answer. -/
theorem heeds_attempt_bind {r : Request} {f : Except Fault r.Reply → Talk β}
    (hfault : f (.error fault) = throw fault) (hf : ∀ reply, Heeds fault (f reply)) :
    Heeds fault (attempt r >>= f) := ⟨congrArg ExceptT.run hfault, hf⟩

theorem heeds_tryCatch {talk : Talk α} {handler : Fault → Talk α} (ht : Heeds fault talk)
    (hfault : handler fault = throw fault) (hh : ∀ other, Heeds fault (handler other)) :
    Heeds fault (tryCatch talk handler) := by
  refine Dialogue.Heeds.bind ht (congrArg ExceptT.run hfault) fun result => ?_
  cases result with
  | error other => exact hh other
  | ok a => exact trivial

theorem heeds_forM {f : α → Talk PUnit} (hf : ∀ a, Heeds fault (f a)) (l : List α) :
    Heeds fault (l.forM f) := by
  induction l with
  | nil => exact heeds_pure _
  | cons a rest ih => exact heeds_bind (hf a) fun _ => ih

section Work

variable (hmissing : fault.isMailboxMissing = false) (hbad : ∀ text, fault ≠ .bad text)

include hmissing in
theorem heeds_openMailbox (mailbox : String) (readOnly autoCreate : Bool) :
    Heeds fault (openMailbox mailbox readOnly autoCreate) := by
  -- What is made of the answer to the first attempt, and to the second.
  have hopen : ∀ f : Except Fault MailboxStatus → Talk MailboxStatus,
      f (.error fault) = throw fault → (∀ reply, Heeds fault (f reply)) →
      Heeds fault (openOnce mailbox readOnly >>= f) := by
    intro f hfault hf
    unfold openOnce
    split
    · exact heeds_attempt_bind hfault hf
    · exact heeds_attempt_bind hfault hf
  refine hopen _ (by simp [hmissing]) fun reply => ?_
  cases reply with
  | ok status => exact heeds_pure status
  | error other =>
    simp only
    split
    · refine heeds_bind (heeds_ask _) fun _ => hopen _ rfl fun reply => ?_
      cases reply with
      | ok status => exact heeds_pure status
      | error again => exact heeds_throw again
    · exact heeds_throw other

include hmissing in
theorem heeds_setFlags (mailbox : String) (uids : List Uid) (mode : StoreMode) (flags : List Flag) :
    Heeds fault (setFlags mailbox uids mode flags false) :=
  heeds_bind (heeds_openMailbox hmissing mailbox false false) fun _ =>
    heeds_bind (heeds_ask _) fun _ => heeds_pure ()

include hbad in
theorem heeds_moveOnce (uids : List Uid) (target : String) :
    Heeds fault (moveOnce uids target) := by
  have hremove : Heeds fault (removeMarked uids) := by
    refine heeds_attempt_bind ?_ fun reply => ?_
    · cases fault with
      | bad text => exact absurd rfl (hbad text)
      | _ => rfl
    · rcases reply with other | _
      · cases other with
        | bad text => exact heeds_ask .expunge
        | _ => exact heeds_throw _
      · exact heeds_pure _
  refine heeds_attempt_bind ?_ fun reply => ?_
  · cases fault with
    | bad text => exact absurd rfl (hbad text)
    | _ => rfl
  · rcases reply with other | uid
    · cases other with
      | bad text =>
        exact heeds_bind (heeds_ask _) fun _ => heeds_bind (heeds_ask _) fun _ =>
          heeds_bind hremove fun _ => heeds_pure _
      | _ => exact heeds_throw _
    · exact heeds_pure uid

include hmissing hbad in
theorem heeds_move (uids : List Uid) (source target : String) :
    Heeds fault (move uids source target) := by
  refine heeds_bind (heeds_openMailbox hmissing source false false) fun _ => ?_
  refine heeds_tryCatch (heeds_moveOnce hbad uids target) (by simp [hmissing]) fun other => ?_
  split
  · exact heeds_throw other
  · refine heeds_bind (heeds_bind (heeds_ask .list) fun _ => heeds_pure _) fun table => ?_
    split
    · exact heeds_throw other
    · exact heeds_bind (heeds_ask _) fun _ => heeds_moveOnce hbad uids target

include hmissing hbad in
theorem heeds_apply (commands : Commands) (mailbox : String) (uid : Uid) :
    Heeds fault (apply commands mailbox uid) := by
  have hset : ∀ name uid mode names, Heeds fault (setFlagNames name uid mode names) := by
    intro name uid mode names
    cases names with
    | none => exact heeds_pure ()
    | some given => exact heeds_setFlags hmissing name [uid] mode _
  have hrevise : ∀ name uid, Heeds fault (reviseFlags commands name uid) := fun name uid =>
    heeds_bind (hset name uid _ _) fun _ => heeds_bind (hset name uid _ _) fun _ =>
      hset name uid _ _
  rw [apply_eq]
  cases commands.moveTo with
  | none => exact hrevise mailbox uid
  | some target =>
    exact heeds_bind (heeds_move hmissing hbad [uid] mailbox target) fun moved =>
      hrevise target (moved.getD uid)

include hmissing hbad in
theorem heeds_applyFilters (mailbox : String) (filters : List (String × Filter))
    (messages : List Message) : Heeds fault (applyFilters mailbox filters messages) := by
  induction messages with
  | nil => exact heeds_pure _
  | cons message rest ih =>
    refine heeds_bind (heeds_mk_pure _) fun choice => ?_
    cases choice with
    | none => exact heeds_bind ih fun _ => heeds_pure _
    | some filter =>
      exact heeds_bind (heeds_apply hmissing hbad filter.commands mailbox message.uid) fun _ =>
        heeds_bind ih fun _ => heeds_pure _

include hmissing in
theorem heeds_searchAndFetch (mailbox : String) (criteria : Criteria) :
    Heeds fault (searchAndFetch mailbox criteria) := by
  have hopen := heeds_openMailbox hmissing mailbox true false
  refine heeds_bind (heeds_bind hopen fun _ => heeds_ask _) fun uids => ?_
  split
  · exact heeds_pure []
  · refine heeds_bind hopen fun _ => heeds_bind (heeds_ask _) fun fetched => ?_
    rw [mapM_mk_pure]
    exact heeds_mk_pure _

include hmissing hbad in
theorem heeds_fallBack (mailbox fallback : String) (uid : Uid) :
    Heeds fault (fallBack mailbox fallback uid) := by
  unfold fallBack
  split
  · exact heeds_setFlags hmissing mailbox [uid] .add [.flagged]
  · exact heeds_bind (heeds_move hmissing hbad [uid] mailbox fallback) fun _ => heeds_pure ()

include hmissing hbad in
/-- Sorting ends with a fault that says neither that a mailbox is missing nor that a command is not
understood. -/
theorem heeds_sort (mailbox : String) (excluded : List Flag) (fallback : String)
    (filters : Assoc Filter) : Heeds fault (sort mailbox excluded fallback filters) :=
  heeds_bind (heeds_searchAndFetch hmissing mailbox _) fun messages =>
    heeds_bind (heeds_applyFilters hmissing hbad mailbox _ messages) fun outcome =>
      heeds_bind (heeds_forM (heeds_fallBack hmissing hbad mailbox fallback) outcome.2) fun _ =>
        heeds_pure _

end Work

/-! ### States that a talk goes through -/

/-- Every state that the talk goes through, the last one included, has a property. -/
def Through (answer : Answerer σ) (P : σ → Prop) (talk : Talk α) (s : σ) : Prop :=
  talk.run.Through answer P s

theorem through_pure {a : α} (h : P s) : Through answer P (pure a) s := h

theorem through_throw {fault : Fault} (h : P s) : Through answer P (throw fault : Talk α) s := h

theorem through_ask {r : Request} (h : P s) (hafter : P (answer r s).2) :
    Through answer P (ask r) s := ⟨h, hafter⟩

theorem through_attempt {r : Request} (h : P s) (hafter : P (answer r s).2) :
    Through answer P (attempt r) s := ⟨h, hafter⟩

theorem through_bind {talk : Talk α} {f : α → Talk β} (ht : Through answer P talk s)
    (hf : ∀ a s', exec answer talk s = (.ok a, s') → Through answer P (f a) s') :
    Through answer P (talk >>= f) s := by
  refine Dialogue.Through.bind ht ?_
  have hend : P (exec answer talk s).2 := Dialogue.Through.finish ht
  show Dialogue.Through answer P (ExceptT.bindCont f (exec answer talk s).1)
    (exec answer talk s).2
  rcases hexec : exec answer talk s with ⟨fault | a, s'⟩
  · rw [hexec] at hend
    exact hend
  · exact hf a s' hexec

theorem through_tryCatch {talk : Talk α} {handler : Fault → Talk α} (ht : Through answer P talk s)
    (hh : ∀ fault s', exec answer talk s = (.error fault, s') →
      Through answer P (handler fault) s') :
    Through answer P (tryCatch talk handler) s := by
  refine Dialogue.Through.bind ht ?_
  have hend : P (exec answer talk s).2 := Dialogue.Through.finish ht
  rcases hexec : exec answer talk s with ⟨result, s'⟩
  rw [hexec] at hend
  have hrun : Dialogue.run answer (talk : Dialogue (Except Fault α)) s = (result, s') := hexec
  rw [hrun]
  cases result with
  | error fault => exact hh fault s' hexec
  | ok a => exact hend

theorem Through.mono {talk : Talk α} (h : Through answer P talk s) (hPQ : ∀ s, P s → Q s) :
    Through answer Q talk s := Dialogue.Through.mono hPQ h

theorem Through.finish {talk : Talk α} (h : Through answer P talk s) :
    P (exec answer talk s).2 := Dialogue.Through.finish h

end Talk

/-! ### Servers under trial -/

/-- A connection that could be used is lost when all connections are dropped. -/
theorem Server.check_dropConnections {s : Server} {c : Connection} (h : s.check c = .ok ()) :
    s.dropConnections.check c = .error .connectionLost := by
  unfold Server.check at h ⊢
  split at h
  · cases h
  · next hopen =>
    split at h
    · cases h
    · next hgeneration =>
      have hlost : s.dropConnections.generation ≠ c.generation := by
        have hsame : s.generation = c.generation := Decidable.not_not.mp hgeneration
        show s.generation + 1 ≠ c.generation
        omega
      rw [if_neg hopen, if_pos hlost]

namespace Trial

/-- Nothing that is planned can happen any more. -/
def Spent (t : Trial) : Prop := ∀ n, t.record.length < n → t.plan.lookup n = none

theorem answer_of_spent {t : Trial} (h : t.Spent) (r : Request) (c : Connection) :
    Trial.answer r (c, t) = ((Server.answer r (c, t.server)).1, (Server.answer r (c, t.server)).2.1,
      ⟨(Server.answer r (c, t.server)).2.2, t.plan, t.record ++ [r.toString]⟩) := by
  have hlookup : t.plan.lookup (t.record ++ [r.toString]).length = none := h _ (by simp)
  simp only [Trial.answer, note, hlookup]

theorem Spent.append {t : Trial} (h : t.Spent) (s : Server) (asked : String) :
    Spent ⟨s, t.plan, t.record ++ [asked]⟩ := by
  intro n hn
  refine h n ?_
  rw [List.length_append] at hn
  omega

/-- When nothing can happen any more, only the record tells a trial from the server. -/
theorem run_of_spent {α : Type} (d : Dialogue α) (c : Connection) {t : Trial} (h : t.Spent) :
    ∃ record, record.length = t.record.length + (d.transcript Server.answer (c, t.server)).length ∧
      d.run Trial.answer (c, t) = ((d.run Server.answer (c, t.server)).1,
        (d.run Server.answer (c, t.server)).2.1,
        ⟨(d.run Server.answer (c, t.server)).2.2, t.plan, record⟩) := by
  induction d generalizing c t with
  | done a => exact ⟨t.record, rfl, rfl⟩
  | ask r next ih =>
    obtain ⟨record, hlength, hrun⟩ := ih (Server.answer r (c, t.server)).1
      (Server.answer r (c, t.server)).2.1 (h.append (Server.answer r (c, t.server)).2.2 r.toString)
    have hlength' : record.length = (t.record ++ [r.toString]).length +
        ((next (Server.answer r (c, t.server)).1).transcript Server.answer
          (Server.answer r (c, t.server)).2).length := hlength
    refine ⟨record, ?_, ?_⟩
    · simp only [hlength', Dialogue.transcript, List.length_append, List.length_cons,
        List.length_nil]
      omega
    · rw [Dialogue.run_ask, answer_of_spent h]
      exact hrun

/-- A dialogue whose connection is lost has come to one of the states that it goes through. -/
theorem run_torn {α : Type} {d : Dialogue (Except Fault α)} (hheeds : d.Heeds .connectionLost)
    {P : Connection × Server → Prop} (halive : ∀ x, P x → x.2.check x.1 = .ok ()) {k : Nat}
    {c : Connection} {s : Server} {record : List String}
    (hthrough : d.Through Server.answer P (c, s)) (hlt : record.length < k)
    (hle : k ≤ record.length + (d.transcript Server.answer (c, s)).length) :
    ∃ c' t record', P (c', t) ∧ k ≤ record'.length ∧
      d.run Trial.answer (c, ⟨s, [(k, .drop)], record⟩) =
        (.error .connectionLost, c', ⟨t.dropConnections, [(k, .drop)], record'⟩) := by
  -- On the dialogue: each request but the `k`-th is answered as if nothing were planned.
  induction d generalizing c s record with
  | done a =>
    have hnone : (Dialogue.done a).transcript Server.answer (c, s) = [] := rfl
    rw [hnone, List.length_nil] at hle
    omega
  | ask r next ih =>
    have hnext : (record ++ [r.toString]).length = record.length + 1 := by simp
    by_cases hk : record.length + 1 = k
    · have hcheck := halive _ hthrough.1
      have hdead := Server.check_dropConnections (halive _ hthrough.1)
      refine ⟨c, s, record ++ [r.toString], hthrough.1, by omega, ?_⟩
      have hanswer : Trial.answer r (c, ⟨s, [(k, .drop)], record⟩) =
          (.error .connectionLost, c,
            ⟨s.dropConnections, [(k, .drop)], record ++ [r.toString]⟩) := by
        have hlookup : [(k, Mishap.drop)].lookup (record ++ [r.toString]).length = some .drop := by
          rw [hnext, hk, List.lookup_cons_self]
        simp only [Trial.answer, note, hlookup, Server.answer_of_dead hdead]
      rw [Dialogue.run_ask, hanswer, hheeds.1]
      rfl
    · have hanswer : Trial.answer r (c, ⟨s, [(k, .drop)], record⟩) =
          ((Server.answer r (c, s)).1, (Server.answer r (c, s)).2.1,
            ⟨(Server.answer r (c, s)).2.2, [(k, .drop)], record ++ [r.toString]⟩) := by
        have hlookup : [(k, Mishap.drop)].lookup (record ++ [r.toString]).length = none := by
          rw [hnext, List.lookup_cons, beq_eq_false_iff_ne.mpr hk]
          rfl
        simp only [Trial.answer, note, hlookup]
      rw [Dialogue.transcript, List.length_cons] at hle
      have hle' : k ≤ (record ++ [r.toString]).length +
          ((next (Server.answer r (c, s)).1).transcript Server.answer
            (Server.answer r (c, s)).2).length := by
        omega
      rw [Dialogue.run_ask, hanswer]
      exact ih _ (hheeds.2 _) hthrough.2 (by omega) hle'

end Trial

end Postroom
