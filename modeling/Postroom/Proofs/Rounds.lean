import Mathlib.Logic.Function.Basic
import Postroom.Poll
import Postroom.Proofs.Conservation

/-! # Nothing is lost in the rounds

Several servers under trial make up a world, and each job is for one of them.  A job
that is careful (`Job.Careful`) stays so, and whatever is done for it keeps the mail
of all servers; so do its turns and the rounds over all jobs, however many there are
and whatever goes wrong (`mail_is_kept`).
-/

namespace Postroom

variable {ι : Type} [DecidableEq ι]

/-- One server of several as a backend. -/
def Trial.backendAt (i : ι) : Backend (ι → Trial) Connection :=
  Trial.backend.within (fun w => w i) fun t w => Function.update w i t

/-- All servers keep their mail. -/
def Trial.AllKeepMail (w w' : ι → Trial) : Prop := ∀ i, (w i).server.KeepsMail (w' i).server

namespace Trial

omit [DecidableEq ι] in
theorem AllKeepMail.refl (w : ι → Trial) : AllKeepMail w w :=
  fun i => Server.KeepsMail.refl (w i).server

omit [DecidableEq ι] in
theorem AllKeepMail.trans {w w' w'' : ι → Trial} (h : AllKeepMail w w') (h' : AllKeepMail w' w'') :
    AllKeepMail w w'' := fun i => (h i).trans (h' i)

theorem AllKeepMail.update {w : ι → Trial} {i : ι} {t : Trial}
    (h : (w i).server.KeepsMail t.server) :
    AllKeepMail w (Function.update w i t) := by
  intro j
  by_cases heq : j = i
  · subst heq
    rwa [Function.update_self]
  · rw [Function.update_of_ne heq]
    exact Server.KeepsMail.refl (w j).server

end Trial

/-! ### Sessions -/

namespace Session

variable {s : Session (ι → Trial) Connection} {i : ι}

theorem allKeepMail_perform {α : Type} {talk : Talk α} (hs : s.backend = Trial.backendAt i)
    (htalk : talk.Harmless) (w : ι → Trial) :
    (s.perform talk w).2.1.backend = Trial.backendAt i ∧
      Trial.AllKeepMail w (s.perform talk w).2.2 := by
  obtain ⟨backend, settings, handle⟩ := s
  obtain rfl : backend = Trial.backendAt i := hs
  cases handle with
  | none =>
    rw [perform_none]
    exact ⟨rfl, .refl w⟩
  | some h =>
    rw [perform_some, Trial.backendAt,
      Talk.exec_within Trial.backend (fun w => Function.update_eq_self i w)
      (fun t w => Function.update_self i t w) fun t t' w => Function.update_idem t t' w]
    exact ⟨rfl, .update (htalk (h, w i))⟩

theorem allKeepMail_connect (hs : s.backend = Trial.backendAt i) (w : ι → Trial) :
    (s.connect w).2.1.backend = Trial.backendAt i ∧ Trial.AllKeepMail w (s.connect w).2.2 := by
  obtain ⟨backend, settings, handle⟩ := s
  obtain rfl : backend = Trial.backendAt i := hs
  have hkeep : Trial.AllKeepMail w ((Trial.backendAt i).connect settings w).2 :=
    .update (Trial.keepsMail_connect settings (w i))
  unfold connect
  split
  · exact ⟨rfl, .refl w⟩
  · simp only
    split <;> next w' hw' =>
      rw [hw'] at hkeep
      exact ⟨rfl, hkeep⟩

theorem allKeepMail_disconnect (hs : s.backend = Trial.backendAt i) (w : ι → Trial) :
    (s.disconnect w).2.1.backend = Trial.backendAt i ∧
      Trial.AllKeepMail w (s.disconnect w).2.2 := by
  unfold disconnect
  split
  · exact ⟨hs, .refl w⟩
  · next h _ =>
    refine ⟨hs, ?_⟩
    rw [hs]
    exact .update (Talk.harmless_ask (r := .logout) trivial (h, w i))

end Session

/-! ### Jobs -/

/-- A job for one of the servers, whose filters mark no message for removal. -/
def Job.Careful (job : Job (ι → Trial) Connection) : Prop :=
  (∃ i, job.session.backend = Trial.backendAt i) ∧ ∀ e ∈ job.filters, e.2.commands.NeverMark

namespace Job

variable {job : Job (ι → Trial) Connection}

theorem Careful.connect (h : job.Careful) (w : ι → Trial) :
    (job.connect w).2.1.Careful ∧ Trial.AllKeepMail w (job.connect w).2.2 := by
  obtain ⟨⟨i, hi⟩, hfilters⟩ := h
  obtain ⟨hbackend, hkeep⟩ := Session.allKeepMail_connect hi w
  exact ⟨⟨⟨i, hbackend⟩, hfilters⟩, hkeep⟩

theorem Careful.sort (h : job.Careful) (w : ι → Trial) :
    (job.sort w).2.1.Careful ∧ Trial.AllKeepMail w (job.sort w).2.2 := by
  -- The filters are the same before and after, so the job is careful again.
  obtain ⟨⟨i, hi⟩, hfilters⟩ := h
  have hsort := Talk.harmless_sort job.input excludedFlags job.fallback hfilters
  obtain ⟨hbackend, hkeep⟩ := Session.allKeepMail_perform hi hsort w
  exact ⟨⟨⟨i, hbackend⟩, hfilters⟩, hkeep⟩

theorem Careful.turn (h : job.Careful) (w : ι → Trial) :
    (job.turn w).2.1.Careful ∧ Trial.AllKeepMail w (job.turn w).2.2 := by
  have hsort := h.sort w
  unfold Job.turn
  rcases hr : job.sort w with ⟨fault | tally, job', w'⟩ <;> rw [hr] at hsort
  · simp only
    split
    · obtain ⟨hcareful, hkeep⟩ := hsort.1.connect w'
      exact ⟨hcareful, hsort.2.trans hkeep⟩
    · exact hsort
  · exact hsort

theorem Careful.disconnect (h : job.Careful) (w : ι → Trial) :
    Trial.AllKeepMail w (job.disconnect w).2 := by
  obtain ⟨⟨i, hi⟩, -⟩ := h
  exact (Session.allKeepMail_disconnect hi w).2

end Job

/-! ### Rounds -/

namespace Poll

theorem allKeepMail_each
    {act : Job (ι → Trial) Connection → (ι → Trial) →
      Except Fault Unit × Job (ι → Trial) Connection × (ι → Trial)}
    (hact : ∀ job w, job.Careful →
      (act job w).2.1.Careful ∧ Trial.AllKeepMail w (act job w).2.2)
    {jobs : List (Job (ι → Trial) Connection)} (hjobs : ∀ job ∈ jobs, job.Careful) (w : ι → Trial) :
    (∀ job ∈ (each act jobs w).2.1, job.Careful) ∧ Trial.AllKeepMail w (each act jobs w).2.2 := by
  refine each_keeps (fun job w' hjob hw' => ?_) hjobs (.refl w)
  obtain ⟨hcareful, hkeep⟩ := hact job w' hjob
  exact ⟨hcareful, hw'.trans hkeep⟩

theorem allKeepMail_rounds (n : Nat) {jobs : List (Job (ι → Trial) Connection)}
    (hjobs : ∀ job ∈ jobs, job.Careful) (w : ι → Trial) :
    (∀ job ∈ (rounds n jobs w).2.1, job.Careful) ∧ Trial.AllKeepMail w (rounds n jobs w).2.2 := by
  refine rounds_keeps (fun job w' hjob hw' => ?_) n hjobs (.refl w)
  obtain ⟨hcareful, hkeep⟩ := hjob.turn w'
  exact ⟨hcareful, hw'.trans hkeep⟩

theorem allKeepMail_disconnect {jobs : List (Job (ι → Trial) Connection)}
    (hjobs : ∀ job ∈ jobs, job.Careful) (w : ι → Trial) :
    Trial.AllKeepMail w (disconnect jobs w).2 := by
  induction jobs generalizing w with
  | nil => exact .refl w
  | cons job rest ih =>
    obtain ⟨hjob, hrest⟩ := List.forall_mem_cons.mp hjobs
    exact (hjob.disconnect w).trans (ih hrest (job.disconnect w).2)

theorem allKeepMail_run (n : Nat) {jobs : List (Job (ι → Trial) Connection)}
    (hjobs : ∀ job ∈ jobs, job.Careful) (w : ι → Trial) :
    Trial.AllKeepMail w (run n jobs w).2.2 := by
  have hconnect := allKeepMail_each (fun job w hjob => hjob.connect w) hjobs w
  unfold run connect
  rcases hr : each Job.connect jobs w with ⟨fault | _, jobs', w'⟩ <;> rw [hr] at hconnect
  · exact hconnect.2
  · obtain ⟨hcareful, hrounds⟩ := allKeepMail_rounds n hconnect.1 w'
    exact (hconnect.2.trans hrounds).trans (allKeepMail_disconnect hcareful _)

/-- **No mail is lost, whatever goes wrong.**  For every content the messages that have it and are
not marked for removal do not become fewer by sorting a mailbox, and not by any number of
rounds over any jobs. -/
theorem mail_is_kept :
    (∀ (settings : Settings) (handle : Option Connection) (t : Trial) (input : String)
      (excluded : List Flag) (fallback : String) (filters : Assoc Filter),
      t.server.Reachable → (∀ e ∈ filters, e.2.commands.NeverMark) → ∀ content,
        t.server.live content ≤
          ((⟨Trial.backend, settings, handle⟩ : Session Trial Connection).perform
          (Talk.sort input excluded fallback filters) t).2.2.server.live content) ∧
    ∀ (n : Nat) (jobs : List (Job (ι → Trial) Connection)) (w : ι → Trial),
      (∀ i, (w i).server.Reachable) → (∀ job ∈ jobs, job.Careful) → ∀ i content,
        (w i).server.live content ≤ ((run n jobs w).2.2 i).server.live content := by
  constructor
  · intro settings handle t input excluded fallback filters ht hfilters content
    cases handle with
    | none => exact Nat.le_of_eq (by rw [Session.perform_none])
    | some h =>
      exact (Talk.harmless_sort input excluded fallback hfilters (h, t) ht.sound).2 content
  · intro n jobs w hw hjobs i content
    exact (allKeepMail_run n hjobs w i (hw i).sound).2 content

/-- The connection breaks in the middle of a move by copies, and the message is still there. -/
theorem mail_is_kept_midway :
    let server := ((Exchange.new "pw").run
      [.loseMove, .loseExpungeUids, .deliver "INBOX" [65] []]).server
    let t : Trial := ⟨server, [(12, .drop)], []⟩
    let filters : Assoc Filter := [("all", ⟨0, ⟨some "Archive", some ["\\Seen"], none, none⟩, []⟩)]
    let job : Job (Unit → Trial) Connection :=
      ⟨"me", .new (Trial.backendAt ()) ⟨"host", 143, "me", "pw", false, none, none, none⟩, "INBOX",
        "Archive", filters⟩
    server.live [65] = 1 ∧
      1 ≤ ((⟨Trial.backend, .empty, some ⟨0, false, none, false⟩⟩ :
        Session Trial Connection).perform
          (Talk.sort "INBOX" [.seen] "Archive" filters) t).2.2.server.live [65] ∧
      1 ≤ ((run 2 [job] fun _ => t).2.2 ()).server.live [65] := by
  intro server t filters job
  obtain ⟨hsort, hrun⟩ := mail_is_kept (ι := Unit)
  have hreachable : server.Reachable := ⟨"pw", _, rfl⟩
  have hseen : Flag.deleted ∉ ["\\Seen"].map Flag.ofString := by decide +kernel
  have hfilters : ∀ e ∈ filters, e.2.commands.NeverMark := by
    intro e he names hnames
    obtain rfl := List.mem_singleton.mp he
    rcases hnames with h | h
    · exact Option.some.inj h ▸ hseen
    · cases h
  have hjobs : ∀ j ∈ [job], j.Careful := by
    intro j hj
    obtain rfl := List.mem_singleton.mp hj
    exact ⟨⟨(), rfl⟩, hfilters⟩
  have hone : server.live [65] = 1 := by decide
  refine ⟨hone, ?_, ?_⟩
  · exact hone ▸ hsort .empty _ t "INBOX" [.seen] "Archive" filters hreachable hfilters [65]
  · exact hone ▸ hrun 2 [job] (fun _ => t) (fun _ => hreachable) hjobs () [65]

end Poll

end Postroom
