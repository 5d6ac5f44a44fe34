import Mathlib.Control.Monad.Basic
import Postroom.Poll
import Postroom.Trial

/-! # Which sessions are released

While the work goes on every job holds a connection: a session that has one keeps one,
whatever is asked over it (`Session.isConnected_perform`), and one that cannot be
connected again keeps the old one (`Session.isConnected_connect`).  So whatever put an end
to the rounds, there is a connection of every job to log out from, and none is left
afterwards (`loggedOut_disconnect`).

Work that does not come to the rounds is different.  The jobs before the one that could
not be connected are left as they are, with their connections (`held_connect`); so all
sessions are released exactly if all jobs or none could be connected
(`released_iff`).
-/

namespace Postroom

variable {World Handle : Type}

/-! ### One session -/

namespace Session

variable (s : Session World Handle) (w : World)

theorem isConnected_connect :
    (s.connect w).2.1.isConnected = ((s.connect w).1.isOk || s.isConnected) := by
  unfold connect
  split
  · rfl
  · split <;> rfl

theorem isConnected_perform {α : Type} (talk : Talk α) :
    (s.perform talk w).2.1.isConnected = s.isConnected := by
  unfold perform
  split
  · rfl
  · next h => simp only [isConnected, h, Option.isSome]

theorem isConnected_disconnect : (s.disconnect w).2.1.isConnected = false := by
  unfold disconnect
  split
  · next h => simp only [isConnected, h, Option.isSome]
  · rfl

end Session

/-! ### One job -/

namespace Job

variable (job : Job World Handle) (w : World)

/-- Whether the job holds a connection. -/
def isConnected : Bool := job.session.isConnected

theorem isConnected_connect :
    (job.connect w).2.1.isConnected = ((job.connect w).1.isOk || job.isConnected) := by
  refine (job.session.isConnected_connect w).trans ?_
  unfold connect
  rcases job.session.connect w with ⟨_ | _, _, _⟩ <;> rfl

theorem isConnected_turn (h : job.isConnected = true) : (job.turn w).2.1.isConnected = true := by
  have hsort : (job.sort w).2.1.isConnected = true := by
    rw [← h]
    exact job.session.isConnected_perform w
      (Talk.sort job.input excludedFlags job.fallback job.filters)
  unfold turn
  rcases hr : job.sort w with ⟨fault | _, job', w'⟩ <;> rw [hr] at hsort
  · simp only
    split
    · rw [isConnected_connect, show job'.isConnected = true from hsort, Bool.or_true]
    · exact hsort
  · exact hsort

theorem isConnected_disconnect : (job.disconnect w).1.isConnected = false :=
  job.session.isConnected_disconnect w

end Job

namespace Poll

/-! ### While the work goes on -/

/-- The number of jobs up to the first that cannot be connected. -/
def reached : List (Job World Handle) → World → Nat
  | [], _ => 0
  | job :: rest, w =>
    match job.connect w with
    | (.ok _, _, w) => reached rest w + 1
    | (.error _, _, _) => 0

theorem reached_le (jobs : List (Job World Handle)) (w : World) : reached jobs w ≤ jobs.length := by
  induction jobs generalizing w with
  | nil => exact Nat.le_refl 0
  | cons job rest ih =>
    unfold reached
    split
    · next w' _ => exact Nat.succ_le_succ (ih w')
    · exact Nat.zero_le _

/-- All jobs are connected exactly if the last one is reached. -/
theorem connect_eq_ok_iff (jobs : List (Job World Handle)) (w : World) :
    (connect jobs w).1 = .ok () ↔ reached jobs w = jobs.length := by
  induction jobs generalizing w with
  | nil => exact ⟨fun _ => rfl, fun _ => rfl⟩
  | cons job rest ih =>
    unfold connect each reached
    rcases job.connect w with ⟨fault | _, job', w'⟩
    · refine iff_of_false (fun h => ?_) (Nat.succ_ne_zero rest.length).symm
      cases h
    · exact (ih w').trans Nat.succ_inj.symm

/-- Which jobs hold a connection. -/
def held (jobs : List (Job World Handle)) : List Bool := jobs.map Job.isConnected

/-- Those that were connected hold a connection, the others do not. -/
theorem held_connect {jobs : List (Job World Handle)} (h : ∀ job ∈ jobs, job.isConnected = false)
    (w : World) :
    held (connect jobs w).2.1 =
      List.replicate (reached jobs w) true ++
        List.replicate (jobs.length - reached jobs w) false := by
  induction jobs generalizing w with
  | nil => rfl
  | cons job rest ih =>
    obtain ⟨hjob, hrest⟩ := List.forall_mem_cons.mp h
    have hconnect := job.isConnected_connect w
    unfold connect each reached
    rcases hr : job.connect w with ⟨fault | _, job', w'⟩ <;> rw [hr] at hconnect
    · have hnone : held rest = List.replicate rest.length false :=
        List.eq_replicate_iff.mpr ⟨List.length_map .., by simpa [held] using hrest⟩
      show job'.isConnected :: held rest = _
      rw [hnone, show job'.isConnected = false from hconnect.trans hjob]
      rfl
    · show job'.isConnected :: held (connect rest w').2.1 = _
      rw [ih hrest w', show job'.isConnected = true from hconnect, List.length_cons,
        Nat.add_sub_add_right]
      rfl

/-- A job that holds a connection holds one after any number of rounds. -/
theorem isConnected_rounds (n : Nat) {jobs : List (Job World Handle)}
    (h : ∀ job ∈ jobs, job.isConnected = true) (w : World) :
    ∀ job ∈ (rounds n jobs w).2.1, job.isConnected = true :=
  (rounds_keeps (q := fun _ => True)
    (fun job w hjob _ => ⟨job.isConnected_turn w hjob, trivial⟩) n h trivial).1

/-! ### In the end -/

/-- Over the connections of all jobs, in order, it was asked to log out. -/
inductive LoggedOut : List (Job World Handle) → World → World → Prop where
  | nil (w : World) : LoggedOut [] w w
  | cons {job : Job World Handle} {rest : List (Job World Handle)} {h : Handle} {w w' : World}
    (hheld : job.session.handle = some h)
    (hrest : LoggedOut rest (job.session.backend.answer .logout (h, w)).2.2 w') :
    LoggedOut (job :: rest) w w'

theorem loggedOut_disconnect {jobs : List (Job World Handle)}
    (h : ∀ job ∈ jobs, job.isConnected = true) (w : World) :
    LoggedOut jobs w (disconnect jobs w).2 ∧
      ∀ job ∈ (disconnect jobs w).1, job.isConnected = false := by
  induction jobs generalizing w with
  | nil => exact ⟨.nil w, nofun⟩
  | cons job rest ih =>
    obtain ⟨hjob, hrest⟩ := List.forall_mem_cons.mp h
    obtain ⟨handle, hhandle⟩ := Option.isSome_iff_exists.mp hjob
    have hworld : (job.disconnect w).2 =
        (job.session.backend.answer .logout (handle, w)).2.2 := by
      simp only [Job.disconnect, Session.disconnect, hhandle]
    obtain ⟨hlogged, hreleased⟩ := ih hrest (job.disconnect w).2
    exact ⟨.cons hhandle (hworld ▸ hlogged),
      List.forall_mem_cons.mpr ⟨job.isConnected_disconnect w, hreleased⟩⟩

variable {n : Nat} {jobs : List (Job World Handle)} {w : World}

/-- There is nothing more to the work if not all jobs can be connected. -/
theorem run_of_reached_lt (h : reached jobs w < jobs.length) : run n jobs w = connect jobs w := by
  have hfault : (connect jobs w).1 ≠ .ok () :=
    fun hok => Nat.ne_of_lt h ((connect_eq_ok_iff jobs w).mp hok)
  unfold run
  rcases hr : connect jobs w with ⟨fault | _, jobs', w'⟩
  · rfl
  · rw [hr] at hfault
    exact absurd rfl hfault

/-- After the rounds all jobs are disconnected, whatever put an end to them. -/
theorem run_of_reached_eq (h : reached jobs w = jobs.length) :
    (run n jobs w).2 = disconnect (rounds n (connect jobs w).2.1 (connect jobs w).2.2).2.1
      (rounds n (connect jobs w).2.1 (connect jobs w).2.2).2.2 := by
  have hok := (connect_eq_ok_iff jobs w).mpr h
  unfold run
  rcases hr : connect jobs w with ⟨fault | _, jobs', w'⟩
  · rw [hr] at hok
    cases hok
  · rfl

/-- **Sessions are released if all jobs or none can be connected.**  Of sessions that were not
connected before, none holds a connection after the work in exactly these two cases.  If all jobs
are connected, each holds a connection until the rounds have come to an end, however that was, and
then it is asked over each to log out.  If one cannot be connected, nothing more is asked, and the
jobs before it hold their connections for good. -/
theorem released_iff (n : Nat) {jobs : List (Job World Handle)}
    (h : ∀ job ∈ jobs, job.isConnected = false) (w : World) :
    ((∀ job ∈ (run n jobs w).2.1, job.isConnected = false) ↔
        reached jobs w = jobs.length ∨ reached jobs w = 0) ∧
      (reached jobs w = jobs.length →
        let ended := (rounds n (connect jobs w).2.1 (connect jobs w).2.2).2
        LoggedOut ended.1 ended.2 (run n jobs w).2.2) ∧
      (reached jobs w < jobs.length →
        run n jobs w = connect jobs w ∧
          held (run n jobs w).2.1 =
            List.replicate (reached jobs w) true ++
              List.replicate (jobs.length - reached jobs w) false) := by
  have hheld := held_connect h w
  rcases Nat.lt_or_eq_of_le (reached_le jobs w) with hlt | heq
  · rw [run_of_reached_lt hlt]
    refine ⟨?_, fun heq => absurd heq (Nat.ne_of_lt hlt), fun _ => ⟨rfl, hheld⟩⟩
    rw [← List.forall_mem_map (P := fun b => b = false), ← held, hheld]
    simp [Nat.ne_of_lt hlt]
  · have hconnected : ∀ job ∈ (connect jobs w).2.1, job.isConnected = true := by
      rw [← List.forall_mem_map (P := fun b => b = true), ← held, hheld, heq]
      simp
    obtain ⟨hlogged, hreleased⟩ :=
      loggedOut_disconnect (isConnected_rounds n hconnected (connect jobs w).2.2)
        (rounds n (connect jobs w).2.1 (connect jobs w).2.2).2.2
    rw [run_of_reached_eq heq]
    exact ⟨⟨fun _ => .inl heq, fun _ => hreleased⟩, fun _ => hlogged,
      fun hlt => absurd heq (Nat.ne_of_lt hlt)⟩

/-- A request is refused in the middle of the round, and both sessions are released; with a wrong
password for the second there is no round, and the first is not. -/
theorem released_after_refusal :
    let job := fun account password => Job.mk account (.new Trial.backend
      ⟨"host", 143, "me", password, false, none, none, none⟩) "INBOX" "INBOX" []
    let jobs := [job "work" "pw", job "home" "pw"]
    let others := [job "work" "pw", job "home" "wrong"]
    let t : Trial := ⟨.new "pw", [(4, .fault (.no "stop"))], []⟩
    (run 1 jobs t).1 = .error (.no "stop") ∧ (∀ job ∈ (run 1 jobs t).2.1, job.isConnected = false) ∧
      (run 1 jobs t).2.2.record.drop 4 = ["logout", "logout"] ∧
      held (run 1 others t).2.1 = [true, false] := by
  intro job jobs others t
  have hnew : ∀ j ∈ jobs, j.isConnected = false := by decide +kernel
  have hothers : ∀ j ∈ others, j.isConnected = false := by decide +kernel
  have hall : reached jobs t = jobs.length := by decide +kernel
  have hone : reached others t = 1 := by decide +kernel
  obtain ⟨hiff, -⟩ := released_iff 1 hnew t
  obtain ⟨-, -, hleft⟩ := released_iff 1 hothers t
  obtain ⟨-, hheld⟩ := hleft (hone ▸ by decide)
  rw [hone] at hheld
  exact ⟨by decide +kernel, hiff.mpr (.inl hall), by decide +kernel, hheld⟩

/-- The second job cannot be connected; nobody logs out from the connection of the first. -/
theorem first_session_left_open :
    let job := fun account password => Job.mk account (.new Trial.backend
      ⟨"host", 143, "me", password, false, none, none, none⟩) "INBOX" "INBOX" []
    let jobs := [job "work" "pw", job "home" "wrong"]
    let t : Trial := ⟨.new "pw", [], []⟩
    (∀ job ∈ jobs, job.isConnected = false) ∧
      (run 1 jobs t).1 = .error (.connect "home" "host" "me" (.auth "Authentication failed.")) ∧
      held (run 1 jobs t).2.1 = [true, false] ∧ (run 1 jobs t).2.2.record = ["connect", "connect"] ∧
      ¬ ∀ job ∈ (run 1 jobs t).2.1, job.isConnected = false := by
  intro job jobs t
  exact ⟨by decide +kernel, by decide +kernel, by decide +kernel, by decide +kernel,
    by decide +kernel⟩

end Poll

end Postroom
