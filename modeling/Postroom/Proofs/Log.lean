import Mathlib.Control.Monad.Basic
import Postroom.Poll
import Postroom.Trial

/-! # The log of the work

Three things are done for a job: it is connected, sorted and disconnected (`Deed`).
A log has a line for every one that was done, in order, with what came of it, and
`Logged` says that the lines are what happened: each deed is done for its job in the
world that the one before left.

Which logs there can be is said by a grammar.  `Connecting` and `Turning` are the ways in
which one job is connected and has its turn, `InOrder` takes one job after the other up to
the first fault, and `Rounds` and `Working` are made of these.  The servers are left open
altogether: whatever they do, the work is logged in one of these ways (`logged_run`), and from
that alone it follows how often and in which order jobs are sorted and disconnected
(`work_in_rounds`).
-/

namespace Postroom

variable {World Handle : Type}

/-- What is done for a job. -/
inductive Deed where
  /-- Its session is connected. -/
  | connect
  /-- Its messages are sorted. -/
  | sort
  /-- Its session is disconnected. -/
  | disconnect
deriving Repr, DecidableEq

/-- A line of the log. -/
structure LogLine where
  /-- The place of the job in the row. -/
  place : Nat
  /-- What was done for it. -/
  deed : Deed
  /-- What came of it. -/
  result : Except Fault Unit

/-- What is reported of a job that cannot be connected. -/
structure Label where
  account : String
  server : String
  username : String

/-- The fault of a job that cannot be connected. -/
def Label.unreachable (l : Label) (cause : Fault) : Fault :=
  .connect l.account l.server l.username cause

/-! ### One job -/

namespace Session

variable (s : Session World Handle) (w : World)

theorem settings_connect : (s.connect w).2.1.settings = s.settings := by
  unfold connect
  split
  · rfl
  · split <;> rfl

theorem settings_perform {α : Type} (talk : Talk α) :
    (s.perform talk w).2.1.settings = s.settings := by
  unfold perform
  split <;> rfl

theorem settings_disconnect : (s.disconnect w).2.1.settings = s.settings := by
  unfold disconnect
  split <;> rfl

end Session

namespace Job

variable (job : Job World Handle) (w : World)

/-- What is reported of the job if it cannot be connected. -/
def label : Label := ⟨job.account, job.session.settings.server, job.session.settings.username⟩

/-- Does something for a job. -/
def perform : Deed → Except Fault Unit × Job World Handle × World
  | .connect =>
    let (r, session, w) := job.session.connect w
    (r, { job with session := session }, w)
  | .sort =>
    let (r, session, w) :=
      job.session.perform (Talk.sort job.input excludedFlags job.fallback job.filters) w
    (r.map fun _ => (), { job with session := session }, w)
  | .disconnect =>
    let (r, session, w) := job.session.disconnect w
    (r, { job with session := session }, w)

@[simp] theorem label_perform (deed : Deed) : (job.perform w deed).2.1.label = job.label := by
  cases deed with
  | connect => simp only [label, perform, Session.settings_connect]
  | sort => simp only [label, perform, Session.settings_perform]
  | disconnect => simp only [label, perform, Session.settings_disconnect]

theorem connect_eq :
    job.connect w =
      ((job.perform w .connect).1.mapError job.label.unreachable, (job.perform w .connect).2) := by
  simp only [connect, perform, label]
  rfl

/-- A turn is a sort, and a connection if the old one turns out to be gone. -/
theorem turn_eq :
    job.turn w =
      match job.perform w .sort with
      | (.ok _, job, w) => (.ok (), job, w)
      | (.error fault, job, w) =>
        if fault.isDisconnect then job.connect w else (.error fault, job, w) := by
  simp only [turn, sort, perform]
  rcases job.session.perform (Talk.sort job.input excludedFlags job.fallback job.filters) w with
    ⟨_ | _, _, _⟩ <;> rfl

@[simp] theorem label_connect : (job.connect w).2.1.label = job.label := by
  rw [connect_eq, label_perform]

@[simp] theorem label_turn : (job.turn w).2.1.label = job.label := by
  have hsort := job.label_perform w .sort
  rw [turn_eq]
  rcases hr : job.perform w .sort with ⟨fault | _, job', w'⟩ <;> rw [hr] at hsort
  · simp only
    split
    · rw [label_connect, hsort]
    · exact hsort
  · exact hsort

end Job

namespace Poll

/-! ### What happened -/

/-- The lines of a log are what was done: each deed for the job at its place, in the world that the
one before left. -/
inductive Logged :
    List LogLine → List (Job World Handle) × World → List (Job World Handle) × World →
    Prop where
  | nil (x : List (Job World Handle) × World) : Logged [] x x
  | cons {jobs : List (Job World Handle)} {place : Nat} {job : Job World Handle} (deed : Deed)
      {w : World} {log : List LogLine} {y : List (Job World Handle) × World}
      (hjob : jobs[place]? = some job)
      (hrest : Logged log
        (jobs.set place (job.perform w deed).2.1, (job.perform w deed).2.2) y) :
      Logged (⟨place, deed, (job.perform w deed).1⟩ :: log) (jobs, w) y

theorem Logged.append {log log' : List LogLine} {x y z : List (Job World Handle) × World}
    (h : Logged log x y) (h' : Logged log' y z) : Logged (log ++ log') x z := by
  induction h with
  | nil => exact h'
  | cons deed hjob hrest ih => exact .cons deed hjob (ih h')

/-- Something is done for a job with others around it. -/
theorem Logged.between {front rest : List (Job World Handle)} {job : Job World Handle} (deed : Deed)
    {w : World} {log : List LogLine} {y : List (Job World Handle) × World}
    (h : Logged log (front ++ (job.perform w deed).2.1 :: rest, (job.perform w deed).2.2) y) :
    Logged (⟨front.length, deed, (job.perform w deed).1⟩ :: log) (front ++ job :: rest, w) y := by
  refine .cons deed (by simp) ?_
  rwa [List.set_append_right _ _ (Nat.le_refl _), Nat.sub_self, List.set_cons_zero]

/-! ### The grammar -/

/-- How one job after the other is dealt with, if there are ways to deal with one: a fault is the
end. -/
inductive InOrder (way : Nat → Label → List LogLine → Except Fault Unit → Prop) :
    Nat → List Label → List LogLine → Except Fault Unit → Prop where
  | done (place : Nat) : InOrder way place [] [] (.ok ())
  | stopped {place : Nat} {l : Label} (labels : List Label) {log : List LogLine} {fault : Fault}
      (hlast : way place l log (.error fault)) : InOrder way place (l :: labels) log (.error fault)
  | next {place : Nat} {l : Label} {labels : List Label} {log more : List LogLine}
      {result : Except Fault Unit} (hfirst : way place l log (.ok ()))
      (hrest : InOrder way (place + 1) labels more result) :
      InOrder way place (l :: labels) (log ++ more) result

/-- How a job is connected: a failure is reported with what the job is called. -/
inductive Connecting (place : Nat) (l : Label) : List LogLine → Except Fault Unit → Prop where
  | connected : Connecting place l [⟨place, .connect, .ok ()⟩] (.ok ())
  | failed (cause : Fault) :
    Connecting place l [⟨place, .connect, .error cause⟩] (.error (l.unreachable cause))

/-- How a job has its turn: it is sorted, and then connected if the sort found the connection gone,
which is all for this turn.  Any other fault is the result as it is. -/
inductive Turning (place : Nat) (l : Label) : List LogLine → Except Fault Unit → Prop where
  | sorted : Turning place l [⟨place, .sort, .ok ()⟩] (.ok ())
  | lost {fault : Fault} (hlost : fault.isDisconnect = true) {log : List LogLine}
    {result : Except Fault Unit} (hagain : Connecting place l log result) :
    Turning place l (⟨place, .sort, .error fault⟩ :: log) result
  | failed {fault : Fault} (hlost : fault.isDisconnect = false) :
    Turning place l [⟨place, .sort, .error fault⟩] (.error fault)

/-- How all jobs have a number of turns. -/
inductive Rounds (labels : List Label) : Nat → List LogLine → Except Fault Unit → Prop where
  | none : Rounds labels 0 [] (.ok ())
  | stopped (n : Nat) {log : List LogLine} {fault : Fault}
    (hlast : InOrder Turning 0 labels log (.error fault)) :
    Rounds labels (n + 1) log (.error fault)
  | next {n : Nat} {log more : List LogLine} {result : Except Fault Unit}
    (hfirst : InOrder Turning 0 labels log (.ok ())) (hrest : Rounds labels n more result) :
    Rounds labels (n + 1) (log ++ more) result

/-- What was done, and where, whatever came of it. -/
def deeds (log : List LogLine) : List (Nat × Deed) := log.map fun line => (line.place, line.deed)

/-- How the work goes: if all jobs can be connected, they have their turns, and in the end, whatever
put an end to it, all of them are disconnected, whatever comes of that. -/
inductive Working (n : Nat) (labels : List Label) : List LogLine → Except Fault Unit → Prop where
  | notConnected {log : List LogLine} {fault : Fault}
    (hlast : InOrder Connecting 0 labels log (.error fault)) :
    Working n labels log (.error fault)
  | ended {first log last : List LogLine} {result : Except Fault Unit}
    (hfirst : InOrder Connecting 0 labels first (.ok ())) (hrounds : Rounds labels n log result)
    (hlast : deeds last = (List.range labels.length).map fun place => (place, .disconnect)) :
    Working n labels (first ++ (log ++ last)) result

/-! ### The work is logged so -/

section
variable {way : Nat → Label → List LogLine → Except Fault Unit → Prop}
  {act : Job World Handle → World → Except Fault Unit × Job World Handle × World}
  (hlabel : ∀ job w, (act job w).2.1.label = job.label)

include hlabel in
theorem labels_each (jobs : List (Job World Handle)) (w : World) :
    (each act jobs w).2.1.map Job.label = jobs.map Job.label := by
  induction jobs generalizing w with
  | nil => rfl
  | cons job rest ih =>
    have hjob := hlabel job w
    unfold each
    rcases hr : act job w with ⟨fault | _, job', w'⟩ <;> rw [hr] at hjob
    · exact congrArg (· :: rest.map Job.label) hjob
    · show job'.label :: ((each act rest w').2.1.map Job.label) = _
      rw [ih, hjob, List.map_cons]

variable (hway : ∀ front job rest w, ∃ log,
    Logged log (front ++ job :: rest, w) (front ++ (act job w).2.1 :: rest, (act job w).2.2) ∧
      way front.length job.label log (act job w).1)

include hway in
/-- On the jobs that are left: those before them have been dealt with and stay as they are. -/
theorem logged_each (front jobs : List (Job World Handle)) (w : World) :
    ∃ log, Logged log (front ++ jobs, w)
        (front ++ (each act jobs w).2.1, (each act jobs w).2.2) ∧
      InOrder way front.length (jobs.map Job.label) log (each act jobs w).1 := by
  induction jobs generalizing front w with
  | nil => exact ⟨[], .nil _, .done _⟩
  | cons job rest ih =>
    obtain ⟨log, hlogged, hlog⟩ := hway front job rest w
    unfold each
    rcases hr : act job w with ⟨fault | _, job', w'⟩ <;> rw [hr] at hlogged hlog
    · exact ⟨log, hlogged, .stopped _ hlog⟩
    · obtain ⟨more, hmore, hrest⟩ := ih (front ++ [job']) w'
      rw [List.append_assoc, List.singleton_append, List.append_assoc,
        List.singleton_append] at hmore
      rw [List.length_append, List.length_singleton] at hrest
      exact ⟨log ++ more, hlogged.append hmore, .next hlog hrest⟩

end

theorem logged_connect (front : List (Job World Handle)) (job : Job World Handle)
    (rest : List (Job World Handle)) (w : World) :
    ∃ log, Logged log (front ++ job :: rest, w)
        (front ++ (job.connect w).2.1 :: rest, (job.connect w).2.2) ∧
      Connecting front.length job.label log (job.connect w).1 := by
  rw [Job.connect_eq]
  refine ⟨_, .between .connect (.nil _), ?_⟩
  rcases (job.perform w .connect).1 with cause | _
  · exact .failed cause
  · exact .connected

theorem logged_turn (front : List (Job World Handle)) (job : Job World Handle)
    (rest : List (Job World Handle)) (w : World) :
    ∃ log, Logged log (front ++ job :: rest, w)
        (front ++ (job.turn w).2.1 :: rest, (job.turn w).2.2) ∧
      Turning front.length job.label log (job.turn w).1 := by
  have hlabel := job.label_perform w .sort
  have hsort : ∀ log y,
      Logged log (front ++ (job.perform w .sort).2.1 :: rest, (job.perform w .sort).2.2) y →
        Logged (⟨front.length, .sort, (job.perform w .sort).1⟩ :: log)
          (front ++ job :: rest, w) y :=
    fun _ _ => .between .sort
  rw [Job.turn_eq]
  rcases hr : job.perform w .sort with ⟨fault | _, job', w'⟩ <;> rw [hr] at hlabel hsort
  · by_cases hlost : fault.isDisconnect = true
    · obtain ⟨log, hlogged, hagain⟩ := logged_connect front job' rest w'
      rw [hlabel] at hagain
      simp only [if_pos hlost]
      exact ⟨_, hsort _ _ hlogged, .lost hlost hagain⟩
    · simp only [if_neg hlost]
      exact ⟨_, hsort _ _ (.nil _), .failed (Bool.eq_false_iff.mpr hlost)⟩
  · exact ⟨_, hsort _ _ (.nil _), .sorted⟩

theorem logged_rounds (n : Nat) (jobs : List (Job World Handle)) (w : World) :
    ∃ log, Logged log (jobs, w) (rounds n jobs w).2 ∧
      Rounds (jobs.map Job.label) n log (rounds n jobs w).1 := by
  induction n generalizing jobs w with
  | zero => exact ⟨[], .nil _, .none⟩
  | succ n ih =>
    obtain ⟨log, hlogged, hlog⟩ := logged_each logged_turn [] jobs w
    have hlabels := labels_each Job.label_turn jobs w
    unfold rounds round
    rcases hr : each Job.turn jobs w with ⟨fault | _, jobs', w'⟩ <;> rw [hr] at hlogged hlog hlabels
    · exact ⟨log, hlogged, .stopped n hlog⟩
    · obtain ⟨more, hmore, hrest⟩ := ih jobs' w'
      rw [hlabels] at hrest
      exact ⟨log ++ more, hlogged.append hmore, .next hlog hrest⟩

theorem labels_rounds (n : Nat) (jobs : List (Job World Handle)) (w : World) :
    (rounds n jobs w).2.1.map Job.label = jobs.map Job.label := by
  induction n generalizing jobs w with
  | zero => rfl
  | succ n ih =>
    have hlabels := labels_each Job.label_turn jobs w
    unfold rounds round
    rcases hr : each Job.turn jobs w with ⟨fault | _, jobs', w'⟩ <;> rw [hr] at hlabels
    · exact hlabels
    · exact (ih jobs' w').trans hlabels

theorem logged_disconnect (front jobs : List (Job World Handle)) (w : World) :
    ∃ log, Logged log (front ++ jobs, w) (front ++ (disconnect jobs w).1, (disconnect jobs w).2) ∧
      deeds log = (List.range' front.length jobs.length).map fun place => (place, .disconnect) := by
  induction jobs generalizing front w with
  | nil => exact ⟨[], .nil _, rfl⟩
  | cons job rest ih =>
    obtain ⟨log, hlogged, hlog⟩ := ih (front ++ [(job.disconnect w).1]) (job.disconnect w).2
    rw [List.append_assoc, List.singleton_append, List.append_assoc,
      List.singleton_append] at hlogged
    rw [List.length_append, List.length_singleton] at hlog
    refine ⟨_, .between .disconnect hlogged, ?_⟩
    rw [List.length_cons, List.range'_succ, List.map_cons, ← hlog]
    rfl

theorem logged_run (n : Nat) (jobs : List (Job World Handle)) (w : World) :
    ∃ log, Logged log (jobs, w) (run n jobs w).2 ∧
      Working n (jobs.map Job.label) log (run n jobs w).1 := by
  obtain ⟨first, hfirst, hconnected⟩ := logged_each logged_connect [] jobs w
  have hlabels := labels_each Job.label_connect jobs w
  unfold run connect
  rcases hr : each Job.connect jobs w with ⟨fault | _, jobs₁, w₁⟩ <;>
    rw [hr] at hfirst hconnected hlabels
  · exact ⟨first, hfirst, .notConnected hconnected⟩
  · obtain ⟨log, hlogged, hrounds⟩ := logged_rounds n jobs₁ w₁
    obtain ⟨last, hlast, hdeeds⟩ :=
      logged_disconnect [] (rounds n jobs₁ w₁).2.1 (rounds n jobs₁ w₁).2.2
    have hlength : (rounds n jobs₁ w₁).2.1.length = (jobs.map Job.label).length := by
      have hsame := congrArg List.length (labels_rounds n jobs₁ w₁)
      rw [List.length_map, hlabels] at hsame
      exact hsame
    rw [hlength, List.length_nil, ← List.range_eq_range'] at hdeeds
    exact ⟨first ++ (log ++ last), hfirst.append (hlogged.append hlast),
      .ended hconnected (hlabels ▸ hrounds) hdeeds⟩

/-! ### What the grammar says -/

/-- The places at which something was done, in order. -/
def places (deed : Deed) (log : List LogLine) : List Nat :=
  ((deeds log).filter (·.2 = deed)).map Prod.fst

theorem places_append (deed : Deed) (log more : List LogLine) :
    places deed (log ++ more) = places deed log ++ places deed more := by
  simp [places, deeds]

section
variable {labels : List Label} {place n : Nat} {l : Label} {log : List LogLine} {deed : Deed}
  {result : Except Fault Unit}

theorem Connecting.places_eq_nil (h : Connecting place l log result) (hdeed : deed ≠ .connect) :
    places deed log = [] := by
  cases h <;> cases deed <;> first | rfl | exact absurd rfl hdeed

/-- Nobody is sorted twice in a turn. -/
theorem Turning.places_sort (h : Turning place l log result) : places .sort log = [place] := by
  cases h with
  | lost hlost hagain => exact congrArg (place :: ·) (hagain.places_eq_nil nofun)
  | _ => rfl

theorem Turning.places_disconnect (h : Turning place l log result) :
    places .disconnect log = [] := by
  cases h with
  | lost hlost hagain => exact hagain.places_eq_nil nofun
  | _ => rfl

/-- What is done for no job is not done for any number of them. -/
theorem InOrder.places_eq_nil {way : Nat → Label → List LogLine → Except Fault Unit → Prop}
    (hway : ∀ {place l log result}, way place l log result → places deed log = [])
    (h : InOrder way place labels log result) : places deed log = [] := by
  induction h with
  | done => rfl
  | stopped labels hlast => exact hway hlast
  | next hfirst hrest ih => rw [places_append, hway hfirst, ih, List.append_nil]

/-- In a round every job is sorted once and in order, up to a fault. -/
theorem InOrder.places_sort (h : InOrder Turning place labels log result) :
    places .sort log <+: List.range' place labels.length ∧
      (result = .ok () → places .sort log = List.range' place labels.length) := by
  induction h with
  | done => exact ⟨List.prefix_refl _, fun _ => rfl⟩
  | stopped labels hlast =>
    rw [hlast.places_sort, List.length_cons, List.range'_succ]
    exact ⟨⟨_, rfl⟩, nofun⟩
  | next hfirst hrest ih =>
    rw [places_append, hfirst.places_sort, List.length_cons, List.range'_succ]
    exact ⟨List.prefix_cons_inj _ |>.mpr ih.1, fun h => congrArg (_ :: ·) (ih.2 h)⟩

/-- A number of rounds sort all jobs as often, one round after the other. -/
theorem Rounds.places_sort (h : Rounds labels n log result) :
    places .sort log <+: (List.replicate n (List.range labels.length)).flatten ∧
      (result = .ok () →
        places .sort log = (List.replicate n (List.range labels.length)).flatten) := by
  induction h with
  | none => exact ⟨List.prefix_refl _, fun _ => rfl⟩
  | stopped n hlast =>
    rw [List.replicate_succ, List.flatten_cons, List.range_eq_range']
    exact ⟨hlast.places_sort.1.trans (List.prefix_append _ _), nofun⟩
  | next hfirst hrest ih =>
    rw [places_append, hfirst.places_sort.2 rfl, List.replicate_succ, List.flatten_cons,
      ← List.range_eq_range']
    exact ⟨(List.prefix_append_right_inj _).mpr ih.1, fun h => by rw [ih.2 h]⟩

theorem Rounds.places_disconnect (h : Rounds labels n log result) :
    places .disconnect log = [] := by
  induction h with
  | none => rfl
  | stopped n hlast => exact hlast.places_eq_nil Turning.places_disconnect
  | next hfirst hrest ih =>
    rw [places_append, hfirst.places_eq_nil Turning.places_disconnect, ih, List.append_nil]

/-- Of disconnecting all jobs in order. -/
theorem places_of_deeds_eq {deed' : Deed} {row : List Nat}
    (h : deeds log = row.map fun place => (place, deed')) :
    places deed log = if deed' = deed then row else [] := by
  rw [places, h, List.filter_map, List.map_map]
  split
  · next heq => simp [Function.comp_def, heq]
  · next hne => simp [Function.comp_def, hne]

/-- No job is sorted before all are connected, and then all of them in turn. -/
theorem Working.places_sort (h : Working n labels log result) :
    places .sort log <+: (List.replicate n (List.range labels.length)).flatten ∧
      (result = .ok () →
        places .sort log = (List.replicate n (List.range labels.length)).flatten) := by
  have hnone : ∀ {log result}, InOrder Connecting 0 labels log result → places .sort log = [] :=
    InOrder.places_eq_nil fun h => h.places_eq_nil Deed.noConfusion
  cases h with
  | notConnected hlast =>
    rw [hnone hlast]
    exact ⟨List.nil_prefix, nofun⟩
  | ended hfirst hrounds hlast =>
    rw [places_append, places_append, hnone hfirst, places_of_deeds_eq hlast,
      if_neg Deed.noConfusion, List.nil_append, List.append_nil]
    exact hrounds.places_sort

/-- Every job is disconnected once, unless not all could be connected. -/
theorem Working.places_disconnect (h : Working n labels log result) :
    (∃ fault, InOrder Connecting 0 labels log (.error fault)) ∨
      places .disconnect log = List.range labels.length := by
  cases h with
  | notConnected hlast => exact .inl ⟨_, hlast⟩
  | ended hfirst hrounds hlast =>
    refine .inr ?_
    rw [places_append, places_append, hrounds.places_disconnect, places_of_deeds_eq hlast,
      if_pos rfl, hfirst.places_eq_nil fun h => h.places_eq_nil Deed.noConfusion]
    rfl

end

/-! ### More rounds -/

/-- After a fault there are no more rounds, however many were allowed. -/
theorem rounds_add {n : Nat} (more : Nat) {jobs : List (Job World Handle)} {w : World}
    (h : (rounds n jobs w).1 ≠ .ok ()) : rounds (n + more) jobs w = rounds n jobs w := by
  induction n generalizing jobs w with
  | zero => exact absurd rfl h
  | succ n ih =>
    rw [Nat.succ_add]
    unfold rounds at h ⊢
    rcases hr : round jobs w with ⟨fault | _, jobs', w'⟩
    · rfl
    · rw [hr] at h
      exact ih h

theorem run_add {n : Nat} (more : Nat) {jobs : List (Job World Handle)} {w : World}
    (h : (run n jobs w).1 ≠ .ok ()) : run (n + more) jobs w = run n jobs w := by
  unfold run at h ⊢
  rcases hr : connect jobs w with ⟨fault | _, jobs', w'⟩
  · rfl
  · rw [hr] at h
    simp only [rounds_add more h]

/-- **The work goes on in rounds.**  Whatever the servers do, the log of the work is in order: all
jobs are connected, in every round all are sorted once, a job whose connection turns out to be gone
is connected again at once and waits for the next round, and any other fault is the end, after which
all are disconnected.  Work that only a fault puts an end to is done in as many rounds as there are
up to the fault. -/
theorem work_in_rounds (n : Nat) (jobs : List (Job World Handle)) (w : World) :
    (∃ log, Logged log (jobs, w) (run n jobs w).2 ∧
      Working n (jobs.map Job.label) log (run n jobs w).1 ∧
      places .sort log <+: (List.replicate n (List.range jobs.length)).flatten ∧
      ((run n jobs w).1 = .ok () →
        places .sort log = (List.replicate n (List.range jobs.length)).flatten) ∧
      ((∃ fault, InOrder Connecting 0 (jobs.map Job.label) log (.error fault)) ∨
        places .disconnect log = List.range jobs.length)) ∧
    ∀ more, (run n jobs w).1 ≠ .ok () → run (n + more) jobs w = run n jobs w := by
  obtain ⟨log, hlogged, hworking⟩ := logged_run n jobs w
  obtain ⟨hfront, hall⟩ := hworking.places_sort
  have hdisconnect := hworking.places_disconnect
  rw [List.length_map] at hfront hall hdisconnect
  exact ⟨⟨log, hlogged, hworking, hfront, hall, hdisconnect⟩, fun more => run_add more⟩

/-- Both connections are dropped in the first round and opened again in it.  In the second round a
request is refused, and there is no third one. -/
theorem work_in_two_rounds :
    let settings : Settings := ⟨"host", 143, "me", "pw", false, none, none, none⟩
    let job := fun account => Job.mk account (.new Trial.backend settings) "INBOX" "INBOX" []
    let jobs := [job "work", job "home"]
    let t : Trial := ⟨.new "pw", [(3, .drop), (9, .fault (.no "stop"))], []⟩
    (run 1 jobs t).1 = .ok () ∧ (run 2 jobs t).1 = .error (.no "stop") ∧
      (∃ log, Logged log (jobs, t) (run 1 jobs t).2 ∧ places .sort log = [0, 1]) ∧
      run 5 jobs t = run 2 jobs t := by
  intro settings job jobs t
  have hone : (run 1 jobs t).1 = .ok () := by decide +kernel
  have htwo : (run 2 jobs t).1 = .error (.no "stop") := by decide +kernel
  obtain ⟨⟨log, hlogged, -, -, hsort, -⟩, -⟩ := work_in_rounds 1 jobs t
  obtain ⟨-, hmore⟩ := work_in_rounds 2 jobs t
  exact ⟨hone, htwo, ⟨log, hlogged, hsort hone⟩, hmore 3 (htwo ▸ nofun)⟩

end Poll

end Postroom
