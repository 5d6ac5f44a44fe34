import Postroom.Filter
import Postroom.Session

/-!
# The round over all accounts

Every account has a job: its session, where its mail comes in, and its filters.  All jobs are
connected before the first is worked on.  Then the jobs are worked on in rounds; one whose
connection is gone is connected again and has its next turn in the next round, and any other
fault ends the work.  In the end every session is disconnected, unless not all jobs could be
connected at first.
-/

namespace Postroom

/-- The work for one account. -/
structure Job (World Handle : Type) where
  /-- The name of the account. -/
  account : String
  /-- Its session. -/
  session : Session World Handle
  /-- The mailbox that is sorted. -/
  input : String
  /-- Where messages go that no filter matches. -/
  fallback : String
  /-- Its filters. -/
  filters : Assoc Filter

/-- Messages that carry one of these flags are left alone. -/
def excludedFlags : List Flag := [.seen, .flagged]

namespace Job

variable {World Handle : Type}

/-- Connects the session; a fault names the account. -/
def connect (job : Job World Handle) (w : World) : Except Fault Unit × Job World Handle × World :=
  let (r, session, w) := job.session.connect w
  let settings := job.session.settings
  (r.mapError (.connect job.account settings.server settings.username),
    { job with session := session }, w)

/-- Sorts the messages of the account. -/
def sort (job : Job World Handle) (w : World) : Except Fault Tally × Job World Handle × World :=
  let (r, session, w) :=
    job.session.perform (Talk.sort job.input excludedFlags job.fallback job.filters) w
  (r, { job with session := session }, w)

/-- Sorts the messages of the account, and connects again if the connection is gone. -/
def turn (job : Job World Handle) (w : World) : Except Fault Unit × Job World Handle × World :=
  match job.sort w with
  | (.ok _, job, w) => (.ok (), job, w)
  | (.error fault, job, w) => if fault.isDisconnect then job.connect w else (.error fault, job, w)

/-- Lets the connection go. -/
def disconnect (job : Job World Handle) (w : World) : Job World Handle × World :=
  let (_, session, w) := job.session.disconnect w
  ({ job with session := session }, w)

end Job

namespace Poll

variable {World Handle : Type}

/-- Does something with one job after another, up to the first fault. -/
def each (act : Job World Handle → World → Except Fault Unit × Job World Handle × World) :
    List (Job World Handle) → World → Except Fault Unit × List (Job World Handle) × World
  | [], w => (.ok (), [], w)
  | job :: rest, w =>
    match act job w with
    | (.error fault, job, w) => (.error fault, job :: rest, w)
    | (.ok _, job, w) =>
      let (r, rest, w) := each act rest w
      (r, job :: rest, w)

/-- Connects all jobs. -/
def connect (jobs : List (Job World Handle)) (w : World) :
    Except Fault Unit × List (Job World Handle) × World := each Job.connect jobs w

/-- Gives every job its turn. -/
def round (jobs : List (Job World Handle)) (w : World) :
    Except Fault Unit × List (Job World Handle) × World := each Job.turn jobs w

/-- A number of rounds, up to the first fault. -/
def rounds : Nat → List (Job World Handle) → World →
    Except Fault Unit × List (Job World Handle) × World
  | 0, jobs, w => (.ok (), jobs, w)
  | n + 1, jobs, w =>
    match round jobs w with
    | (.ok _, jobs, w) => rounds n jobs w
    | outcome => outcome

/-- Disconnects all jobs. -/
def disconnect : List (Job World Handle) → World → List (Job World Handle) × World
  | [], w => ([], w)
  | job :: rest, w =>
    let (job, w) := job.disconnect w
    let (rest, w) := disconnect rest w
    (job :: rest, w)

/-- Connects all jobs, works on them for at most `n` rounds, and disconnects them. -/
def run (n : Nat) (jobs : List (Job World Handle)) (w : World) :
    Except Fault Unit × List (Job World Handle) × World :=
  match connect jobs w with
  | (.ok _, jobs, w) =>
    let (r, jobs, w) := rounds n jobs w
    let (jobs, w) := disconnect jobs w
    (r, jobs, w)
  | outcome => outcome

/-! ### What is kept -/

section
variable {p : Job World Handle → Prop} {q : World → Prop}

/-- What holds of all jobs and of the world and is kept by what is done for one job is kept by doing
it for one after another. -/
theorem each_keeps
    {act : Job World Handle → World → Except Fault Unit × Job World Handle × World}
    (hact : ∀ job w, p job → q w → p (act job w).2.1 ∧ q (act job w).2.2)
    {jobs : List (Job World Handle)} (hjobs : ∀ job ∈ jobs, p job) {w : World} (hw : q w) :
    (∀ job ∈ (each act jobs w).2.1, p job) ∧ q (each act jobs w).2.2 := by
  induction jobs generalizing w with
  | nil => exact ⟨hjobs, hw⟩
  | cons job rest ih =>
    obtain ⟨hjob, hrest⟩ := List.forall_mem_cons.mp hjobs
    have hstep := hact job w hjob hw
    unfold each
    rcases hr : act job w with ⟨fault | _, job', w'⟩ <;> rw [hr] at hstep
    · exact ⟨List.forall_mem_cons.mpr ⟨hstep.1, hrest⟩, hstep.2⟩
    · obtain ⟨hkept, hw'⟩ := ih hrest hstep.2
      exact ⟨List.forall_mem_cons.mpr ⟨hstep.1, hkept⟩, hw'⟩

/-- What is kept by every turn is kept by any number of rounds. -/
theorem rounds_keeps (hturn : ∀ job w, p job → q w → p (job.turn w).2.1 ∧ q (job.turn w).2.2)
    (n : Nat) {jobs : List (Job World Handle)} (hjobs : ∀ job ∈ jobs, p job) {w : World}
    (hw : q w) :
    (∀ job ∈ (rounds n jobs w).2.1, p job) ∧ q (rounds n jobs w).2.2 := by
  induction n generalizing jobs w with
  | zero => exact ⟨hjobs, hw⟩
  | succ n ih =>
    have hround := each_keeps hturn hjobs hw
    unfold rounds round
    rcases hr : each Job.turn jobs w with ⟨fault | _, jobs', w'⟩ <;> rw [hr] at hround
    · exact hround
    · exact ih hround.1 hround.2

end

end Poll

end Postroom
