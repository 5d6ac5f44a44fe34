import Postroom.Poll
import Postroom.Proofs.Exchange
import Postroom.Proofs.Interruption
import Postroom.Proofs.Server.Resuming

/-! # A connection that breaks while messages are sorted

A job whose connection breaks is connected again and has its next turn in the next round.
Up to the request before which the connection breaks it has gone the way that it goes
without that (`Job.turn_torn`), and from then on nothing goes wrong
(`Job.turn_of_readable`).  So after two rounds the mailboxes are those of two rounds without
an interruption, except that a message on which a filter was at work just then may have lost
the changes of its flags that were still to be made (`Poll.broken_round_resumed`).
-/

namespace Postroom

open Server (Sorting)

/-- A mishap whose number has passed does not happen any more. -/
theorem Trial.spent_of_le {s : Server} {k : Nat} {mishap : Mishap} {record : List String}
    (h : k ≤ record.length) : (⟨s, [(k, mishap)], record⟩ : Trial).Spent := by
  intro n hn
  have hne : n ≠ k := by
    have hlater : record.length < n := hn
    omega
  simp only [List.lookup_cons, beq_eq_false_iff_ne.mpr hne, List.lookup_nil]

namespace Job

/-- A job that holds another connection. -/
def holding (job : Job Trial Connection) (c : Connection) : Job Trial Connection :=
  { job with session := { job.session with handle := some c } }

/-- A job that is connected to a server, and can be connected to it again. -/
structure Connected (job : Job Trial Connection) (s : Server) (c : Connection) : Prop where
  /-- It is for servers under trial. -/
  backend : job.session.backend = Trial.backend
  /-- It holds the connection. -/
  handle : job.session.handle = some c
  /-- The connection can be used. -/
  alive : s.check c = .ok ()
  /-- Nothing that is needed for a connection is missing. -/
  settings : job.session.settings.check = .ok ()
  /-- The server accepts connections. -/
  accepting : s.refusing = false
  /-- The password is right. -/
  password : job.session.settings.password = s.password

/-- The work of a job. -/
def talk (job : Job Trial Connection) : Talk Tally :=
  Talk.sort job.input excludedFlags job.fallback job.filters

/-- The server when a job has sorted the messages. -/
def sorted (job : Job Trial Connection) (s : Server) : Server :=
  s.sorted job.input excludedFlags job.fallback job.filters

/-- A server on which a job is sorting messages. -/
abbrev UnderWay (job : Job Trial Connection) (s t : Server) : Prop :=
  Sorting job.input excludedFlags job.fallback job.filters s t

variable {job : Job Trial Connection} {s : Server} {c : Connection} {w : Trial}

theorem Connected.sort (h : job.Connected s c) (w : Trial) :
    job.sort w = ((job.talk.exec Trial.answer (c, w)).1,
      job.holding (job.talk.exec Trial.answer (c, w)).2.1,
      (job.talk.exec Trial.answer (c, w)).2.2) := by
  obtain ⟨account, ⟨backend, settings, handle⟩, input, fallback, filters⟩ := job
  obtain rfl : backend = Trial.backend := h.backend
  obtain rfl : handle = some c := h.handle
  rfl

/-- Another server may take the place of the server. -/
theorem Connected.holding {t : Server} (h : job.Connected s c) {c' : Connection}
    (halive : t.check c' = .ok ()) (haccepting : t.refusing = s.refusing)
    (hpassword : t.password = s.password) : (job.holding c').Connected t c' where
  backend := h.backend
  handle := rfl
  alive := halive
  settings := h.settings
  accepting := haccepting.trans h.accepting
  password := h.password.trans hpassword.symm

/-- When nothing goes wrong any more, the work of a job is what it is on the server. -/
theorem exec_of_spent (hspent : w.Spent) (job : Job Trial Connection) (c : Connection) :
    ∃ w', w'.Spent ∧ w'.server = (job.talk.exec Server.answer (c, w.server)).2.2 ∧
      job.talk.exec Trial.answer (c, w) = ((job.talk.exec Server.answer (c, w.server)).1,
        (job.talk.exec Server.answer (c, w.server)).2.1, w') := by
  obtain ⟨record, hlength, hrun⟩ := Trial.run_of_spent job.talk.run c hspent
  refine ⟨⟨(job.talk.exec Server.answer (c, w.server)).2.2, w.plan, record⟩, fun n hn => ?_, rfl,
    hrun⟩
  have hlater : record.length < n := hn
  exact hspent n (by omega)

section Calm
variable (h : job.Connected w.server c) (hspent : w.Spent) (hs : w.server.Sound)
  (hcalm : w.server.Calm)

include h hspent hs hcalm in
/-- A turn in which nothing goes wrong any more. -/
theorem turn_of_readable (hcan : w.server.canMove = true) (hdecided : Filter.Decided job.filters)
    (hread : w.server.Readable job.input excludedFlags) :
    ∃ c' w', job.turn w = (.ok (), job.holding c', w') ∧ w'.Spent ∧
      w'.server = job.sorted w.server ∧ (job.holding c').Connected w'.server c' := by
  obtain ⟨tally, c', hexec⟩ :=
    Server.exec_sort_of_readable hs hcalm h.alive hdecided hread job.fallback
  have hpasses : Talk.Passes (job.UnderWay w.server) job.talk c w.server :=
    Server.passes_sort hs hcalm hcan h.alive hdecided
  have hend := Talk.Through.finish hpasses
  obtain ⟨w', hspent', hserver, hrun⟩ := exec_of_spent hspent job c
  have hexec' : job.talk.exec Server.answer (c, w.server) =
      (.ok tally, c', job.sorted w.server) := hexec
  rw [hexec'] at hserver hrun hend
  obtain ⟨halive, hsorting⟩ := hend
  refine ⟨c', w', ?_, hspent', hserver, ?_⟩
  · rw [turn, h.sort, hrun]
  · rw [hserver]
    obtain ⟨mailboxes, hsame⟩ := Server.Partway.rearranged hsorting
    have hsame' : job.sorted w.server = { w.server with mailboxes := mailboxes } := hsame
    exact h.holding halive (by rw [hsame']) (by rw [hsame'])

include h hspent hs hcalm in
/-- A turn in which the messages cannot be read. -/
theorem turn_of_not_readable (hread : ¬ w.server.Readable job.input excludedFlags) :
    ∃ fault c' w', job.turn w = (.error fault, job.holding c', w') ∧ w'.server = w.server := by
  obtain ⟨fault, x, hexec, hfault⟩ := Server.exec_sort_of_not_readable hs hcalm h.alive hread
    job.fallback job.filters
  have hpasses : Talk.Passes (· = w.server) job.talk c w.server :=
    Server.passes_sort_of_not_readable hs hcalm h.alive hread job.fallback job.filters
  have hend := Talk.Through.finish hpasses
  obtain ⟨w', -, hserver, hrun⟩ := exec_of_spent hspent job c
  have hexec' : job.talk.exec Server.answer (c, w.server) = (.error fault, x) := hexec
  rw [hexec'] at hserver hrun hend
  refine ⟨fault, x.1, w', ?_, hserver.trans hend.2⟩
  rw [turn, h.sort, hrun]
  simp only [hfault]
  rfl

end Calm

/-- A job is connected again if nothing goes wrong. -/
theorem connect_of_none (job : Job Trial Connection)
    (hbackend : job.session.backend = Trial.backend)
    (hsettings : job.session.settings.check = .ok ()) (haccepting : w.server.refusing = false)
    (hpassword : job.session.settings.password = w.server.password)
    (hnone : w.plan.lookup (w.record.length + 1) = none) :
    job.connect w = (.ok (), job.holding ⟨w.server.generation, false, none, false⟩,
      ⟨{ w.server with logins := w.server.logins + 1 }, w.plan, w.record ++ ["connect"]⟩) := by
  obtain ⟨account, ⟨backend, settings, handle⟩, input, fallback, filters⟩ := job
  obtain rfl : backend = Trial.backend := hbackend
  have hnote : w.note "connect" = (none, { w with record := w.record ++ ["connect"] }) := by
    have hlength : (w.record ++ ["connect"]).length = w.record.length + 1 := by simp
    simp only [Trial.note, hlength, hnone]
  have hconnect : Trial.connect settings w = (.ok ⟨w.server.generation, false, none, false⟩,
      ⟨{ w.server with logins := w.server.logins + 1 }, w.plan, w.record ++ ["connect"]⟩) := by
    have hserver : w.server.connect settings = (.ok ⟨w.server.generation, false, none, false⟩,
        { w.server with logins := w.server.logins + 1 }) := by
      have hright : ¬ settings.password ≠ w.server.password := not_not.mpr hpassword
      rw [Server.connect, if_neg (by simp [haccepting]), if_neg hright]
    simp only [Trial.connect, hnote, hserver]
  have hcheck : settings.check = .ok () := hsettings
  simp only [Job.connect, Session.connect, hcheck, Trial.backend, hconnect]
  rfl

/-- A turn in which the connection breaks, once.  The job is connected again to the server as it was
when that happened. -/
theorem turn_torn {P : Server → Prop} (h : job.Connected s c)
    (hpasses : Talk.Passes P job.talk c s) (hsame : ∀ t, P t → s.Rearranged t) {k : Nat}
    (hk : 1 ≤ k) (hlast : k ≤ (job.sort ⟨s, [], []⟩).2.2.record.length) :
    ∃ t c' w', P t ∧ (job.sort ⟨s, [(k, .drop)], []⟩).1 = .error .connectionLost ∧
      (job.sort ⟨s, [(k, .drop)], []⟩).2.2.server = t.dropConnections ∧
      job.turn ⟨s, [(k, .drop)], []⟩ = (.ok (), job.holding c', w') ∧ w'.Spent ∧
      w'.server = { t with generation := t.generation + 1, logins := t.logins + 1 } ∧
      (job.holding c').Connected w'.server c' := by
  -- The record of a sort without a mishap counts the requests.
  have hspent : (⟨s, [], []⟩ : Trial).Spent := fun _ _ => rfl
  obtain ⟨record, hlength, hrun⟩ := Trial.run_of_spent job.talk.run c hspent
  have hlast' : k ≤ ([] : List String).length +
      (job.talk.run.transcript Server.answer (c, s)).length := by
    have hcalm : (job.sort ⟨s, [], []⟩).2.2.record = record := by
      rw [h.sort]
      exact congrArg (fun x => x.2.2.record) hrun
    rw [hcalm, hlength] at hlast
    exact hlast
  have hheeds : job.talk.Heeds .connectionLost :=
    Talk.heeds_sort rfl (fun text => by simp) job.input excludedFlags job.fallback job.filters
  obtain ⟨c₁, t, torn, ⟨halive, ht⟩, hlater, hrun⟩ :=
    Trial.run_torn (P := fun x => x.2.check x.1 = .ok () ∧ P x.2) hheeds (fun _ hx => hx.1) hpasses
      (Nat.lt_of_succ_le hk) hlast'
  set broken : Trial := ⟨t.dropConnections, [(k, .drop)], torn⟩ with hbroken
  have hexec : job.talk.exec Trial.answer (c, ⟨s, [(k, .drop)], []⟩) =
      (.error .connectionLost, c₁, broken) := hrun
  have hspent' : broken.Spent := Trial.spent_of_le hlater
  obtain ⟨mailboxes, hmailboxes⟩ := hsame t ht
  have haccepting : broken.server.refusing = false := by
    rw [hbroken, hmailboxes]
    exact h.accepting
  have hpassword : (job.holding c₁).session.settings.password = broken.server.password := by
    rw [hbroken, hmailboxes]
    exact h.password
  have hagain := connect_of_none (job.holding c₁) h.backend h.settings haccepting hpassword
    (hspent' _ (Nat.lt_succ_self _))
  refine ⟨t, ⟨broken.server.generation, false, none, false⟩,
    ⟨{ broken.server with logins := broken.server.logins + 1 }, broken.plan,
      broken.record ++ ["connect"]⟩, ht, ?_, ?_, ?_, hspent'.append _ _, rfl, ?_⟩
  · rw [h.sort, hexec]
  · rw [h.sort, hexec]
  · rw [turn, h.sort, hexec]
    exact hagain
  · exact ⟨h.backend, rfl, by simp [Server.check], h.settings, haccepting, hpassword⟩

end Job

namespace Poll

open Server (SameMail SameMailBut Halfway)

variable {job job' : Job Trial Connection} {w w' : Trial}

theorem rounds_of_ok (h : job.turn w = (.ok (), job', w')) (n : Nat) :
    rounds (n + 1) [job] w = rounds n [job'] w' := by
  rw [rounds, round, each, h]
  rfl

theorem rounds_of_error {fault : Fault} (h : job.turn w = (.error fault, job', w')) (n : Nat) :
    rounds (n + 1) [job] w = (.error fault, [job'], w') := by
  rw [rounds, round, each, h]

section Rounds
variable {s : Server} {c : Connection} (hs : s.Sound) (hcalm : s.Calm) (hmoves : s.canMove = true)
  (hjob : job.Connected s c) (hdecided : Filter.Decided job.filters)

include hs hcalm hmoves hjob hdecided in
theorem rounds_calm (hread : s.Readable job.input excludedFlags) :
    (rounds 2 [job] ⟨s, [], []⟩).1 = .ok () ∧
      (rounds 2 [job] ⟨s, [], []⟩).2.2.server = job.sorted (job.sorted s) := by
  have hsorting : job.UnderWay s (job.sorted s) := Server.sorting_sorted ..
  obtain ⟨c₁, w₁, hfirst, hspent₁, hserver₁, hjob₁⟩ := Job.turn_of_readable (w := ⟨s, [], []⟩) hjob
    (fun _ _ => rfl) hs hcalm hmoves hdecided hread
  have hsound₁ : w₁.server.Sound := hserver₁ ▸ hsorting.sound hs hread
  have hcalm₁ : w₁.server.Calm := hserver₁ ▸ hcalm.dealAll ..
  have hmoves₁ : w₁.server.canMove = true := by
    rw [hserver₁, (Server.Partway.rearranged hsorting).canMove, hmoves]
  have hread₁ : w₁.server.Readable job.input excludedFlags := hserver₁ ▸ hsorting.readable hs hread
  obtain ⟨c₂, w₂, hsecond, -, hserver₂, -⟩ := Job.turn_of_readable hjob₁ hspent₁ hsound₁ hcalm₁
    hmoves₁ hdecided hread₁
  have hrounds : rounds 2 [job] ⟨s, [], []⟩ = (.ok (), [(job.holding c₁).holding c₂], w₂) := by
    rw [rounds_of_ok hfirst, rounds_of_ok hsecond]
    rfl
  rw [hrounds]
  exact ⟨rfl, hserver₂.trans (congrArg job.sorted hserver₁)⟩

include hs hcalm hjob in
theorem rounds_calm_of_not_readable (hread : ¬ s.Readable job.input excludedFlags) :
    (rounds 2 [job] ⟨s, [], []⟩).1 ≠ .ok () ∧ (rounds 2 [job] ⟨s, [], []⟩).2.2.server = s := by
  obtain ⟨fault, c₁, w₁, hfirst, hserver₁⟩ := Job.turn_of_not_readable (w := ⟨s, [], []⟩) hjob
    (fun _ _ => rfl) hs hcalm hread
  rw [rounds_of_error hfirst]
  exact ⟨nofun, hserver₁⟩

variable {k : Nat} (hk : 1 ≤ k) (hlast : k ≤ (job.sort ⟨s, [], []⟩).2.2.record.length)

include hs hcalm hmoves hjob hdecided hk hlast in
theorem rounds_torn (hread : s.Readable job.input excludedFlags) :
    ∃ t, job.UnderWay s t ∧ (job.sort ⟨s, [(k, .drop)], []⟩).2.2.server = t.dropConnections ∧
      (rounds 2 [job] ⟨s, [(k, .drop)], []⟩).1 = .ok () ∧
      (rounds 2 [job] ⟨s, [(k, .drop)], []⟩).2.2.server =
        job.sorted { t with generation := t.generation + 1, logins := t.logins + 1 } := by
  obtain ⟨t, c₁, w₁, ht, -, hlost, hfirst, hspent₁, hserver₁, hjob₁⟩ := Job.turn_torn hjob
    (Server.passes_sort hs hcalm hmoves hjob.alive hdecided) (fun t ht => ht.rearranged) hk hlast
  obtain ⟨mailboxes, hsame⟩ := Server.Partway.rearranged ht
  have hsound := Server.Sorting.sound hs hread ht
  have hreadable := Server.Sorting.readable hs hread ht
  have hsound₁ : w₁.server.Sound := hserver₁ ▸ ⟨hsound.ascending, hsound.boxes⟩
  have hread₁ : w₁.server.Readable job.input excludedFlags :=
    hserver₁ ▸ ⟨hreadable.found, hreadable.headers⟩
  have hcalm₁ : w₁.server.Calm := by
    rw [hserver₁, hsame]
    exact ⟨hcalm.seen, hcalm.listed, hcalm.moves⟩
  have hmoves₁ : w₁.server.canMove = true := by
    rw [hserver₁, hsame]
    exact hmoves
  obtain ⟨c₂, w₂, hsecond, -, hserver₂, -⟩ := Job.turn_of_readable hjob₁ hspent₁ hsound₁ hcalm₁
    hmoves₁ hdecided hread₁
  have hrounds : rounds 2 [job] ⟨s, [(k, .drop)], []⟩ =
      (.ok (), [(job.holding c₁).holding c₂], w₂) := by
    rw [rounds_of_ok hfirst, rounds_of_ok hsecond]
    rfl
  rw [hrounds]
  exact ⟨t, ht, hlost, rfl, hserver₂.trans (congrArg job.sorted hserver₁)⟩

include hs hcalm hjob hk hlast in
theorem rounds_torn_of_not_readable (hread : ¬ s.Readable job.input excludedFlags) :
    (rounds 2 [job] ⟨s, [(k, .drop)], []⟩).2.2.server =
      { s with generation := s.generation + 1, logins := s.logins + 1 } := by
  obtain ⟨t, c₁, w₁, rfl, -, -, hfirst, hspent₁, hserver₁, hjob₁⟩ := Job.turn_torn hjob
    (Server.passes_sort_of_not_readable hs hcalm hjob.alive hread job.fallback job.filters)
    (fun t ht => ht ▸ .refl s) hk hlast
  have hsound₁ : w₁.server.Sound := hserver₁ ▸ ⟨hs.ascending, hs.boxes⟩
  have hcalm₁ : w₁.server.Calm := hserver₁ ▸ ⟨hcalm.seen, hcalm.listed, hcalm.moves⟩
  have hread₁ : ¬ w₁.server.Readable job.input excludedFlags := by
    rw [hserver₁]
    exact fun h => hread ⟨h.found, h.headers⟩
  obtain ⟨fault, c₂, w₂, hsecond, hserver₂⟩ :=
    Job.turn_of_not_readable hjob₁ hspent₁ hsound₁ hcalm₁ hread₁
  rw [rounds_of_ok hfirst, rounds_of_error hsecond]
  exact hserver₂.trans hserver₁

end Rounds

/-- **A connection that breaks does no lasting damage, but for flags of one message.**  If the
connection breaks once while a job sorts messages, the job is connected again, and after one more
round there are the mailboxes that there are after two rounds in which nothing goes wrong.  They
have the same messages, unless a filter was at work on a message when the connection broke: the
message had been moved if it is to be, some changes of its flags had been made and one that counts
had not, and it was in another mailbox by then or had a flag with which messages are left alone.
That message has the flags that were changed before. -/
theorem broken_round_resumed {s : Server} (hs : s.Reachable) (hmoves : s.canMove = true)
    (hlisted : s.hidden = []) (hseen : s.reportedMissing = []) {c : Connection}
    (hjob : job.Connected s c) (hdecided : Filter.Decided job.filters) {k : Nat} (hk : 1 ≤ k)
    (hlast : k ≤ (job.sort ⟨s, [], []⟩).2.2.record.length) :
    let broken := job.sort ⟨s, [(k, .drop)], []⟩
    let torn := rounds 2 [job] ⟨s, [(k, .drop)], []⟩
    let calm := rounds 2 [job] ⟨s, [], []⟩
    broken.1 = .error .connectionLost ∧
      (job.turn ⟨s, [(k, .drop)], []⟩).1 = .ok () ∧
      (calm.1 = .ok () → torn.1 = .ok ()) ∧
      (∀ name, torn.2.2.server.mailboxes.has name = calm.2.2.server.mailboxes.has name) ∧
      (SameMail torn.2.2.server calm.2.2.server ∨
        ∃ msg filter front,
          Halfway s broken.2.2.server job.input excludedFlags job.fallback job.filters msg filter
            front ∧
          SameMailBut
            (((Errand.ofCommands filter.commands).upTo front).after job.input
              (msg.letter job.input))
            ((Errand.ofCommands filter.commands).after job.input (msg.letter job.input))
            torn.2.2.server calm.2.2.server) := by
  intro broken torn calm
  have hcalm : s.Calm := ⟨hseen, hlisted, Or.inl hmoves⟩
  have hlost : broken.1 = .error .connectionLost ∧
      (job.turn ⟨s, [(k, .drop)], []⟩).1 = .ok () := by
    have hpasses : Talk.Passes (job.UnderWay s) job.talk c s :=
      Server.passes_sort hs.sound hcalm hmoves hjob.alive hdecided
    obtain ⟨t, c₁, w₁, -, hsort, -, hturn, -⟩ :=
      Job.turn_torn hjob hpasses (fun t ht => ht.rearranged) hk hlast
    exact ⟨hsort, congrArg Prod.fst hturn⟩
  refine ⟨hlost.1, hlost.2, ?_⟩
  by_cases hread : s.Readable job.input excludedFlags
  · obtain ⟨t, ht, hbroken, hok, hserver⟩ :=
      rounds_torn hs.sound hcalm hmoves hjob hdecided hk hlast hread
    obtain ⟨-, hcalmServer⟩ := rounds_calm hs.sound hcalm hmoves hjob hdecided hread
    obtain ⟨hhas, hmail⟩ :=
      Server.sorted_again hs.sound hread hdecided ht (t.generation + 1) (t.logins + 1)
    have hreached : broken.2.2.server.mailboxes = t.mailboxes :=
      (congrArg Server.mailboxes hbroken).trans rfl
    rw [hserver, hcalmServer]
    refine ⟨fun _ => hok, hhas, hmail.imp_right ?_⟩
    rintro ⟨msg, filter, front, hhalfway, hbut⟩
    exact ⟨msg, filter, front, hhalfway.of_mailboxes hreached, hbut⟩
  · obtain ⟨hfault, hcalmServer⟩ := rounds_calm_of_not_readable hs.sound hcalm hjob hread
    have hserver := rounds_torn_of_not_readable hs.sound hcalm hjob hk hlast hread
    rw [hserver, hcalmServer]
    exact ⟨fun hok => absurd hok hfault, fun _ => rfl, Or.inl fun _ => rfl⟩

/-- The first of two messages is moved and marked as read when the connection breaks, and the second
has not been looked at; or the first is moved and was just to be marked. -/
theorem broken_round_of_two_messages :
    let s := ((Exchange.new "pw").run [.deliver "INBOX" [65] [], .deliver "INBOX" [66] [],
      .addMailbox "Target"]).server
    let filter : Filter :=
      ⟨0, ⟨some "Target", some ["\\Seen"], none, none⟩, [⟨[("or", [⟨"subject", .one ""⟩])]⟩]⟩
    let job : Job Trial Connection := ⟨"me", ⟨Trial.backend,
      ⟨"host", 143, "me", "pw", false, none, none, none⟩, some ⟨0, false, none, false⟩⟩,
      "INBOX", "", [("f", filter)]⟩
    let torn := rounds 2 [job] ⟨s, [(9, .drop)], []⟩
    let calm := rounds 2 [job] ⟨s, [], []⟩
    9 ≤ (job.sort ⟨s, [], []⟩).2.2.record.length ∧ torn.1 = .ok () ∧
      (∀ name, torn.2.2.server.mailboxes.has name = calm.2.2.server.mailboxes.has name) ∧
      torn.2.2.server.mailboxes = calm.2.2.server.mailboxes ∧
      ∃ msg first front, Halfway s (job.sort ⟨s, [(8, .drop)], []⟩).2.2.server "INBOX"
        excludedFlags "" [("f", filter)] msg first front := by
  intro s filter job torn calm
  have hjob : job.Connected s ⟨0, false, none, false⟩ := ⟨rfl, rfl, rfl, by decide, rfl, rfl⟩
  have hdecided : Filter.Decided job.filters := .of_empty _ _ _ _
  have hlast : 9 ≤ (job.sort ⟨s, [], []⟩).2.2.record.length := by decide +kernel
  have hcalm : calm.1 = .ok () := by decide +kernel
  obtain ⟨-, -, hok, hhas, -⟩ := broken_round_resumed (s := s) ⟨"pw", _, rfl⟩ rfl rfl rfl hjob
    hdecided (k := 9) (by decide) hlast
  obtain ⟨-, -, -, -, hmail⟩ := broken_round_resumed (s := s) ⟨"pw", _, rfl⟩ rfl rfl rfl hjob
    hdecided (k := 8) (by decide) (Nat.le_of_succ_le hlast)
  -- The first message has lost its flag, so this is the exception.
  have hunlike : ¬ SameMail (rounds 2 [job] ⟨s, [(8, .drop)], []⟩).2.2.server calm.2.2.server :=
    fun hsame => absurd (hsame "Target") (by decide +kernel)
  obtain ⟨msg, first, front, hhalfway, -⟩ := hmail.resolve_left hunlike
  exact ⟨hlast, hok hcalm, hhas, by decide +kernel, msg, first, front, hhalfway⟩

/-- The connection breaks between the move of a message and the change of its flags, and nobody
marks the message as read any more. -/
theorem moved_message_stays_unread :
    let s := ((Exchange.new "pw").run [.deliver "INBOX" [65] [], .addMailbox "Target"]).server
    let filter : Filter :=
      ⟨0, ⟨some "Target", some ["\\Seen"], none, none⟩, [⟨[("or", [⟨"subject", .one ""⟩])]⟩]⟩
    let job : Job Trial Connection := ⟨"me", ⟨Trial.backend,
      ⟨"host", 143, "me", "pw", false, none, none, none⟩, some ⟨0, false, none, false⟩⟩,
      "INBOX", "", [("f", filter)]⟩
    let torn := rounds 2 [job] ⟨s, [(7, .drop)], []⟩
    let calm := rounds 2 [job] ⟨s, [], []⟩
    (s.Reachable ∧ s.canMove = true ∧ s.hidden = [] ∧ s.reportedMissing = []) ∧
      (job.Connected s ⟨0, false, none, false⟩ ∧ Filter.Decided job.filters) ∧
      7 ≤ (job.sort ⟨s, [], []⟩).2.2.record.length ∧
      ((job.turn ⟨s, [(7, .drop)], []⟩).1 = .ok () ∧ torn.1 = .ok () ∧ calm.1 = .ok ()) ∧
      (torn.2.2.server.box "Target").messages = [⟨1, [], [65]⟩] ∧
      (calm.2.2.server.box "Target").messages = [⟨1, [.seen], [65]⟩] ∧
      ¬ SameMail torn.2.2.server calm.2.2.server := by
  intro s filter job torn calm
  have hdecided : Filter.Decided job.filters := .of_empty _ _ _ _
  have htorn : (torn.2.2.server.box "Target").messages = [⟨1, [], [65]⟩] := by decide +kernel
  have hcalm : (calm.2.2.server.box "Target").messages = [⟨1, [.seen], [65]⟩] := by decide +kernel
  refine ⟨⟨⟨"pw", _, rfl⟩, rfl, rfl, rfl⟩, ⟨⟨rfl, rfl, rfl, by decide, rfl, rfl⟩, hdecided⟩,
    by decide +kernel, by decide +kernel, htorn, hcalm, fun hsame => ?_⟩
  have htarget := hsame "Target"
  rw [StoredMailbox.letters, StoredMailbox.letters, htorn, hcalm] at htarget
  exact absurd htarget (by decide +kernel)

end Poll

end Postroom
