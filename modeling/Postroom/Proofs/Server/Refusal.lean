import Postroom.Proofs.Exchange

/-! # What a refused command leaves behind

A command that is answered with a fault has done nothing to the server
(`answer_eq_error`).  That is plain for all commands but copying and moving, which take
messages out of the open mailbox before they look up the other one again: the second
look-up never fails (`copyInto_cases`).

Two kinds of connections are refused for good.  One that was logged out, or that was
there when connections were dropped, gets a fault for every request (`answer_of_dead`);
one that opened its mailbox for reading gets one for every request that would change
messages there (`answer_of_readOnly`).  Neither kind turns into another by whatever
happens later, at this connection or elsewhere: `Exchange.Standing` is what holds of a
connection from one event to the next, and so as long as an exchange goes on.
-/

namespace Postroom

/-- Whether a request is for a change of messages in the open mailbox. -/
def Request.changesMessages : Request → Bool
  | store .. | copy .. | move .. | expunge | expungeUids _ => true
  | _ => false

namespace Server

variable {s : Server} {c : Connection} {r : Request} {fault : Fault}

/-! ### Answers -/

/-- Nothing is copied from a mailbox that cannot be written. -/
theorem copyInto_of_not_writable (h : s.writable c = .error fault) (uids : List Uid)
    (target : String)
    (remove : Bool) : s.copyInto c uids target remove = (.error fault, s) := by
  have hsource : s.copySource c target = .error fault := by rw [copySource, h]; rfl
  exact copyInto_of_error hsource uids remove

theorem changeOpen_of_not_writable (h : s.writable c = .error fault)
    (f : StoredMailbox → StoredMailbox) : s.changeOpen c f = .error fault := by
  rw [changeOpen, h]
  rfl

/-- Over a connection that cannot be used every request is answered with the fault. -/
theorem answer_of_dead (h : s.check c = .error fault) (r : Request) :
    answer r (c, s) = (.error fault, c, s) := by
  have hselected : s.selected c = .error fault := by rw [selected, h]; rfl
  have hwritable : s.writable c = .error fault := by rw [writable, hselected]; rfl
  have hmessages : s.openMessages c = .error fault := by rw [openMessages, hselected]; rfl
  have hcopy := copyInto_of_not_writable hwritable
  have hchange := changeOpen_of_not_writable hwritable
  cases r <;>
    simp only [answer, openMailbox, h, hwritable, hmessages, hcopy, hchange] <;> rfl

/-- A mailbox that is open for reading cannot be written. -/
theorem writable_of_readOnly (h : c.readOnly = true) : ∃ fault, s.writable c = .error fault := by
  rcases hw : s.writable c with fault | name
  · exact ⟨fault, rfl⟩
  · obtain ⟨-, -, hwritable⟩ := writable_eq_ok_iff.mp hw
    exact absurd (h.symm.trans hwritable) Bool.noConfusion

/-- Messages of a mailbox that is open for reading are not changed. -/
theorem answer_of_readOnly (h : c.readOnly = true) (hr : r.changesMessages = true) (s : Server) :
    ∃ fault, answer r (c, s) = (.error fault, c, s) := by
  obtain ⟨fault, hw⟩ := writable_of_readOnly (s := s) h
  have hcopy := copyInto_of_not_writable hw
  have hchange := changeOpen_of_not_writable hw
  cases r with
  | store uids mode flags => exact ⟨fault, by simp only [answer, hchange]; rfl⟩
  | copy uids target => exact ⟨fault, by rw [answer_copy, hcopy]⟩
  | move uids target =>
    rcases answer_move uids target c s with ⟨other, hmove⟩ | hmove
    · exact ⟨other, hmove⟩
    · exact ⟨fault, by rw [hmove, hcopy]⟩
  | expunge => exact ⟨fault, by simp only [answer, hchange]; rfl⟩
  | expungeUids uids => exact ⟨fault, by simp only [answer, hw]; rfl⟩
  | _ => cases hr

/-- A change that is answered with a fault was not made. -/
theorem changing_eq_error {α : Type} {x : Except Fault (α × Server)}
    (h : (changing c s x).1 = .error fault) : (changing c s x).2.2 = s := by
  rcases x with _ | ⟨a, t⟩
  · rfl
  · cases h

/-- Copies that are answered with a fault were not made, and nothing was taken out for them. -/
theorem copyInto_eq_error {uids : List Uid} {target : String} {remove : Bool}
    (h : (s.copyInto c uids target remove).1 = .error fault) :
    (s.copyInto c uids target remove).2 = s := by
  rcases copyInto_cases s c uids target remove with ⟨other, hcopy⟩ | ⟨source, -, hcopy⟩
  · rw [hcopy]
  · rw [hcopy] at h
    cases h

/-- **A request that is answered with a fault leaves the server as it is.** -/
theorem answer_eq_error (h : (answer r (c, s)).1 = .error fault) : (answer r (c, s)).2.2 = s := by
  cases r with
  | select name | examine name | list | search criteria | fetch uids items => rfl
  | create name | store uids mode flags | expunge | expungeUids uids | append name flags content =>
    exact changing_eq_error h
  | delete name =>
    simp only [answer] at h ⊢
    split at h
    · rfl
    · cases h
  | logout =>
    simp only [answer]
    split <;> rfl
  | copy uids target =>
    rw [answer_copy] at h ⊢
    exact copyInto_eq_error h
  | move uids target =>
    rcases answer_move uids target c s with ⟨other, hmove⟩ | hmove <;> rw [hmove] at h ⊢
    exact copyInto_eq_error h

/-! ### Connections -/

/-- Whether a connection was logged out, or was there when connections were dropped. -/
def Ended (c : Connection) (generation : Nat) : Prop :=
  c.loggedOut = true ∨ c.generation < generation

/-- A connection that has ended cannot be used. -/
theorem Ended.check (h : Ended c s.generation) : ∃ fault, s.check c = .error fault := by
  unfold Server.check
  rcases h with h | h
  · exact ⟨_, if_pos h⟩
  · by_cases hout : c.loggedOut
    · exact ⟨_, if_pos hout⟩
    · exact ⟨_, by rw [if_neg hout, if_pos (Nat.ne_of_gt h)]⟩

/-- What a request leaves of a connection. -/
structure Continues (r : Request) (c c' : Connection) : Prop where
  /-- It is as old as it was. -/
  generation : c'.generation = c.generation
  /-- If it was logged out, it is. -/
  loggedOut : c.loggedOut = true → c'.loggedOut = true
  /-- A mailbox open for reading stays so unless one is opened for changes. -/
  readOnly : (∀ name, r ≠ .select name) → c.readOnly = true → c'.readOnly = true

theorem Continues.same : Continues r c c := ⟨rfl, id, fun _ => id⟩

theorem Continues.of_changing {α : Type} (x : Except Fault (α × Server)) :
    Continues r c (changing c s x).2.1 := by
  rcases x with _ | ⟨a, t⟩ <;> exact .same

theorem continues_answer (r : Request) (c : Connection) (s : Server) :
    Continues r c (answer r (c, s)).2.1 := by
  cases r with
  | select name =>
    simp only [answer, openMailbox]
    split
    · exact .same
    · split <;> exact ⟨rfl, id, fun hr => absurd rfl (hr name)⟩
  | examine name =>
    simp only [answer, openMailbox]
    split
    · exact .same
    · split
      · exact ⟨rfl, id, fun _ => id⟩
      · exact ⟨rfl, id, fun _ _ => rfl⟩
  | list | search criteria | fetch uids items | copy uids target => exact .same
  | create name | store uids mode flags | expunge | expungeUids uids | append name flags content =>
    exact .of_changing _
  | delete name =>
    simp only [answer]
    split <;> exact ⟨rfl, id, fun _ => id⟩
  | move uids target =>
    rcases answer_move uids target c s with ⟨fault, h⟩ | h <;> rw [h] <;> exact .same
  | logout =>
    simp only [answer]
    split
    · exact ⟨rfl, fun _ => rfl, fun _ => id⟩
    · exact .same

/-- No request drops connections. -/
theorem generation_answer (r : Request) (c : Connection) (s : Server) :
    (answer r (c, s)).2.2.generation = s.generation := by
  have heffect := effect_answer r c s
  generalize (answer r (c, s)).2.2 = t at heffect
  cases heffect <;> rfl

end Server

/-! ### As an exchange goes on -/

namespace Exchange

open Server (Ended)

variable {x : Exchange} {place : Nat} {c : Connection}

theorem run_append (x : Exchange) (events more : List Event) :
    x.run (events ++ more) = (x.run events).run more := List.foldl_append

/-- Something that holds of the connection at a place, and of how often connections were dropped. -/
def Standing (P : Connection → Nat → Prop) (place : Nat) (x : Exchange) : Prop :=
  ∃ c, x.connections[place]? = some c ∧ P c x.server.generation

/-- What happens elsewhere leaves a connection as it is, and connections are not
dropped less often. -/
theorem connection_step (h : x.connections[place]? = some c) (e : Event)
    (he : ∀ r, e ≠ .request place r) :
    (x.step e).connections[place]? = some c ∧
      x.server.generation ≤ (x.step e).server.generation := by
  cases e with
  | dropConnections => exact ⟨h, Nat.le_succ _⟩
  | connect settings =>
    have hlt : place < x.connections.length := (List.getElem?_eq_some_iff.mp h).1
    have hgeneration : (x.server.connect settings).2.generation = x.server.generation := by
      unfold Server.connect
      split
      · rfl
      · split <;> rfl
    simp only [step]
    split <;> next hs =>
      rw [hs] at hgeneration
      refine ⟨?_, Nat.le_of_eq hgeneration.symm⟩
      first
        | exact h
        | rw [List.getElem?_append_left hlt, h]
  | request other r =>
    have hne : other ≠ place := by
      rintro rfl
      exact he r rfl
    simp only [step]
    split
    · next d _ =>
      refine ⟨?_, Nat.le_of_eq (Server.generation_answer r d x.server).symm⟩
      rw [List.getElem?_set_ne hne, h]
    · exact ⟨h, Nat.le_refl _⟩
  | _ => exact ⟨h, Nat.le_refl _⟩

/-- A request over a connection makes of it what the answer does. -/
theorem step_request (h : x.connections[place]? = some c) (r : Request) :
    (x.step (.request place r)).connections[place]? = some (Server.answer r (c, x.server)).2.1 ∧
      (x.step (.request place r)).server = (Server.answer r (c, x.server)).2.2 := by
  have hstep : x.step (.request place r) = ⟨(Server.answer r (c, x.server)).2.2,
      x.connections.set place (Server.answer r (c, x.server)).2.1⟩ := by
    simp only [step, h]
  rw [hstep]
  exact ⟨List.getElem?_set_self (List.getElem?_eq_some_iff.mp h).1, rfl⟩

section Standing

variable {P : Connection → Nat → Prop} {Q : Request → Prop}
  (hlater : ∀ c m n, m ≤ n → P c m → P c n)
  (hanswer : ∀ c s r, Q r → P c s.generation → P (Server.answer r (c, s)).2.1 s.generation)

include hlater hanswer in
theorem Standing.step (h : x.Standing P place) {e : Event}
    (he : ∀ r, e = .request place r → Q r) : (x.step e).Standing P place := by
  obtain ⟨c, hc, hP⟩ := h
  by_cases hhere : ∃ r, e = .request place r
  · obtain ⟨r, rfl⟩ := hhere
    obtain ⟨hnext, hserver⟩ := step_request hc r
    refine ⟨_, hnext, ?_⟩
    rw [hserver, Server.generation_answer]
    exact hanswer c x.server r (he r rfl) hP
  · obtain ⟨hsame, hle⟩ := connection_step hc e fun r heq => hhere ⟨r, heq⟩
    exact ⟨c, hsame, hlater c _ _ hle hP⟩

include hlater hanswer in
theorem Standing.run (h : x.Standing P place) {events : List Event}
    (hevents : ∀ r, .request place r ∈ events → Q r) : (x.run events).Standing P place := by
  induction events generalizing x with
  | nil => exact h
  | cons e rest ih =>
    exact ih (h.step hlater hanswer fun r heq => hevents r (heq ▸ List.mem_cons_self))
      fun r hr => hevents r (List.mem_cons_of_mem _ hr)

end Standing

/-- A connection that has ended has ended for good. -/
theorem ended_run (h : x.Standing Ended place) (events : List Event) :
    (x.run events).Standing Ended place := by
  refine h.run (Q := fun _ => True) (fun c m n hle hc => ?_) (fun c s r _ hc => ?_)
    fun _ _ => trivial
  · exact hc.imp id fun hlt => Nat.lt_of_lt_of_le hlt hle
  · have hcontinues := Server.continues_answer r c s
    exact hc.imp hcontinues.loggedOut fun hlt => hcontinues.generation ▸ hlt

/-- A mailbox that is open for reading stays so as long as none is opened for changes. -/
theorem readOnly_run (h : x.Standing (fun c _ => c.readOnly = true) place) {events : List Event}
    (hevents : ∀ name, .request place (.select name) ∉ events) :
    (x.run events).Standing (fun c _ => c.readOnly = true) place := by
  refine h.run (Q := fun r => ∀ name, r ≠ .select name) (fun c m n hle hc => hc)
    (fun c s r hr hc => ?_) fun r hr name heq => ?_
  · exact (Server.continues_answer r c s).readOnly hr hc
  · exact hevents name (heq ▸ hr)

/-- Every request over the connection at a place is answered with a fault and changes nothing. -/
def Deaf (x : Exchange) (place : Nat) : Prop :=
  ∃ c, x.connections[place]? = some c ∧
    ∀ r, ∃ fault, Server.answer r (c, x.server) = (.error fault, c, x.server)

theorem deaf_of_ended (h : x.Standing Ended place) : x.Deaf place := by
  obtain ⟨c, hc, hended⟩ := h
  obtain ⟨fault, hcheck⟩ := hended.check
  exact ⟨c, hc, fun r => ⟨fault, Server.answer_of_dead hcheck r⟩⟩

/-- Logging out ends a connection. -/
theorem ended_of_logout (hc : x.connections[place]? = some c)
    (hout : (Server.answer .logout (c, x.server)).1 = .ok ()) :
    (x.step (.request place .logout)).Standing Ended place := by
  obtain ⟨hnext, -⟩ := step_request hc .logout
  refine ⟨_, hnext, Or.inl ?_⟩
  simp only [Server.answer] at hout ⊢
  split at hout
  · rfl
  · cases hout

/-- A new connection is the last one, and as old as the server. -/
theorem step_connect {settings : Settings} (hc : (x.server.connect settings).1 = .ok c) :
    (x.step (.connect settings)).connections = x.connections ++ [c] ∧
      c.generation = (x.step (.connect settings)).server.generation := by
  unfold Server.connect at hc
  split at hc
  · cases hc
  · next haccepting =>
    split at hc
    · cases hc
    · next hright =>
      obtain rfl := Except.ok.inj hc
      simp only [step, Server.connect, if_neg haccepting, if_neg hright, and_self]

/-- Connections that are there when all are dropped have ended. -/
theorem ended_of_dropConnections (h : x.Standing (fun c n => c.generation ≤ n) place) :
    (x.step .dropConnections).Standing Ended place := by
  obtain ⟨c, hc, hle⟩ := h
  exact ⟨c, hc, Or.inr (Nat.lt_succ_of_le hle)⟩

/-- A connection is never ahead of its server. -/
theorem aged_run (h : x.Standing (fun c n => c.generation ≤ n) place) (events : List Event) :
    (x.run events).Standing (fun c n => c.generation ≤ n) place := by
  refine h.run (P := fun c n => c.generation ≤ n) (Q := fun _ => True)
    (fun c m n hle hc => Nat.le_trans hc hle)
    (fun c s r _ hc => ?_) fun _ _ => trivial
  exact (Server.continues_answer r c s).generation ▸ hc

/-- A mailbox that was opened for reading is open for reading. -/
theorem readOnly_of_examine {name : String} {status : MailboxStatus}
    (hc : x.connections[place]? = some c)
    (hopened : (Server.answer (.examine name) (c, x.server)).1 = .ok status) :
    (x.step (.request place (.examine name))).Standing (fun c _ => c.readOnly = true) place := by
  obtain ⟨hnext, -⟩ := step_request hc (.examine name)
  refine ⟨_, hnext, ?_⟩
  simp only [Server.answer, Server.openMailbox] at hopened ⊢
  split at hopened
  · cases hopened
  · split at hopened
    · cases hopened
    · rfl

/-- The connection at a place cannot change messages of the mailbox that it has open. -/
def ReadsOnly (x : Exchange) (place : Nat) : Prop :=
  ∃ c, x.connections[place]? = some c ∧ ∀ r : Request, r.changesMessages = true →
    ∃ fault, Server.answer r (c, x.server) = (.error fault, c, x.server)

theorem readsOnly_of_readOnly (h : x.Standing (fun c _ => c.readOnly = true) place) :
    x.ReadsOnly place := by
  obtain ⟨c, hc, hread⟩ := h
  exact ⟨c, hc, fun r hr => Server.answer_of_readOnly hread hr x.server⟩

/-- **A command that fails changes nothing.**  A request that is answered with a fault leaves all
mailboxes as they are, whatever state the server and the connection are in.  A connection that was
logged out, or that was opened before connections were dropped, gets a fault for every request, and
one that opened a mailbox for reading gets one for every request that would change
messages in it. -/
theorem failing_commands_change_nothing :
    (∀ (s : Server) (c : Connection) (r : Request) (fault : Fault),
      (Server.answer r (c, s)).1 = .error fault →
        (Server.answer r (c, s)).2.2.mailboxes = s.mailboxes) ∧
    (∀ (x : Exchange) (place : Nat) (c : Connection), x.connections[place]? = some c →
      (Server.answer .logout (c, x.server)).1 = .ok () →
        ∀ events, (x.run (.request place .logout :: events)).Deaf place) ∧
    (∀ (x : Exchange) (settings : Settings) (c : Connection),
      (x.server.connect settings).1 = .ok c → ∀ before after,
        (x.run (.connect settings :: (before ++ .dropConnections :: after))).Deaf
          x.connections.length) ∧
    ∀ (x : Exchange) (place : Nat) (c : Connection) (name : String) (status : MailboxStatus),
      x.connections[place]? = some c →
      (Server.answer (.examine name) (c, x.server)).1 = .ok status →
      ∀ events, (∀ other, .request place (.select other) ∉ events) →
        (x.run (.request place (.examine name) :: events)).ReadsOnly place := by
  refine ⟨fun s c r fault h => ?_, fun x place c hc hout events => ?_,
    fun x settings c hc before after => ?_,
    fun x place c name status hc hopened events hevents => ?_⟩
  · rw [Server.answer_eq_error h]
  · exact deaf_of_ended (ended_run (ended_of_logout hc hout) events)
  · obtain ⟨hconnections, hgeneration⟩ := step_connect hc
    have hnew : (x.step (.connect settings)).Standing (fun c n => c.generation ≤ n)
        x.connections.length := by
      refine ⟨c, ?_, Nat.le_of_eq hgeneration⟩
      rw [hconnections, List.getElem?_concat_length]
    show Deaf ((x.step (.connect settings)).run (before ++ .dropConnections :: after)) _
    rw [run_append]
    exact deaf_of_ended (ended_run (ended_of_dropConnections (aged_run hnew before)) after)
  · exact readsOnly_of_readOnly (readOnly_run (readOnly_of_examine hc hopened) hevents)

/-- A move to a mailbox that is not there, a connection that was logged out, one that was dropped,
and one that reads a mailbox while mail comes in. -/
theorem refused_at_four_connections :
    let settings : Settings := ⟨"host", 143, "me", "pw", false, none, none, none⟩
    let x := (new "pw").run [.deliver "INBOX" [65] [], .connect settings]
    let c : Connection := ⟨0, false, none, false⟩
    let opened : Connection := ⟨0, false, some "INBOX", false⟩
    (Server.answer (.move [1] "Gone") (opened, x.server)).2.2.mailboxes = x.server.mailboxes ∧
      (x.run [.request 0 .logout, .connect settings]).Deaf 0 ∧
      (x.run [.connect settings, .deliver "INBOX" [66] [], .dropConnections,
        .connect settings]).Deaf 1 ∧
      x.connections[0]? = some c ∧
      (x.run [.request 0 (.examine "INBOX"), .deliver "INBOX" [66] []]).ReadsOnly 0 := by
  intro settings x c opened
  obtain ⟨hfailed, hout, hdropped, hread⟩ := failing_commands_change_nothing
  refine ⟨?_, ?_, ?_, by decide, ?_⟩
  · exact hfailed x.server opened (.move [1] "Gone") (Server.missing "Gone") (by decide)
  · exact hout x 0 c (by decide) (by decide) [.connect settings]
  · exact hdropped x settings c (by decide) [.deliver "INBOX" [66] []] [.connect settings]
  · refine hread x 0 c "INBOX" ⟨[], 1, 0, none, [], some 2, some 1, true⟩ (by decide) (by decide)
      [.deliver "INBOX" [66] []] ?_
    intro other h
    cases List.mem_singleton.mp h

end Exchange

end Postroom
