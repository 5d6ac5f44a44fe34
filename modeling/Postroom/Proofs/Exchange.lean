import Postroom.Proofs.Server.Sound

/-! # Servers that can arise

An `Exchange` is a server with all connections that were opened to it.  What happens
to it is an `Event`: something done to the server from outside, a new connection,
or a request over one of the connections that there are, in whatever state it is.
A server is reachable (`Server.Reachable`) if some sequence of events leads to it,
and every reachable server is sound (`Server.Reachable.sound`).
-/

namespace Postroom

/-- A server with the connections that were opened to it, the oldest first. -/
structure Exchange where
  /-- The server. -/
  server : Server
  /-- The connections from the server's end. -/
  connections : List Connection

namespace Exchange

/-- Something that happens. -/
inductive Event where
  /-- A message comes in. -/
  | deliver (mailbox : String) (content : List UInt8) (flags : List Flag)
  /-- A mailbox is made. -/
  | addMailbox (name : String)
  /-- All connections break. -/
  | dropConnections
  /-- New connections are refused, or accepted again. -/
  | refuse (on : Bool)
  /-- The server loses the command for moving messages. -/
  | loseMove
  /-- The server loses the command for removing named messages. -/
  | loseExpungeUids
  /-- A mailbox is reported as missing from now on. -/
  | reportMissing (name : String)
  /-- A mailbox is not listed from now on. -/
  | hide (name : String)
  /-- Someone connects. -/
  | connect (settings : Settings)
  /-- A request is made over the connection at a place in the row. -/
  | request (place : Nat) (request : Request)

/-- A new server, to which nobody has connected. -/
def new (password : String) : Exchange := ⟨Server.new password, []⟩

/-- What an event makes of a server and its connections. -/
def step (x : Exchange) : Event → Exchange
  | .deliver mailbox content flags =>
    { x with server := (x.server.deliver mailbox content flags).2 }
  | .addMailbox name => { x with server := x.server.addMailbox name }
  | .dropConnections => { x with server := x.server.dropConnections }
  | .refuse on => { x with server := x.server.refuse on }
  | .loseMove => { x with server := { x.server with canMove := false } }
  | .loseExpungeUids => { x with server := { x.server with canExpungeUids := false } }
  | .reportMissing name =>
    { x with server := { x.server with reportedMissing := name :: x.server.reportedMissing } }
  | .hide name => { x with server := { x.server with hidden := name :: x.server.hidden } }
  | .connect settings =>
    match x.server.connect settings with
    | (.ok c, s) => ⟨s, x.connections ++ [c]⟩
    | (.error _, s) => { x with server := s }
  | .request place r =>
    match x.connections[place]? with
    | some c =>
      let (_, c, s) := Server.answer r (c, x.server)
      ⟨s, x.connections.set place c⟩
    | none => x

/-- What events in a row make of a server and its connections. -/
def run (x : Exchange) (events : List Event) : Exchange := events.foldl step x

/-- A new connection leaves the mailboxes alone. -/
theorem mailboxes_connect (settings : Settings) (s : Server) :
    (s.connect settings).2.mailboxes = s.mailboxes := by
  unfold Server.connect
  split
  · rfl
  · split <;> rfl

theorem sound_step {x : Exchange} (h : x.server.Sound) (e : Event) : (x.step e).server.Sound := by
  cases e with
  | deliver mailbox content flags =>
    exact h.put mailbox ((h.box mailbox).push (Server.kept_keptFlags flags) content)
  | addMailbox name => exact h.put name (h.box name)
  | dropConnections | refuse on | loseMove | loseExpungeUids | reportMissing name | hide name =>
    exact ⟨h.ascending, h.boxes⟩
  | connect settings =>
    have hsame := mailboxes_connect settings x.server
    simp only [step]
    split <;> next s hs =>
      rw [hs] at hsame
      exact ⟨hsame ▸ h.ascending, hsame ▸ h.boxes⟩
  | request place r =>
    simp only [step]
    split
    · exact h.answer r _
    · exact h

theorem sound_run {x : Exchange} (h : x.server.Sound) (events : List Event) :
    (x.run events).server.Sound := by
  induction events generalizing x with
  | nil => exact h
  | cons e rest ih => exact ih (sound_step h e)

end Exchange

namespace Server

/-- Some sequence of events leads from a new server to this one. -/
def Reachable (s : Server) : Prop :=
  ∃ password events, ((Exchange.new password).run events).server = s

theorem Reachable.sound {s : Server} (h : s.Reachable) : s.Sound := by
  obtain ⟨password, events, rfl⟩ := h
  exact Exchange.sound_run (sound_new password) events

end Server

end Postroom
