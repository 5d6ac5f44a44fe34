import Postroom.Server

/-!
# Servers under trial

A server whose every connection attempt and request is written down and numbered, with a plan of
mishaps: what goes wrong at which number.
-/

namespace Postroom

/-- Something that goes wrong. -/
inductive Mishap where
  /-- All connections are dropped before the server answers. -/
  | drop
  /-- All connections are dropped, and new ones are refused from then on. -/
  | refuse
  /-- The server does not get to see the request; the answer is a fault. -/
  | fault (fault : Fault)
deriving Repr, DecidableEq

/-- A server under trial. -/
structure Trial where
  /-- The server. -/
  server : Server
  /-- What goes wrong, by number from one on. -/
  plan : List (Nat × Mishap)
  /-- What was asked so far, in order. -/
  record : List String
deriving Repr, DecidableEq

namespace Trial

/-- Writes down what is asked and lets go wrong what is planned. -/
def note (asked : String) (t : Trial) : Option Fault × Trial :=
  let t := { t with record := t.record ++ [asked] }
  match t.plan.lookup t.record.length with
  | none => (none, t)
  | some .drop => (none, { t with server := t.server.dropConnections })
  | some .refuse => (none, { t with server := t.server.dropConnections.refuse true })
  | some (.fault fault) => (some fault, t)

/-- Opens a connection. -/
def connect (settings : Settings) (t : Trial) : Except Fault Connection × Trial :=
  match t.note "connect" with
  | (some fault, t) => (.error fault, t)
  | (none, t) =>
    let (r, server) := t.server.connect settings
    (r, { t with server := server })

/-- Answers a request over a connection. -/
def answer : Answerer (Connection × Trial) := fun request (c, t) =>
  match t.note request.toString with
  | (some fault, t) => (.error fault, c, t)
  | (none, t) =>
    let (reply, c, server) := Server.answer request (c, t.server)
    (reply, c, { t with server := server })

/-- A server under trial as a backend of sessions. -/
def backend : Backend Trial Connection := ⟨connect, answer⟩

end Trial

end Postroom
