import Postroom.Session
import Postroom.Wire.Command

/-!
# Connections in a row

A switchboard has connections prepared and hands out the next one whenever a session connects.  It
keeps every client it has made, so what was sent over a connection can be seen after the session has
let it go.
-/

namespace Postroom.Wire

/-- Connections in a row. -/
structure Switchboard where
  /-- What the next attempts bring. -/
  offers : List (Except Fault Client)
  /-- What every attempt after them brings. -/
  exhausted : Fault
  /-- Whether the user is named at once. -/
  login : Bool
  /-- The clients made so far. -/
  clients : List Client
  /-- The number of attempts so far. -/
  attempts : Nat

namespace Switchboard

/-- The prepared connections. -/
def ofOffers (offers : List (Except Fault Client)) (exhausted : Fault) (login : Bool) :
    Switchboard := ⟨offers, exhausted, login, [], 0⟩

/-- Does something with a client. -/
def act {α : Type} (b : Switchboard) (i : Nat) (action : Action α) : Except Fault α × Switchboard :=
  match b.clients[i]? with
  | none => (.error .notConnected, b)
  | some client =>
    let (r, client) := action.run.run client
    (r, { b with clients := b.clients.set i client })

/-- Makes the next client; its handle is its place in the row. -/
def connect (settings : Settings) (b : Switchboard) : Except Fault Nat × Switchboard :=
  let b := { b with attempts := b.attempts + 1 }
  match b.offers with
  | [] => (.error b.exhausted, b)
  | .error fault :: rest => (.error fault, { b with offers := rest })
  | .ok client :: rest =>
    let i := b.clients.length
    let b := { b with offers := rest, clients := b.clients ++ [client] }
    if b.login then
      let (r, b) := b.act i (Client.login settings.username settings.password)
      (r.map fun _ => i, b)
    else (.ok i, b)

/-- Answers a request over a connection. -/
def answer : Answerer (Nat × Switchboard) := fun request (i, b) =>
  let (reply, b) := b.act i (Client.answer request)
  (reply, i, b)

/-- Connections in a row as a backend of sessions. -/
def backend : Backend Switchboard Nat := ⟨connect, answer⟩

end Switchboard

end Postroom.Wire
