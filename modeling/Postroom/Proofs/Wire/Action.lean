import Postroom.Wire.Command

/-! # The course of an action

`Action.exec` is what an action does with one client: its result, and the client as it leaves it.
The equations follow the ways in which actions are put together.  Sending a command and reading up
to its completion have one each, so what a command does is read off from its parts.
-/

namespace Postroom.Wire

open Text

/-- The line with which a command is sent. -/
def commandLine (tag : Nat) (command : String) : List UInt8 :=
  Utf8.bytes ("a" ++ tag.repr ++ " " ++ command) ++ [13, 10]

namespace Action

variable {α β : Type}

/-- The result of an action, and the client in which it leaves the connection. -/
def exec (action : Action α) (c : Client) : Except Fault α × Client := action.run.run c

variable (c : Client)

@[simp] theorem exec_pure (a : α) : exec (pure a) c = (.ok a, c) := rfl

@[simp] theorem exec_throw (fault : Fault) :
    exec (throw fault : Action α) c = (.error fault, c) := rfl

@[simp] theorem exec_get : exec get c = (.ok c, c) := rfl

@[simp] theorem exec_set (c' : Client) : exec (set c') c = (.ok (), c') := rfl

/-- What is decided without the connection leaves it alone. -/
@[simp] theorem exec_liftM (r : Except Fault α) : exec (liftM r) c = (r, c) := by
  cases r <;> rfl

@[simp] theorem exec_ofExcept (r : Except Fault α) :
    exec (MonadExcept.ofExcept r : Action α) c = (r, c) := by
  cases r <;> rfl

theorem exec_bind (action : Action α) (f : α → Action β) :
    exec (action >>= f) c =
      match exec action c with
      | (.ok a, c') => exec (f a) c'
      | (.error fault, c') => (.error fault, c') := by
  change (ExceptT.bindCont f (action.run.run c).1).run (action.run.run c).2 = _
  unfold exec
  rcases action.run.run c with ⟨_ | a, c'⟩ <;> rfl

/-- Nothing is done behind an action that has no result to be looked at. -/
theorem exec_discard (action : Action Unit) :
    exec (action >>= fun _ => pure ()) c = exec action c := by
  rw [exec_bind]
  rcases exec action c with ⟨_ | _, c'⟩ <;> rfl

theorem exec_tryCatch (action : Action α) (handler : Fault → Action α) :
    exec (tryCatch action handler) c =
      match exec action c with
      | (.ok a, c') => (.ok a, c')
      | (.error fault, c') => exec (handler fault) c' := by
  unfold exec ExceptT.run StateT.run
  simp only [tryCatch, tryCatchThe, MonadExceptOf.tryCatch, ExceptT.tryCatch, ExceptT.mk, bind,
    StateT.bind]
  rcases action c with ⟨_ | a, c'⟩ <;> rfl

end Action

namespace Client

open Postroom.Wire.Action

variable {c : Client} {bs : List UInt8} {command : String}

theorem exec_write_of_open (h : c.blocked = none) :
    exec (write bs) c = (.ok (), { c with sent := c.sent ++ bs }) := by
  rw [write, exec_bind, exec_get]
  simp only [h]
  rfl

theorem exec_write_of_blocked {failure : Stream.Failure} (h : c.blocked = some failure) :
    exec (write bs) c = (.error (.stream failure), { c with pending := true }) := by
  rw [write, exec_bind, exec_get]
  simp only [h]
  rfl

/-- A client that has sent a command with the next tag. -/
def issued (c : Client) (command : String) : Client :=
  { c with
    tag := c.tag + 1
    sent := c.sent ++ commandLine (c.tag + 1) command
    exchanges := .sent ("a" ++ (c.tag + 1).repr ++ " " ++ command) :: c.exchanges }

@[simp] theorem issued_incoming : (c.issued command).incoming = c.incoming := rfl

@[simp] theorem issued_blocked : (c.issued command).blocked = c.blocked := rfl

@[simp] theorem issued_tag : (c.issued command).tag = c.tag + 1 := rfl

@[simp] theorem issued_sent :
    (c.issued command).sent = c.sent ++ commandLine (c.tag + 1) command := rfl

theorem exec_send_of_open (h : c.blocked = none) :
    exec (send command) c = (.ok (), c.issued command) := by
  rw [send, exec_bind, exec_get]
  simp only [exec_bind, exec_set, exec_write_of_open (c := { c with tag := c.tag + 1 }) h]
  rfl

/-- A tag is used up although nothing could be sent. -/
theorem exec_send_of_blocked {failure : Stream.Failure} (h : c.blocked = some failure) :
    exec (send command) c =
      (.error (.stream failure), { c with tag := c.tag + 1, pending := true }) := by
  rw [send, exec_bind, exec_get]
  simp only [exec_bind, exec_set, exec_write_of_blocked (c := { c with tag := c.tag + 1 }) h]

theorem exec_readLine {line : Line} {rest : List Line} (h : c.incoming = line :: rest) :
    exec readLine c =
      (.ok line, { c with incoming := rest, exchanges := .received line :: c.exchanges }) := by
  rw [readLine, exec_bind, exec_get]
  simp only [h]
  rfl

/-- What is read up to a completion leaves the lines behind it. -/
theorem exec_readCompletion {outcome : Except Fault Completed} {read later : List Line}
    (hincoming : c.incoming = read ++ later)
    (hread : completionIn ("a" ++ c.tag.repr) c.ending [] [] c.incoming = (outcome, later)) :
    exec readCompletion c = (outcome, { c with
      incoming := later
      exchanges := (read.map Exchange.received).reverse ++ c.exchanges }) := by
  have htaken : c.incoming.take (c.incoming.length - later.length) = read := by
    simp [hincoming]
  rw [readCompletion, exec_bind, exec_get]
  simp only [hread, htaken, exec_bind, exec_set]
  exact exec_ofExcept _ _

end Client

end Postroom.Wire
