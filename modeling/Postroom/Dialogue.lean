import Postroom.Request

/-!
# Dialogues with a server

What is done over a session depends on what the server answers.  A `Dialogue` is the tree of all
ways in which it can go: it has ended, or it makes a request and goes on with the answer, whatever
that is.  So a statement about every server is a statement about every path of the tree, and
`Dialogue.run` is the path that one server takes.
-/

namespace Postroom

/-- A course of requests with a result. -/
inductive Dialogue (α : Type) : Type where
  /-- Nothing more is asked. -/
  | done (result : α)
  /-- A request, and how to go on with each answer. -/
  | ask (request : Request) (next : Except Fault request.Reply → Dialogue α)

namespace Dialogue

variable {α β σ : Type}

/-- One dialogue after another. -/
def bind : Dialogue α → (α → Dialogue β) → Dialogue β
  | done a, f => f a
  | ask r next, f => ask r fun reply => (next reply).bind f

instance : Monad Dialogue where
  pure := done
  bind := bind

/-- The course a dialogue takes with one server. -/
def run (answer : Answerer σ) : Dialogue α → σ → α × σ
  | done a, s => (a, s)
  | ask r next, s =>
    let (reply, s') := answer r s
    (next reply).run answer s'

@[simp] theorem bind_done (a : α) (f : α → Dialogue β) : (done a).bind f = f a := rfl

@[simp] theorem run_done (answer : Answerer σ) (a : α) (s : σ) :
    (done a).run answer s = (a, s) := rfl

theorem run_ask (answer : Answerer σ) (r : Request)
    (next : Except Fault r.Reply → Dialogue α) (s : σ) :
    (ask r next).run answer s = (next (answer r s).1).run answer (answer r s).2 := rfl

/-- Dialogues in a row are taken in a row. -/
theorem run_bind (answer : Answerer σ) (d : Dialogue α) (f : α → Dialogue β) (s : σ) :
    (d.bind f).run answer s = (f (d.run answer s).1).run answer (d.run answer s).2 := by
  induction d generalizing s with
  | done a => rfl
  | ask r next ih => simp only [bind, run_ask, ih]

end Dialogue

/-- A dialogue that may end with a fault. -/
abbrev Talk (α : Type) : Type := ExceptT Fault Dialogue α

namespace Talk

/-- Makes a request; a fault in the answer ends the talk. -/
def ask (request : Request) : Talk request.Reply := ExceptT.mk (Dialogue.ask request .done)

/-- Makes a request and goes on with the answer, fault or not. -/
def attempt (request : Request) : Talk (Except Fault request.Reply) :=
  ExceptT.mk (Dialogue.ask request fun reply => .done (.ok reply))

end Talk

end Postroom
