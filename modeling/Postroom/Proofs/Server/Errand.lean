import Postroom.Proofs.Pass
import Postroom.Proofs.Server.Sorting

/-! # Between two commands

What is done with a message takes several commands: it is moved, for which a mailbox may
have to be made, and then its flags are changed, one change after the other.  An `Errand`
says all of that, and commands and fallback come to one (`Talk.apply_eq_dispatch`,
`Talk.fallBack_eq_dispatch`).

While it is run, one message at a time has been dealt with in part (`Server.Midway`), and
while messages are sorted those before it have been dealt with and those behind it have
not (`Server.Partway`).
-/

namespace Postroom

namespace Server

/-- Flags after changes that are made one after the other. -/
def reviseBy (changes : List (StoreMode × List Flag)) (flags : List Flag) : List Flag :=
  changes.foldl (fun flags change => combine change.1 (keptFlags change.2) flags) flags

theorem kept_reviseBy (changes : List (StoreMode × List Flag)) {flags : List Flag}
    (h : KeptFlags flags) : KeptFlags (reviseBy changes flags) := by
  induction changes generalizing flags with
  | nil => exact h
  | cons change rest ih => exact ih (kept_combine change.1 (kept_keptFlags change.2) h)

end Server

/-- Commands change flags one change after the other. -/
theorem Commands.revise_eq (commands : Commands) :
    commands.revise = Server.reviseBy commands.changes := by
  obtain ⟨moveTo, addFlags, removeFlags, replaceFlags⟩ := commands
  cases addFlags <;> cases removeFlags <;> cases replaceFlags <;> rfl

/-- What is to be done with a message: where it is moved, and how its flags are changed then. -/
structure Errand where
  /-- The mailbox it is moved to. -/
  target : Option String
  /-- The changes of its flags. -/
  changes : List (StoreMode × List Flag)

namespace Errand

/-- What it comes to when all is done. -/
def treatment (e : Errand) : Treatment :=
  ⟨e.target, Server.reviseBy e.changes, fun _ => Server.kept_reviseBy e.changes⟩

/-- An errand of which only the first changes are made. -/
def upTo (e : Errand) (front : List (StoreMode × List Flag)) : Errand := ⟨e.target, front⟩

/-- What commands ask for. -/
def ofCommands (commands : Commands) : Errand := ⟨commands.moveTo, commands.changes⟩

/-- What is to be done with a message of the input that no filter matches. -/
def ofFallback (input fallback : String) : Errand :=
  if fallback.isEmpty || fallback = input then ⟨none, [(.add, [.flagged])]⟩
  else ⟨some fallback, []⟩

/-- What is to be done with a message for which a filter was chosen, or none. -/
def ofChoice (input fallback : String) : Option Filter → Errand
  | some filter => ofCommands filter.commands
  | none => ofFallback input fallback

theorem treatment_ofCommands (commands : Commands) :
    (ofCommands commands).treatment = .ofCommands commands := by
  simp only [treatment, ofCommands, Treatment.ofCommands, Commands.revise_eq]

theorem treatment_ofFallback (input fallback : String) :
    (ofFallback input fallback).treatment = .ofFallback input fallback := by
  unfold ofFallback Treatment.ofFallback
  split <;> rfl

theorem treatment_ofChoice (input fallback : String) (choice : Option Filter) :
    (ofChoice input fallback choice).treatment = .ofChoice input fallback choice := by
  cases choice with
  | some filter => exact treatment_ofCommands filter.commands
  | none => exact treatment_ofFallback input fallback

end Errand

namespace Talk

/-- Makes changes of the flags of a message. -/
def changeFlags (mailbox : String) (uid : Uid) (changes : List (StoreMode × List Flag)) :
    Talk Unit :=
  changes.forM fun change => setFlags mailbox [uid] change.1 change.2 false

/-- Does what is to be done with a message. -/
def dispatch (e : Errand) (input : String) (uid : Uid) : Talk Unit :=
  match e.target with
  | some target => do
    let moved ← move [uid] input target
    changeFlags target (moved.getD uid) e.changes
  | none => changeFlags input uid e.changes

theorem apply_eq_dispatch (commands : Commands) (input : String) (uid : Uid) :
    apply commands input uid = dispatch (.ofCommands commands) input uid := by
  simp only [apply_eq, reviseFlags_eq, Errand.ofCommands]
  unfold dispatch
  cases commands.moveTo <;> rfl

theorem fallBack_eq_dispatch (input fallback : String) (uid : Uid) :
    fallBack input fallback uid = dispatch (.ofFallback input fallback) input uid := by
  unfold fallBack Errand.ofFallback
  split
  · simp [dispatch, changeFlags]
  · rfl

end Talk

/-! ### States between two commands -/

namespace Server

/-- Two servers differ in their mailboxes at most. -/
def Rearranged (s t : Server) : Prop := ∃ mailboxes, t = { s with mailboxes := mailboxes }

theorem Rearranged.refl (s : Server) : s.Rearranged s := ⟨s.mailboxes, rfl⟩

theorem Rearranged.trans {s t u : Server} (hst : s.Rearranged t) (htu : t.Rearranged u) :
    s.Rearranged u := by
  obtain ⟨first, rfl⟩ := hst
  obtain ⟨last, rfl⟩ := htu
  exact ⟨last, rfl⟩

theorem rearranged_deal (s : Server) (input : String) (t : Treatment) (msg : StoredMessage) :
    s.Rearranged (s.deal input t msg) := by
  unfold deal
  split <;> exact ⟨_, rfl⟩

theorem rearranged_dealAll (s : Server) (input : String) (treat : StoredMessage → Treatment)
    (order : List StoredMessage) : s.Rearranged (s.dealAll input treat order) := by
  induction order generalizing s with
  | nil => exact .refl s
  | cons msg rest ih => exact (rearranged_deal s input (treat msg) msg).trans (ih _)

theorem Rearranged.canMove {s t : Server} (h : s.Rearranged t) : t.canMove = s.canMove := by
  obtain ⟨mailboxes, rfl⟩ := h
  rfl

/-- A server on which a message of the input is being dealt with. -/
inductive Midway (s : Server) (input : String) (e : Errand) (msg : StoredMessage) : Server → Prop
  /-- Nothing has been done yet. -/
  | untouched : Midway s input e msg s
  /-- The mailbox has been made that the message is to be moved to. -/
  | made {target : String} (htarget : e.target = some target)
    (hnew : s.mailboxes.has target = false) : Midway s input e msg (s.put target .empty)
  /-- The message has been moved if it is to be, and the first changes have been made. -/
  | changed {front : List (StoreMode × List Flag)} (hfront : front <+: e.changes) :
    Midway s input e msg (s.deal input (e.upTo front).treatment msg)

/-- A server on which messages of the input are being dealt with, one after the other. -/
inductive Partway (input : String) (errand : StoredMessage → Errand) :
    Server → List StoredMessage → Server → Prop
  /-- There are no messages. -/
  | nil (s : Server) : Partway input errand s [] s
  /-- The first message is being dealt with. -/
  | here {s t : Server} {msg : StoredMessage} {rest : List StoredMessage}
    (h : Midway s input (errand msg) msg t) : Partway input errand s (msg :: rest) t
  /-- The first message has been dealt with. -/
  | next {s t : Server} {msg : StoredMessage} {rest : List StoredMessage}
    (h : Partway input errand (s.deal input (errand msg).treatment msg) rest t) :
    Partway input errand s (msg :: rest) t

namespace Midway

variable {s t : Server} {input : String} {e : Errand} {msg : StoredMessage}
  {rest : List StoredMessage}

theorem rearranged (h : s.Midway input e msg t) : s.Rearranged t := by
  cases h with
  | untouched => exact .refl _
  | made htarget hnew => exact ⟨_, rfl⟩
  | changed hfront => exact rearranged_deal _ input _ _

theorem sound (h : s.Midway input e msg t) (hpending : s.Pending input (msg :: rest)) :
    t.Sound := by
  cases h with
  | untouched => exact hpending.sound
  | made htarget hnew => exact hpending.sound.put _ StoredMailbox.sound_empty
  | changed hfront => exact hpending.sound_deal _

theorem found (h : s.Midway input e msg t) (hinput : s.mailboxes.has input = true) :
    t.mailboxes.has input = true := by
  cases h with
  | untouched => exact hinput
  | made htarget hnew => rw [has_put, hinput, Bool.or_true]
  | changed hfront => rw [has_deal hinput, hinput, Bool.or_true]

end Midway

namespace Partway

variable {input : String} {errand : StoredMessage → Errand} {s t : Server}
  {front back : List StoredMessage}

theorem start (input : String) (errand : StoredMessage → Errand) (s : Server)
    (order : List StoredMessage) : Partway input errand s order s := by
  cases order with
  | nil => exact .nil s
  | cons msg rest => exact .here .untouched

/-- Only mailboxes are different. -/
theorem rearranged {order : List StoredMessage} (h : Partway input errand s order t) :
    s.Rearranged t := by
  induction h with
  | nil s => exact .refl s
  | here h => exact h.rearranged
  | next _ ih => exact (rearranged_deal _ input _ _).trans ih

theorem sound {order : List StoredMessage} (h : Partway input errand s order t)
    (hpending : s.Pending input order) : t.Sound := by
  induction h with
  | nil s => exact hpending.sound
  | here h => exact h.sound hpending
  | next _ ih => exact ih (hpending.deal _)

theorem found {order : List StoredMessage} (h : Partway input errand s order t)
    (hinput : s.mailboxes.has input = true) : t.mailboxes.has input = true := by
  induction h with
  | nil s => exact hinput
  | here h => exact h.found hinput
  | next _ ih => exact ih (by rw [has_deal hinput, hinput, Bool.or_true])

/-- In the end all messages have been dealt with. -/
theorem finish (input : String) (errand : StoredMessage → Errand) (s : Server)
    (order : List StoredMessage) :
    Partway input errand s order (s.dealAll input (fun msg => (errand msg).treatment) order) := by
  induction order generalizing s with
  | nil => exact .nil s
  | cons msg rest ih => exact .next (ih _)

theorem append_right (h : Partway input errand s front t) (back : List StoredMessage) :
    Partway input errand s (front ++ back) t := by
  induction h with
  | nil s => exact start input errand s back
  | here h => exact .here h
  | next _ ih => exact .next ih

theorem append_left
    (h : Partway input errand (s.dealAll input (fun msg => (errand msg).treatment) front) back t) :
    Partway input errand s (front ++ back) t := by
  induction front generalizing s with
  | nil => exact h
  | cons msg rest ih => exact .next (ih h)

end Partway

end Server

end Postroom
