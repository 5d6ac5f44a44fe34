import Postroom.Rule
import Postroom.Talk

/-!
# Filters

A filter has rules and commands.  The messages of a mailbox that carry none of some flags are tried
against the filters in order of priority; the commands of the first filter that matches are applied
to the message.  What no filter matches is dealt with in the end: it is moved to a fallback mailbox,
or marked where it is.
-/

namespace Postroom

/-- What is done to a message. -/
structure Commands where
  /-- The mailbox it is moved to. -/
  moveTo : Option String
  /-- Flags that are added. -/
  addFlags : Option (List String)
  /-- Flags that are removed. -/
  removeFlags : Option (List String)
  /-- Flags that take the place of all others. -/
  replaceFlags : Option (List String)
deriving Repr, DecidableEq

/-- Nothing is done. -/
def Commands.none : Commands := ⟨.none, .none, .none, .none⟩

/-- Commands for the messages that rules match. -/
structure Filter where
  /-- Filters with a lower number are tried first. -/
  priority : Int
  /-- What is done to a message. -/
  commands : Commands
  /-- Which messages it is done to. -/
  rules : List Rule
deriving Repr, DecidableEq

/-- Filters by name in the order in which they are tried: by priority, then by name. -/
def Filter.ordered (filters : Assoc Filter) : List (String × Filter) :=
  List.mergeSort filters fun a b => a.2.priority ≤ b.2.priority

/-- Which filter matches a message first. -/
def Filter.firstMatch (headers : Header.Map) : List (String × Filter) → Except Fault (Option Filter)
  | [] => .ok .none
  | (_, filter) :: rest => do
    if ← Rule.anyHolds filter.rules headers then return some filter else firstMatch headers rest

/-- How many messages were dealt with. -/
structure Tally where
  /-- By a filter. -/
  matched : Nat
  /-- Because no filter matched. -/
  fallback : Nat
deriving Repr, DecidableEq

namespace Talk

/-- Flags of wire names, changed in a mailbox if there are any to change. -/
def setFlagNames (mailbox : String) (uid : Uid) (mode : StoreMode) :
    Option (List String) → Talk Unit
  | some names => setFlags mailbox [uid] mode (names.map Flag.ofString) false
  | none => return ()

/-- Applies commands to a message.  After a move the flags are changed in the new mailbox, under the
identifier that the server tells or else under the old one. -/
def apply (commands : Commands) (mailbox : String) (uid : Uid) : Talk Unit := do
  let (mailbox, uid) ← match commands.moveTo with
    | some target => do
      let moved ← move [uid] mailbox target
      pure (target, moved.getD uid)
    | none => pure (mailbox, uid)
  setFlagNames mailbox uid .add commands.addFlags
  setFlagNames mailbox uid .remove commands.removeFlags
  setFlagNames mailbox uid .replace commands.replaceFlags

/-- Tries messages against filters and applies the commands of the first that matches.  The result
is the number of messages matched and the identifiers of the others. -/
def applyFilters (mailbox : String) (filters : List (String × Filter)) :
    List Message → Talk (Nat × List Uid)
  | [] => return (0, [])
  | message :: rest => do
    match ← ExceptT.mk (pure (Filter.firstMatch message.headers filters)) with
    | some filter => do
      apply filter.commands mailbox message.uid
      let (matched, others) ← applyFilters mailbox filters rest
      return (matched + 1, others)
    | none => do
      let (matched, others) ← applyFilters mailbox filters rest
      return (matched, message.uid :: others)

/-- Deals with a message that no filter matches. -/
def fallBack (mailbox fallback : String) (uid : Uid) : Talk Unit := do
  if fallback.isEmpty || fallback = mailbox then
    setFlags mailbox [uid] .add [.flagged] false
  else
    let _ ← move [uid] mailbox fallback

/-- Sorts the messages of a mailbox that carry none of some flags. -/
def sort (mailbox : String) (excluded : List Flag) (fallback : String) (filters : Assoc Filter) :
    Talk Tally := do
  let messages ← searchAndFetch mailbox ⟨[], excluded⟩
  let (matched, others) ← applyFilters mailbox (Filter.ordered filters) messages
  others.forM (fallBack mailbox fallback)
  return ⟨matched, others.length⟩

end Talk

end Postroom
