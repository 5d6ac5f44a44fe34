import Postroom.Assoc
import Postroom.Dialogue

/-!
# Work on mailboxes

What is done with the mailboxes of an account, as dialogues with its server.  Each piece of work
opens the mailbox it is about.  Opening may create a mailbox that is missing, once.  Messages are
moved in one step where the server can, and otherwise copied, marked and removed; a move to a
mailbox that is missing creates it and is tried once more, unless the server lists the mailbox.
-/

namespace Postroom.Talk

/-- Opens a mailbox, for reading or for changes. -/
def openOnce (mailbox : String) (readOnly : Bool) : Talk (Except Fault MailboxStatus) :=
  if readOnly then attempt (.examine mailbox) else attempt (.select mailbox)

/-- Opens a mailbox; one that is missing is created first if that is wanted. -/
def openMailbox (mailbox : String) (readOnly autoCreate : Bool) : Talk MailboxStatus := do
  match ← openOnce mailbox readOnly with
  | .ok status => return status
  | .error fault =>
    if autoCreate && fault.isMailboxMissing then
      ask (.create mailbox)
      match ← openOnce mailbox readOnly with
      | .ok status => return status
      | .error fault => throw fault
    else throw fault

/-- The mailboxes of the account by name. -/
def list : Talk (Assoc Listing) := do
  let listings ← ask .list
  return Assoc.ofList (listings.map fun l => (l.name, l))

/-- The messages in a mailbox that meet criteria. -/
def search (mailbox : String) (criteria : Criteria) : Talk (List Uid) := do
  let _ ← openMailbox mailbox true false
  ask (.search criteria)

/-- Whether a message fetched is one of those asked for, with its header block. -/
def isWanted (uids : List Uid) (f : Fetched) : Bool :=
  (match f.uid with
    | some uid => uids.contains uid
    | none => false) && f.header.isSome

/-- The messages of a mailbox that are named, with their headers. -/
def fetch (mailbox : String) (uids : List Uid) : Talk (List Message) := do
  let _ ← openMailbox mailbox true false
  let fetched ← ask (.fetch uids .headers)
  (fetched.filter (isWanted uids)).mapM fun f => ExceptT.mk (pure (Message.ofFetched f))

/-- The messages in a mailbox that meet criteria, with their headers. -/
def searchAndFetch (mailbox : String) (criteria : Criteria) : Talk (List Message) := do
  let uids ← search mailbox criteria
  if uids.isEmpty then return [] else fetch mailbox uids

/-- Changes flags, and removes what is marked for removal if that is wanted. -/
def setFlags (mailbox : String) (uids : List Uid) (mode : StoreMode) (flags : List Flag)
    (expunge : Bool) : Talk Unit := do
  let _ ← openMailbox mailbox false false
  ask (.store uids mode flags)
  if expunge then ask .expunge

/-- The flags of a message, as told last; none if there is no such message. -/
def flagsOf (mailbox : String) (uid : Uid) : Talk (List Flag) := do
  let _ ← openMailbox mailbox true false
  let fetched ← ask (.fetch [uid] .flags)
  return (((fetched.filter fun f => f.uid = some uid).getLast?).map Fetched.flags).getD []

/-- Marks messages for removal, and removes them if that is wanted. -/
def delete (mailbox : String) (uids : List Uid) (expunge : Bool) : Talk Unit :=
  setFlags mailbox uids .add [.deleted] expunge

/-- Adds a message to a mailbox, which is created if it is missing. -/
def upload (mailbox : String) (content : List UInt8) (flags : List Flag) : Talk Unit := do
  let _ ← openMailbox mailbox false true
  ask (.append mailbox flags content)

/-- Removes messages that are marked, all marked ones where the server knows no other way. -/
def removeMarked (uids : List Uid) : Talk Unit := do
  match ← attempt (.expungeUids uids) with
  | .ok _ => return ()
  | .error (.bad _) => ask .expunge
  | .error fault => throw fault

/-- Copies messages, marks them for removal and removes them. -/
def copyAway (uids : List Uid) (target : String) : Talk (Option Uid) := do
  let uid ← ask (.copy uids target)
  ask (.store uids .add [.deleted])
  removeMarked uids
  return uid

/-- Moves messages out of the open mailbox. -/
def moveOnce (uids : List Uid) (target : String) : Talk (Option Uid) := do
  match ← attempt (.move uids target) with
  | .ok uid => return uid
  | .error (.bad _) => copyAway uids target
  | .error fault => throw fault

/-- Moves messages from one mailbox to another. -/
def move (uids : List Uid) (source target : String) : Talk (Option Uid) := do
  let _ ← openMailbox source false false
  try moveOnce uids target
  catch fault =>
    if !fault.isMailboxMissing then throw fault
    if (← list).has target then throw fault
    ask (.create target)
    moveOnce uids target

end Postroom.Talk
