import Postroom.Request
import Postroom.Wire.Argument
import Postroom.Wire.Client

/-!
# Commands

Each request as a command over a connection, and what is read from the data it brings.
-/

namespace Postroom.Wire.Client

open Text

/-- Names the user; any refusal is a refusal of the credentials. -/
def login (user password : String) : Action Unit := do
  let user ← quotedText user
  let password ← quotedText password
  try runQuietly ("LOGIN " ++ user ++ " " ++ password)
  catch
    | .no text | .bad text | .mailboxMissing text => throw (.auth text)
    | fault => throw fault

/-- Opens a mailbox for changes. -/
def select (mailbox : String) : Action MailboxStatus := do
  let name ← quotedMailbox mailbox
  opened (← run ("SELECT " ++ name)).untagged

/-- Opens a mailbox for reading. -/
def examine (mailbox : String) : Action MailboxStatus := do
  let name ← quotedMailbox mailbox
  let status ← opened (← run ("EXAMINE " ++ name)).untagged
  return { status with readOnly := true }

/-- Makes a mailbox. -/
def create (mailbox : String) : Action Unit := do
  runQuietly ("CREATE " ++ (← quotedMailbox mailbox))

/-- Removes a mailbox. -/
def delete (mailbox : String) : Action Unit := do
  runQuietly ("DELETE " ++ (← quotedMailbox mailbox))

/-- Lists the mailboxes below another whose names have a pattern. -/
def list (reference pattern : String) : Action (List Listing) := do
  let reference ← quotedText reference
  let pattern ← quotedText pattern
  listings (← run ("LIST " ++ reference ++ " " ++ pattern)).untagged

/-- Searches the open mailbox. -/
def search (keys : String) : Action (List Uid) := do
  searched (← run ("UID SEARCH " ++ keys)).untagged

/-- Fetches something of a set of messages. -/
def fetch (set items : String) : Action (List Fetched) := do
  fetches (← run ("UID FETCH " ++ set ++ " " ++ items)).untagged

/-- Changes the flags of a set of messages. -/
def store (set change : String) : Action (List Fetched) := do
  fetches (← run ("UID STORE " ++ set ++ " " ++ change)).untagged

/-- Copies a set of messages. -/
def copy (set mailbox : String) : Action (Option Uid) := do
  let name ← quotedMailbox mailbox
  return (← run ("UID COPY " ++ set ++ " " ++ name)).copied

/-- Moves a set of messages; data before the completion tell first where they went. -/
def move (set mailbox : String) : Action (Option Uid) := do
  let name ← quotedMailbox mailbox
  let completed ← run ("UID MOVE " ++ set ++ " " ++ name)
  return (← copied completed.untagged).or completed.copied

/-- Removes every message that is marked for removal. -/
def expunge : Action Unit := runQuietly "EXPUNGE"

/-- Removes those of a set of messages that are marked for removal. -/
def expungeSet (set : String) : Action Unit := runQuietly ("UID EXPUNGE " ++ set)

/-- Ends the session. -/
def logout : Action Unit := runQuietly "LOGOUT"

/-- Whether the next line says that the server waits for more. -/
def isInvited (c : Client) : Bool :=
  match c.incoming with
  | line :: _ => line.head? = some 43
  | [] => false

/-- Adds a message to a mailbox.  Its content is sent when the server asks for it; a server that
completes the command instead has refused it. -/
def append (mailbox : String) (flags : List Flag) (content : List UInt8) : Action Unit := do
  let flags ← if flags.isEmpty then pure "" else do
    pure (" (" ++ (← flagText flags) ++ ")")
  let name ← quotedMailbox mailbox
  send ("APPEND " ++ name ++ flags ++ " \x7b" ++ content.length.repr ++ "\x7d")
  if isInvited (← get) then
    let _ ← readLine
    write (content ++ [13, 10])
    let _ ← readCompletion
  else
    let _ ← readCompletion
    throw .appendRefused

/-- Answers a request.  One that names no messages where it could is answered without a command. -/
def answer : (request : Request) → Action request.Reply
  | .select mailbox => select mailbox
  | .examine mailbox => examine mailbox
  | .create mailbox => create mailbox
  | .delete mailbox => delete mailbox
  | .list => list "" "*"
  | .search criteria => search criteria.toString
  | .fetch uids items =>
    if uids.isEmpty then return [] else fetch (UidSet.render uids) items.toString
  | .store uids mode flags =>
    if uids.isEmpty then return ()
    else do
      let flags ← flagText flags
      let _ ← store (UidSet.render uids) (mode.toString ++ ".SILENT (" ++ flags ++ ")")
  | .copy uids mailbox => copy (UidSet.render uids) mailbox
  | .move uids mailbox => move (UidSet.render uids) mailbox
  | .expunge => expunge
  | .expungeUids uids => if uids.isEmpty then return () else expungeSet (UidSet.render uids)
  | .append mailbox flags content => append mailbox flags content
  | .logout => logout

end Postroom.Wire.Client
