import Postroom.Criteria
import Postroom.Mailbox
import Postroom.Message
import Postroom.Text.Quoted

/-!
# Requests to a mail server

What is asked of a server over a session, and the type of the answer to each request.  Mailbox
names are in plain text; identifiers belong to the mailbox that was opened last.
-/

namespace Postroom

/-- How given flags are combined with the flags of a message. -/
inductive StoreMode where
  /-- They are added. -/
  | add
  /-- They are removed. -/
  | remove
  /-- They take the place of all others. -/
  | replace
deriving Repr, DecidableEq

/-- The word for a mode on the wire. -/
def StoreMode.toString : StoreMode → String
  | add => "+FLAGS"
  | remove => "-FLAGS"
  | replace => "FLAGS"

/-- What is fetched of a message. -/
inductive FetchItems where
  /-- Identifier, flags, envelope and header block. -/
  | headers
  /-- Identifier and flags. -/
  | flags
deriving Repr, DecidableEq

/-- The words for what is fetched on the wire. -/
def FetchItems.toString : FetchItems → String
  | headers => "(UID FLAGS ENVELOPE BODY.PEEK[HEADER])"
  | flags => "(UID FLAGS)"

/-- A request to a server. -/
inductive Request where
  /-- Open a mailbox for changes. -/
  | select (mailbox : String)
  /-- Open a mailbox for reading. -/
  | examine (mailbox : String)
  /-- Make a mailbox. -/
  | create (mailbox : String)
  /-- Remove a mailbox. -/
  | delete (mailbox : String)
  /-- List all mailboxes. -/
  | list
  /-- Search the open mailbox. -/
  | search (criteria : Criteria)
  /-- Fetch something of the messages named. -/
  | fetch (uids : List Uid) (items : FetchItems)
  /-- Change the flags of the messages named. -/
  | store (uids : List Uid) (mode : StoreMode) (flags : List Flag)
  /-- Copy the messages named; the answer is the new identifier of the first, if it is told. -/
  | copy (uids : List Uid) (mailbox : String)
  /-- Move the messages named; the answer is the new identifier of the first, if it is told. -/
  | move (uids : List Uid) (mailbox : String)
  /-- Remove every message that is marked for removal. -/
  | expunge
  /-- Remove those of the messages named that are marked for removal. -/
  | expungeUids (uids : List Uid)
  /-- Add a message to a mailbox. -/
  | append (mailbox : String) (flags : List Flag) (content : List UInt8)
  /-- End the session. -/
  | logout
deriving Repr, DecidableEq

namespace Request

/-- The answer to a request. -/
abbrev Reply : Request → Type
  | select _ | examine _ => MailboxStatus
  | list => List Listing
  | search _ => List Uid
  | fetch _ _ => List Fetched
  | copy _ _ | move _ _ => Option Uid
  | _ => Unit

/-- A request in one line. -/
def toString : Request → String
  | select mailbox => "select " ++ mailbox
  | examine mailbox => "examine " ++ mailbox
  | create mailbox => "create " ++ mailbox
  | delete mailbox => "delete " ++ mailbox
  | list => "list"
  | search criteria => "search " ++ criteria.toString
  | fetch uids items => "fetch " ++ Text.shownList Nat.repr uids ++ " " ++ items.toString
  | store uids mode flags =>
    "store " ++ Text.shownList Nat.repr uids ++ " " ++ mode.toString ++
      " (" ++ Flag.join flags ++ ")"
  | copy uids mailbox => "copy " ++ Text.shownList Nat.repr uids ++ " " ++ mailbox
  | move uids mailbox => "mv " ++ Text.shownList Nat.repr uids ++ " " ++ mailbox
  | expunge => "expunge"
  | expungeUids uids => "uid_expunge " ++ Text.shownList Nat.repr uids
  | append mailbox flags content =>
    "append " ++ mailbox ++ " (" ++ Flag.join flags ++ ") " ++ content.length.repr
  | logout => "logout"

end Request

/-- Something that answers requests, and changes in doing so. -/
abbrev Answerer (σ : Type) : Type := (request : Request) → σ → Except Fault request.Reply × σ

end Postroom
