import Postroom.Header.Normal
import Postroom.Wire.Token

/-!
# Responses of a mail server

What a server says, line by line: completions of commands, invitations to go on, and data that
belong to no command.  Parts that no one here looks at are kept only as far as they tell responses
apart.
-/

namespace Postroom.Wire

/-- How something went. -/
inductive Status where
  | ok
  | no
  | bad
  | preauth
  | bye
deriving Repr, DecidableEq

/-- The word for a status. -/
def Status.name : Status → String
  | ok => "Ok"
  | no => "No"
  | bad => "Bad"
  | preauth => "PreAuth"
  | bye => "Bye"

/-- A code in front of a text. -/
inductive Code where
  /-- The user has to see the text. -/
  | alert
  /-- The encoding is not known; these are. -/
  | badCharset (known : List String)
  /-- What the server can do. -/
  | capability (names : List String)
  /-- A message could not be taken apart. -/
  | parse
  /-- Flags that can be changed for good. -/
  | permanentFlags (flags : List String)
  /-- The validity of identifiers. -/
  | uidValidity (n : Nat)
  /-- The next identifier to be given. -/
  | uidNext (n : Nat)
  /-- The first message not seen. -/
  | unseen (n : Nat)
  /-- The mailbox was opened for reading. -/
  | readOnly
  /-- The mailbox was opened for changes. -/
  | readWrite
  /-- The mailbox could be made first. -/
  | tryCreate
  /-- The last change. -/
  | highestModSeq (n : Nat)
  /-- Identifiers of messages that were added. -/
  | appendUid (validity : Nat) (uids : List UidRange)
  /-- Identifiers of messages that were copied, before and after. -/
  | copyUid (validity : Nat) (source destination : List UidRange)
  /-- Identifiers do not last. -/
  | uidNotSticky
  /-- Entries beyond the size asked for. -/
  | metadataLongEntries (n : Nat)
  /-- The largest entry. -/
  | metadataMaxSize (n : Nat)
  /-- There are too many entries. -/
  | metadataTooMany
  /-- There are no private entries. -/
  | metadataNoPrivate
deriving Repr, DecidableEq

/-- A code and a text, each if it is there. -/
structure Remark where
  /-- The code. -/
  code : Option Code
  /-- The text. -/
  text : Option String
deriving Repr, DecidableEq

/-- Something said of one message. -/
inductive Detail where
  /-- A part of its content. -/
  | section (data : Option (List UInt8))
  /-- The structure of its content. -/
  | partStructure
  /-- Its envelope. -/
  | envelope (e : Envelope)
  /-- When it arrived. -/
  | arrival (date : Option String)
  /-- Its flags. -/
  | flags (flags : List String)
  /-- Its last change. -/
  | modSeq (n : Nat)
  /-- Its content. -/
  | content (data : Option (List UInt8))
  /-- Its header block. -/
  | header (data : Option (List UInt8))
  /-- Its size. -/
  | size (n : Nat)
  /-- Its body. -/
  | body (data : Option (List UInt8))
  /-- Its identifier. -/
  | uid (n : Nat)
deriving Repr, DecidableEq

/-- A response. -/
inductive Response where
  /-- The server waits for more. -/
  | continue_ (remark : Remark)
  /-- The completion of the command with a tag. -/
  | completion (tag : String) (status : Status) (remark : Remark)
  /-- A status that belongs to no command. -/
  | status (status : Status) (remark : Remark)
  /-- Flags in use. -/
  | flags (flags : List String)
  /-- The number of messages. -/
  | messages (n : Nat)
  /-- The number of messages that arrived last. -/
  | recent (n : Nat)
  /-- A listed mailbox. -/
  | listing (attributes : List String) (delimiter : Option String) (name : String)
  /-- What was asked of a mailbox. -/
  | mailboxStatus (name : String)
  /-- Identifiers found. -/
  | found (uids : List Nat)
  /-- Identifiers found, in an order asked for. -/
  | sorted (uids : List Nat)
  /-- A message was removed. -/
  | removed (n : Nat)
  /-- Details of a message. -/
  | fetched (n : Nat) (details : List Detail)
  /-- What the server can do. -/
  | capabilities (names : List String)
  /-- Anything else. -/
  | other
deriving Repr, DecidableEq

end Postroom.Wire
