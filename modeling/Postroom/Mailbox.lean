import Postroom.Flag

/-!
# Mailboxes as a server describes them

What a server says when a mailbox is opened (`MailboxStatus`) and when mailboxes are listed
(`Listing`).
-/

namespace Postroom

/-- The state of a mailbox when it is opened. -/
structure MailboxStatus where
  /-- Flags in use. -/
  flags : List Flag
  /-- Number of messages. -/
  messages : Nat
  /-- Number of messages that arrived last. -/
  recent : Nat
  /-- Number of the first message not seen. -/
  unseen : Option Nat
  /-- Flags that can be changed for good. -/
  permanentFlags : List Flag
  /-- The next identifier to be given. -/
  uidNext : Option Nat
  /-- The validity of identifiers. -/
  uidValidity : Option Nat
  /-- Whether messages cannot be changed. -/
  readOnly : Bool
deriving Repr, DecidableEq

namespace MailboxStatus

/-- Nothing known yet. -/
def empty : MailboxStatus := ⟨[], 0, 0, none, [], none, none, false⟩

/-- A mailbox in one line. -/
def toString (m : MailboxStatus) : String :=
  "flags: " ++ Text.shownList Flag.shown m.flags ++ ", exists: " ++ m.messages.repr
    ++ ", recent: " ++ m.recent.repr ++ ", unseen: " ++ Text.shownOption Nat.repr m.unseen
    ++ ", permanent_flags: " ++ Text.shownList Flag.shown m.permanentFlags
    ++ ", uid_next: " ++ Text.shownOption Nat.repr m.uidNext
    ++ ", uid_validity: " ++ Text.shownOption Nat.repr m.uidValidity
    ++ ", read_only: " ++ Text.shownBool m.readOnly

end MailboxStatus

/-- A property of a listed mailbox. -/
inductive ListingAttribute where
  /-- It can hold no other mailboxes. -/
  | noInferiors
  /-- It cannot be opened. -/
  | noSelect
  /-- Something in it is of interest. -/
  | marked
  /-- Nothing in it is new. -/
  | unmarked
  /-- Anything else. -/
  | other (name : String)
deriving Repr, DecidableEq

/-- The attribute of a wire name, whatever the case of its ASCII letters. -/
def ListingAttribute.ofString (s : String) : ListingAttribute :=
  match Text.lowerAscii s with
  | "\\noinferiors" => noInferiors
  | "\\noselect" => noSelect
  | "\\marked" => marked
  | "\\unmarked" => unmarked
  | _ => other s

/-- A mailbox as listed. -/
structure Listing where
  /-- Its name. -/
  name : String
  /-- What separates the levels of its name. -/
  delimiter : Option String
  /-- Its properties. -/
  attributes : List ListingAttribute
deriving Repr, DecidableEq

end Postroom
