import Postroom.Assoc
import Postroom.Session
import Postroom.Text.Split

/-!
# A mail server in memory

One account with its mailboxes, and the connections to it.  Connections see the same mailboxes; each
has a mailbox of its own open.  The server can be made to misbehave: it can drop its connections,
refuse new ones, lack the commands for moving messages and for removing named ones, report a mailbox
as missing, or leave one out of its listing.
-/

namespace Postroom

/-- A message on a server. -/
structure StoredMessage where
  /-- Its identifier. -/
  uid : Uid
  /-- Its flags. -/
  flags : List Flag
  /-- Its content. -/
  content : List UInt8
deriving Repr, DecidableEq

/-- The content up to the blank line behind the headers, or all of it. -/
def StoredMessage.header (m : StoredMessage) : List UInt8 :=
  let mark : List UInt8 := [13, 10, 13, 10]
  match Text.cut? mark m.content with
  | some (before, _) => before ++ mark
  | none => m.content

/-- A mailbox on a server. -/
structure StoredMailbox where
  /-- The identifier of the next message. -/
  uidNext : Uid
  /-- The messages in the order in which they came. -/
  messages : List StoredMessage
deriving Repr, DecidableEq

namespace StoredMailbox

/-- A new mailbox. -/
def empty : StoredMailbox := ⟨1, []⟩

/-- Adds a message. -/
def push (m : StoredMailbox) (flags : List Flag) (content : List UInt8) : StoredMailbox :=
  ⟨m.uidNext + 1, m.messages ++ [⟨m.uidNext, flags, content⟩]⟩

/-- Keeps the messages that pass a test. -/
def keep (m : StoredMailbox) (p : StoredMessage → Bool) : StoredMailbox :=
  { m with messages := m.messages.filter p }

/-- Changes every message. -/
def change (m : StoredMailbox) (f : StoredMessage → StoredMessage) : StoredMailbox :=
  { m with messages := m.messages.map f }

end StoredMailbox

/-- The state of a server. -/
structure Server where
  /-- The mailboxes by name. -/
  mailboxes : Assoc StoredMailbox
  /-- The password of every user. -/
  password : String
  /-- How often connections were dropped. -/
  generation : Nat
  /-- How often someone logged in. -/
  logins : Nat
  /-- Whether new connections are refused. -/
  refusing : Bool
  /-- Whether messages can be moved. -/
  canMove : Bool
  /-- Whether named messages can be removed. -/
  canExpungeUids : Bool
  /-- Mailboxes that are reported as missing. -/
  reportedMissing : List String
  /-- Mailboxes that are not listed. -/
  hidden : List String
deriving Repr, DecidableEq

/-- A connection to a server, from its end. -/
structure Connection where
  /-- How often connections had been dropped when it was opened. -/
  generation : Nat
  /-- Whether it has ended. -/
  loggedOut : Bool
  /-- The mailbox that is open. -/
  selected : Option String
  /-- Whether the mailbox is open for reading only. -/
  readOnly : Bool
deriving Repr, DecidableEq

namespace Server

/-- A server with an empty inbox. -/
def new (password : String) : Server :=
  ⟨[("INBOX", .empty)], password, 0, 0, false, true, true, [], []⟩

/-- A flag as it is kept: the letters of a keyword lose their case. -/
def keptFlag : Flag → Flag
  | .keyword name => .keyword (Text.lower name)
  | f => f

/-- Adds a flag to a list that does not have it. -/
def addFlag (flags : List Flag) (f : Flag) : List Flag :=
  if flags.contains f then flags else flags ++ [f]

/-- Flags as they are kept, each once. -/
def keptFlags (flags : List Flag) : List Flag := (flags.map keptFlag).foldl addFlag []

/-- The fault of a mailbox that is missing. -/
def missing (name : String) : Fault := .mailboxMissing ("Mailbox doesn't exist: " ++ name)

/-- A mailbox as commands find it. -/
def mailbox (s : Server) (name : String) : Except Fault StoredMailbox :=
  if s.reportedMissing.contains name then .error (missing name)
  else
    match s.mailboxes.get? name with
    | some m => .ok m
    | none => .error (missing name)

/-- Puts a mailbox. -/
def put (s : Server) (name : String) (m : StoredMailbox) : Server :=
  { s with mailboxes := s.mailboxes.insert name m }

/-- Adds a message, and its mailbox if need be.  The result is the identifier of the message. -/
def deliver (s : Server) (name : String) (content : List UInt8) (flags : List Flag) :
    Uid × Server :=
  let m := (s.mailboxes.get? name).getD .empty
  (m.uidNext, s.put name (m.push (keptFlags flags) content))

/-- Adds a mailbox if there is none of the name. -/
def addMailbox (s : Server) (name : String) : Server :=
  s.put name ((s.mailboxes.get? name).getD .empty)

/-- The flags of a message; none if there is no such message. -/
def flagsOf (s : Server) (name : String) (uid : Uid) : List Flag :=
  match (s.mailboxes.get? name).bind fun m => m.messages.find? fun msg => msg.uid = uid with
  | some msg => msg.flags
  | none => []

/-- Drops all connections. -/
def dropConnections (s : Server) : Server := { s with generation := s.generation + 1 }

/-- Refuses new connections, or accepts them again. -/
def refuse (s : Server) (on : Bool) : Server := { s with refusing := on }

/-- Opens a connection. -/
def connect (settings : Settings) (s : Server) : Except Fault Connection × Server :=
  if s.refusing then (.error (.stream ⟨.connectionRefused, "connection refused"⟩), s)
  else if settings.password ≠ s.password then (.error (.auth "Authentication failed."), s)
  else (.ok ⟨s.generation, false, none, false⟩, { s with logins := s.logins + 1 })

/-- Whether a connection can still be used. -/
def check (s : Server) (c : Connection) : Except Fault Unit :=
  if c.loggedOut then .error .notConnected
  else if s.generation ≠ c.generation then .error .connectionLost
  else .ok ()

/-- The mailbox that is open. -/
def selected (s : Server) (c : Connection) : Except Fault String := do
  s.check c
  match c.selected with
  | some name => return name
  | none => throw (.bad "No mailbox selected")

/-- The mailbox that is open for changes. -/
def writable (s : Server) (c : Connection) : Except Fault String := do
  let name ← s.selected c
  if c.readOnly then throw (.no "Mailbox is read-only")
  return name

/-- The messages of the open mailbox. -/
def openMessages (s : Server) (c : Connection) : Except Fault (List StoredMessage) := do
  return (← s.mailbox (← s.selected c)).messages

/-- Changes the open mailbox. -/
def changeOpen (s : Server) (c : Connection) (f : StoredMailbox → StoredMailbox) :
    Except Fault Server := do
  let name ← s.writable c
  return s.put name (f (← s.mailbox name))

/-- The open mailbox as messages are copied out of it, if the mailbox they go to is found. -/
def copySource (s : Server) (c : Connection) (target : String) :
    Except Fault (String × StoredMailbox) := do
  let source ← s.writable c
  let _ ← s.mailbox target
  return (source, ← s.mailbox source)

/-- Copies messages into a mailbox, and takes them out of the open one if that is wanted.  The
copies do not count as recent.  The mailbox is looked up once more when the messages have been taken
out; a fault leaves the server as it is by then. -/
def copyInto (s : Server) (c : Connection) (uids : List Uid) (target : String) (remove : Bool) :
    Except Fault (Option Uid) × Server :=
  match s.copySource c target with
  | .error fault => (.error fault, s)
  | .ok (source, from_) =>
    let isNamed (msg : StoredMessage) : Bool := uids.contains msg.uid
    let picked := from_.messages.filter isNamed
    let s := if remove then s.put source (from_.keep (!isNamed ·)) else s
    match s.mailbox target with
    | .error fault => (.error fault, s)
    | .ok into =>
      let filled :=
        picked.foldl (fun m msg => m.push (msg.flags.filter (· ≠ .recent)) msg.content) into
      (.ok (if picked.isEmpty then none else some into.uidNext), s.put target filled)

/-- Combines given flags with those of a message. -/
def combine (mode : StoreMode) (given : List Flag) (flags : List Flag) : List Flag :=
  match mode with
  | .add => given.foldl addFlag flags
  | .remove => flags.filter (!given.contains ·)
  | .replace => given

/-- Opens a mailbox.  Whether that works or not, the one that was open is closed. -/
def openMailbox (s : Server) (c : Connection) (name : String) (readOnly : Bool) :
    Except Fault MailboxStatus × Connection :=
  match s.check c with
  | .error fault => (.error fault, c)
  | .ok _ =>
    match s.mailbox name with
    | .error fault => (.error fault, { c with selected := none })
    | .ok m =>
      (.ok { MailboxStatus.empty with
          messages := m.messages.length
          uidNext := some m.uidNext
          uidValidity := some 1
          readOnly := readOnly },
        { c with selected := some name, readOnly := readOnly })

/-- What is fetched of a message with a number. -/
def fetched (items : FetchItems) (number : Nat) (m : StoredMessage) : Fetched :=
  ⟨number, some m.uid, m.flags, none,
    match items with
    | .headers => some m.header
    | .flags => none⟩

/-- Messages with their numbers. -/
def numbered (ms : List StoredMessage) : List (Nat × StoredMessage) :=
  (List.range' 1 ms.length).zip ms

/-- The outcome of a command that reads only. -/
def reading {α σ : Type} (s : σ) (r : Except Fault α) : Except Fault α × σ := (r, s)

/-- The outcome of a command that has changed the server if it succeeded. -/
def changing {α : Type} (c : Connection) (s : Server) (r : Except Fault (α × Server)) :
    Except Fault α × Connection × Server :=
  match r with
  | .ok (a, s) => (.ok a, c, s)
  | .error fault => (.error fault, c, s)

/-- Answers a request over a connection. -/
def answer : Answerer (Connection × Server)
  | .select name, (c, s) =>
    let (r, c) := s.openMailbox c name false
    (r, c, s)
  | .examine name, (c, s) =>
    let (r, c) := s.openMailbox c name true
    (r, c, s)
  | .create name, (c, s) => changing c s do
    s.check c
    if s.mailboxes.has name then throw (.no "Mailbox already exists")
    return ((), s.put name .empty)
  | .delete name, (c, s) =>
    match (do s.check c; let _ ← s.mailbox name; pure () : Except Fault Unit) with
    | .error fault => (.error fault, c, s)
    | .ok _ =>
      (.ok (), { c with selected := if c.selected = some name then none else c.selected },
        { s with mailboxes := s.mailboxes.erase name })
  | .list, (c, s) => reading (c, s) do
    s.check c
    return (s.mailboxes.keys.filter (!s.hidden.contains ·)).map fun name => ⟨name, some "/", []⟩
  | .search criteria, (c, s) => reading (c, s) do
    return ((← s.openMessages c).filter fun m => criteria.holds m.flags).map StoredMessage.uid
  | .fetch uids items, (c, s) => reading (c, s) do
    return ((numbered (← s.openMessages c)).filter fun m => uids.contains m.2.uid).map
      fun m => fetched items m.1 m.2
  | .store uids mode flags, (c, s) => changing c s do
    let given := keptFlags flags
    return ((), ← s.changeOpen c fun m => m.change fun msg =>
      if uids.contains msg.uid then { msg with flags := combine mode given msg.flags } else msg)
  | .copy uids target, (c, s) =>
    let (r, s) := s.copyInto c uids target false
    (r, c, s)
  | .move uids target, (c, s) =>
    match (do s.check c; if !s.canMove then throw (.bad "Unknown command MOVE") :
      Except Fault Unit) with
    | .error fault => (.error fault, c, s)
    | .ok _ =>
      let (r, s) := s.copyInto c uids target true
      (r, c, s)
  | .expunge, (c, s) => changing c s do
    return ((), ← s.changeOpen c fun m => m.keep fun msg => !msg.flags.contains .deleted)
  | .expungeUids uids, (c, s) => changing c s do
    let _ ← s.writable c
    if !s.canExpungeUids then throw (.bad "Unknown command UID EXPUNGE")
    return ((), ← s.changeOpen c fun m => m.keep fun msg =>
      !(uids.contains msg.uid && msg.flags.contains .deleted))
  | .append name flags content, (c, s) => changing c s do
    s.check c
    let m ← s.mailbox name
    return ((), s.put name (m.push (keptFlags flags) content))
  | .logout, (c, s) =>
    match s.check c with
    | .ok _ => (.ok (), { c with loggedOut := true }, s)
    | .error fault => (.error fault, c, s)

/-- A server as a backend of sessions. -/
def backend : Backend Server Connection := ⟨connect, answer⟩

end Server

end Postroom
