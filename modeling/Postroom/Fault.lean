import Postroom.Header.Cause
import Postroom.Pattern.Cause
import Postroom.Stream
import Postroom.Text.Quoted
import Postroom.Text.Split
import Postroom.Text.Utf8

/-!
# Faults

Everything that can go wrong while mail is sorted, from the configuration through the connection up
to the rules.  `Fault.kind` says which part of the work failed, `Fault.message` says it in words.
Two classes of faults steer the work itself: a mailbox that does not exist may be created
(`Fault.isMailboxMissing`), and a connection that is gone may be opened again
(`Fault.isDisconnect`).
-/

namespace Postroom

/-- A response that was not expected. -/
inductive Surprise where
  /-- A completion for another command. -/
  | completion (found expected : String)
  /-- A completion with a status that no command has. -/
  | status (name text : String)
  /-- A response that means nothing at this point. -/
  | response
  /-- Anything else, in words. -/
  | other (text : String)
deriving Repr, DecidableEq

/-- A surprise in words. -/
def Surprise.message : Surprise → String
  | completion found expected => "completion for " ++ found ++ " while waiting for " ++ expected
  | status name text => name ++ ": " ++ text
  | response => "response"
  | other text => text

/-- What went wrong. -/
inductive Fault where
  /-- The configuration is incomplete or wrong. -/
  | config (text : String)
  /-- A file of the configuration cannot be read; `detail` is there if the wording is ours. -/
  | configFile (path : String) (detail : Option String)
  /-- The file with trusted certificates cannot be read. -/
  | caFile (path : String) (failure : Stream.Failure)
  /-- The connection failed. -/
  | stream (failure : Stream.Failure)
  /-- The server refused the credentials. -/
  | auth (text : String)
  /-- The server refused a command. -/
  | no (text : String)
  /-- The server did not understand a command. -/
  | bad (text : String)
  /-- The server does not know the mailbox. -/
  | mailboxMissing (text : String)
  /-- The server closed the connection. -/
  | bye (text : String)
  /-- The connection ended. -/
  | connectionLost
  /-- There is no connection. -/
  | notConnected
  /-- The server sent something unexpected. -/
  | unexpected (what : Surprise)
  /-- The server sent something that cannot be read. -/
  | unreadable (data : List UInt8)
  /-- The server sent text in an unknown encoding. -/
  | notUtf8 (data : List UInt8)
  /-- A character cannot be sent. -/
  | invalidChar (c : Char)
  /-- The server did not take the content of a message. -/
  | appendRefused
  /-- A pattern cannot be used. -/
  | pattern (refusal : Pattern.Refusal)
  /-- An operator is not known. -/
  | unsupportedOperator (name : String)
  /-- A pattern is not of a type that patterns have. -/
  | unsupportedPatternType (name : String)
  /-- The header block of a message cannot be read. -/
  | header (cause : Header.Cause)
  /-- An account cannot be connected. -/
  | connect (account server username : String) (cause : Fault)
deriving Repr, DecidableEq, Inhabited

namespace Fault

/-- The part of the work that failed. -/
inductive Kind where
  | config
  | tls
  | network
  | auth
  | protocol
  | pattern
  | unsupportedOperator
  | unsupportedPatternType
  | header
deriving Repr, DecidableEq

/-- The part of the work a fault belongs to. -/
def kind : Fault → Kind
  | config _ | configFile .. | invalidChar _ => .config
  | caFile .. => .tls
  | stream _ | connectionLost | notConnected | bye _ => .network
  | auth _ => .auth
  | no _ | bad _ | mailboxMissing _ | unexpected _ | unreadable _ | notUtf8 _ | appendRefused =>
    .protocol
  | pattern _ => .pattern
  | unsupportedOperator _ => .unsupportedOperator
  | unsupportedPatternType _ => .unsupportedPatternType
  | header _ => .header
  | connect _ _ _ cause => cause.kind

/-- A letter without its case, as far as it could be one of the letters of `missingPhrases`. -/
def foldLetter (c : Char) : Char :=
  if c = 'ſ' then 's' else if c = '\u212a' then 'k' else c.toLower

/-- What servers say of a mailbox that does not exist. -/
def missingPhrases : List String := [
    "mailbox doesn't exist", "mailbox does not exist", "unknown mailbox", "no folder",
    "no such mailbox", "nonexistent"]

/-- Whether a text says that a mailbox does not exist, in any case of letters. -/
def saysMissing (text : String) : Bool :=
  let folded := text.toList.map foldLetter
  missingPhrases.any fun phrase => Text.occursIn phrase.toList folded

/-- Whether a fault says that the mailbox named does not exist. -/
def isMailboxMissing : Fault → Bool
  | mailboxMissing _ => true
  | no text => saysMissing text
  | _ => false

/-- Whether a fault says that the connection cannot be used any more. -/
def isDisconnect : Fault → Bool
  | connectionLost | notConnected | bye _ => true
  | stream failure => failure.kind.isDisconnect
  | _ => false

/-- Whether a fault has another as its cause. -/
def hasSource : Fault → Bool
  | configFile .. | caFile .. | stream _ | unreadable _ | notUtf8 _ | invalidChar _ | pattern _
  | header _ | connect .. => true
  | _ => false

/-- The fault for a refusal by the server; `tryCreate` if it offered to create the mailbox. -/
def ofNo (text : String) (tryCreate : Bool) : Fault :=
  if tryCreate || saysMissing text then mailboxMissing text else no text

/-- A fault in words. -/
def message : Fault → String
  | config text => "invalid configuration: " ++ text
  | configFile path detail =>
    "failed to parse " ++ path ++ (detail.map (": " ++ ·)).getD ""
  | caFile path failure => "failed to read CA file " ++ path ++ ": " ++ failure.text
  | stream failure => failure.text
  | auth text => "authentication failed: " ++ text
  | no text => "No Response: " ++ text
  | bad text => "Bad Response: " ++ text
  | mailboxMissing text => "mailbox missing: " ++ text
  | bye text => "server closed the connection: " ++ text
  | connectionLost => "Connection Lost"
  | notConnected => "not connected"
  | unexpected what => "unexpected response: " ++ what.message
  | unreadable data => "Unable to parse response: " ++ Text.quoted (Text.Utf8.stringLossy data)
  | notUtf8 _ => "Unable to parse data as UTF-8 text"
  | invalidChar c => "Invalid character in input: " ++ Text.quotedChar c
  | appendRefused => "Could not append mail to mailbox"
  | pattern refusal => refusal.message
  | unsupportedOperator name => "rule operator " ++ Text.quoted name ++ " is unsupported"
  | unsupportedPatternType name => "unsupported pattern type " ++ name
  | header cause => "failed to parse message headers: " ++ cause.message
  | connect account server username cause =>
    "failed to connect account " ++ account ++ " (" ++ username ++ " on " ++ server ++ "): "
      ++ cause.message

/-- A refusal that offers to create the mailbox is always a missing mailbox. -/
@[simp] theorem isMailboxMissing_ofNo (text : String) :
    (ofNo text true).isMailboxMissing = true := rfl

end Fault

/-- A computation of two steps succeeds if the second does on the result of the first. -/
theorem bind_eq_ok_iff {ε α β : Type} {x : Except ε α} {f : α → Except ε β} {b : β} :
    (x >>= f) = .ok b ↔ ∃ a, x = .ok a ∧ f a = .ok b := by
  cases x <;> simp [bind, Except.bind]

/-- A result that is changed succeeds if there is one to change. -/
theorem map_eq_ok_iff {ε α β : Type} {x : Except ε α} {f : α → β} {b : β} :
    x.map f = .ok b ↔ ∃ a, x = .ok a ∧ f a = b := by
  cases x <;> simp [Except.map]

end Postroom
