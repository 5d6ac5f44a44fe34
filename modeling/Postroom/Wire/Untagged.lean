import Postroom.Fault
import Postroom.Mailbox
import Postroom.MailboxName
import Postroom.Message
import Postroom.UidSet
import Postroom.Wire.Grammar

/-!
# What the data before a completion say

The data that a server sends before it completes a command are a row of responses.  A command
collects from them what it asked for and passes over what servers may say at any time
(`unasked`); the end of the session and anything else is a fault.
-/

namespace Postroom.Wire

open Text

/-- The responses in a row of bytes, and the rest that cannot be read. -/
def responses (data : List UInt8) : List Response × List UInt8 :=
  match response data with
  | .done r rest =>
    if rest.length < data.length then
      let (rs, rest) := responses rest
      (r :: rs, rest)
    else ([], data)
  | _ => ([], data)
termination_by data.length

/-- Whether a response may be passed over, because a server may send it at any time. -/
def unasked : Response → Except Fault Unit
  | .messages _ | .recent _ | .flags _ | .mailboxStatus _ | .removed _ | .fetched ..
  | .capabilities _ => .ok ()
  | .status .bye remark => .error (.bye (remark.text.getD ""))
  | .status _ _ => .ok ()
  | _ => .error (.unexpected .response)

/-- Goes through responses with a state; a response that gives none has to be one that may be passed
over. -/
def collect {σ : Type} (step : σ → Response → Option σ) : σ → List Response → Except Fault σ
  | s, [] => .ok s
  | s, r :: rs =>
    match step s r with
    | some s' => collect step s' rs
    | none => (unasked r).bind fun _ => collect step s rs

/-- Goes through the responses in a row of bytes. -/
def collectFrom {σ : Type} (step : σ → Response → Option σ) (s : σ) (data : List UInt8) :
    Except Fault σ :=
  let (rs, rest) := responses data
  (collect step s rs).bind fun s => if rest.isEmpty then .ok s else .error (.unreadable rest)

/-- The items that some of the responses in a row of bytes are. -/
def items {α : Type} (item : Response → Option α) (data : List UInt8) : Except Fault (List α) :=
  collectFrom (fun found r => (item r).map fun a => found ++ [a]) [] data

/-- The mailbox a response lists. -/
def listed? : Response → Option Listing
  | .listing attributes delimiter name =>
    some ⟨MailboxName.decode name, delimiter, attributes.map ListingAttribute.ofString⟩
  | _ => none

/-- Adds one thing said of a message. -/
def addDetail (f : Fetched) : Detail → Fetched
  | .flags flags => { f with flags := f.flags ++ flags.map Flag.ofString }
  | .uid uid => { f with uid := some uid }
  | .envelope e => { f with envelope := some e }
  | .section data => { f with header := data }
  | _ => f

/-- The message a response describes. -/
def fetched? : Response → Option Fetched
  | .fetched n details => some (details.foldl addDetail ⟨n, none, [], none, none⟩)
  | _ => none

/-- The identifiers a response found. -/
def found? : Response → Option (List Uid)
  | .found uids => some uids
  | _ => none

/-- Adds what a code says of a mailbox. -/
def addCode (m : MailboxStatus) : Code → MailboxStatus
  | .uidValidity n => { m with uidValidity := some n }
  | .uidNext n => { m with uidNext := some n }
  | .unseen n => { m with unseen := some n }
  | .permanentFlags flags =>
    { m with permanentFlags := m.permanentFlags ++ flags.map Flag.ofString }
  | .readOnly => { m with readOnly := true }
  | _ => m

/-- Adds what a response says of a mailbox. -/
def addStatus? (m : MailboxStatus) : Response → Option MailboxStatus
  | .status .ok ⟨some code, _⟩ => some (addCode m code)
  | .messages n => some { m with messages := n }
  | .recent n => some { m with recent := n }
  | .flags flags => some { m with flags := m.flags ++ flags.map Flag.ofString }
  | _ => none

/-- The first of a set of identifiers. -/
def firstUid? (set : List UidRange) : Option Uid := set.head?.map UidRange.first

/-- The new identifier of the first copy, if a response tells of copies. -/
def copied? : Response → Option (Option Uid)
  | .status .ok ⟨some (.copyUid _ _ destination), _⟩ => some (firstUid? destination)
  | _ => none

/-- The mailboxes listed. -/
def listings (data : List UInt8) : Except Fault (List Listing) := items listed? data

/-- The messages described. -/
def fetches (data : List UInt8) : Except Fault (List Fetched) := items fetched? data

/-- The identifiers found, in ascending order. -/
def searched (data : List UInt8) : Except Fault (List Uid) :=
  (items found? data).map fun found => UidSet.ascending found.flatten

/-- What is said of the mailbox that was opened. -/
def opened (data : List UInt8) : Except Fault MailboxStatus :=
  collectFrom addStatus? MailboxStatus.empty data

/-- The first new identifier that is told. -/
def copied (data : List UInt8) : Except Fault (Option Uid) :=
  (items copied? data).map fun found => found.findSome? id

end Postroom.Wire
