import Postroom.Fault
import Postroom.Flag
import Postroom.Header.Normal
import Postroom.UidSet

/-!
# Messages

What a server sends of a message (`Fetched`), and the message as it is sorted (`Message`), which
needs an identifier and a header block.
-/

namespace Postroom

/-- What a server sends of a message. -/
structure Fetched where
  /-- Its number in the mailbox. -/
  number : Nat
  /-- Its identifier. -/
  uid : Option Uid
  /-- Its flags. -/
  flags : List Flag
  /-- Its envelope. -/
  envelope : Option Envelope
  /-- Its header block. -/
  header : Option (List UInt8)
deriving Repr, DecidableEq

/-- A message as it is sorted. -/
structure Message where
  /-- Its identifier. -/
  uid : Uid
  /-- Its flags. -/
  flags : List Flag
  /-- Its envelope. -/
  envelope : Envelope
  /-- Its headers in normal form. -/
  headers : Header.Map
deriving Repr, DecidableEq

/-- The message of what a server sends. -/
def Message.ofFetched (f : Fetched) : Except Fault Message :=
  match f.uid with
  | none => .error (.unexpected (.other ("no UID for message " ++ f.number.repr)))
  | some uid =>
    match f.header with
    | none => .error (.unexpected (.other ("no header section for UID " ++ uid.repr)))
    | some block =>
      let envelope := f.envelope.getD Envelope.empty
      match Header.ofBlock block envelope with
      | .ok headers => .ok ⟨uid, f.flags, envelope, headers⟩
      | .error cause => .error (.header cause)

end Postroom
