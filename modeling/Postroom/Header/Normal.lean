import Postroom.Header.Address
import Postroom.Header.Map
import Postroom.Header.Moment

/-!
# Headers as rules see them

Rules look at the headers of a message in a normal form, in lower case throughout.

* `from`, `to`, `cc` and `reply-to` are lists of addresses, each as a name and an address in angle
  brackets; only the first field of a name counts.  A header that is absent or empty is left out,
  and one that is no list of addresses is taken as it is, unless it holds an at sign, which is a
  fault.
* `subject`, `date` and `message-id` are always there, from the envelope or the block, and a date
  that can be read is given in one form.
* Every other header has all its values, in the order of the block.
-/

namespace Postroom

/-- What a server says of a message besides its header block. -/
structure Envelope where
  /-- The date. -/
  date : Option String
  /-- The subject. -/
  subject : Option String
  /-- The identifier of the message. -/
  messageId : Option String
deriving Repr, DecidableEq, Inhabited

namespace Envelope

/-- An envelope that says nothing. -/
def empty : Envelope := ⟨none, none, none⟩

end Envelope

namespace Header

open Text

/-- The headers that hold addresses. -/
def addressNames : List String := ["from", "to", "cc", "reply-to"]

/-- The headers that the envelope holds too. -/
def envelopeNames : List String := ["subject", "date", "message-id"]

/-- The first field of a name. -/
def firstField? (fields : List Field) (name : String) : Option Field :=
  fields.find? (·.isNamed name)

/-- The text of the first field of a name. -/
def firstText? (fields : List Field) (name : String) : Option String :=
  (firstField? fields name).map Field.text

/-- A text without white space around it, in lower case. -/
def plain (s : String) : String := lower (trimmed s)

/-- A list of addresses as shown. -/
def shownList (addresses : List Address) : String :=
  String.intercalate ", " (addresses.map fun a => String.ofList a.shown)

/-- The normal form of a field with addresses, if it is not left out. -/
def addressText? (field : Field) : Except Cause (Option String) :=
  let verbatim := plain field.text
  if verbatim.isEmpty then .ok none
  else
    match Address.readList field.tokens with
    | .ok [] => .ok (some verbatim)
    | .ok addresses => .ok (some (shownList addresses))
    | .error cause => if verbatim.toList.contains '@' then .error cause else .ok (some verbatim)

/-- A date in normal form, before it is put in lower case. -/
def dateText (s : String) : String :=
  match Moment.read? (trim s.toList) with
  | some m => m.toString
  | none => trimmed s

/-- Adds the headers with addresses. -/
def addAddresses (fields : List Field) : List String → Map → Except Cause Map
  | [], m => .ok m
  | name :: rest, m =>
    match firstField? fields name with
    | none => addAddresses fields rest m
    | some field => do
      match ← addressText? field with
      | some text => addAddresses fields rest (m.insert name (.single text))
      | none => addAddresses fields rest m

/-- The subject: of the block, or else of the envelope. -/
def subjectOf (fields : List Field) (envelope : Envelope) : String :=
  plain (((firstText? fields "subject").or envelope.subject).getD "")

/-- The date: of the envelope, or else of the block. -/
def dateOf (fields : List Field) (envelope : Envelope) : String :=
  lower (((envelope.date.or (firstText? fields "date")).map dateText).getD "")

/-- The identifier: of the envelope, or else of the block. -/
def messageIdOf (fields : List Field) (envelope : Envelope) : String :=
  plain ((envelope.messageId.or (firstText? fields "message-id")).getD "")

/-- Adds a field that is none of the others. -/
def addOther (m : Map) (field : Field) : Map :=
  let name := lower field.name
  if addressNames.contains name || envelopeNames.contains name then m
  else m.append name (lower field.text)

/-- The headers of a list of fields and an envelope in normal form. -/
def normalize (fields : List Field) (envelope : Envelope) : Except Cause Map := do
  let m ← addAddresses fields addressNames Map.empty
  let m := m.insert "subject" (.single (subjectOf fields envelope))
  let m := m.insert "date" (.single (dateOf fields envelope))
  let m := m.insert "message-id" (.single (messageIdOf fields envelope))
  return fields.foldl addOther m

/-- The headers of a header block and an envelope in normal form. -/
def ofBlock (block : List UInt8) (envelope : Envelope) : Except Cause Map := do
  normalize (← Field.ofBlock block) envelope

end Header

end Postroom
