import Postroom.Text.Lower
import Postroom.Text.Quoted

/-!
# Message flags

The marks a message can carry.  A flag is a system flag, named on the wire by a backslash and a
word, or a keyword, which stands for itself.  System flags are recognised whatever the case of
their ASCII letters; keywords are kept as they are.
-/

namespace Postroom

/-- A flag of a message. -/
inductive Flag where
  /-- The message has been read. -/
  | seen
  /-- The message has been answered. -/
  | answered
  /-- The message is marked for attention. -/
  | flagged
  /-- The message is marked for removal. -/
  | deleted
  /-- The message is not finished. -/
  | draft
  /-- The message arrived in this session. -/
  | recent
  /-- New keywords may be created. -/
  | mayCreate
  /-- A keyword. -/
  | keyword (name : String)
deriving Repr, DecidableEq, Inhabited

namespace Flag

/-- The system flag of a wire name. -/
def system? (s : String) : Option Flag :=
  match Text.lowerAscii s with
  | "\\seen" => some seen
  | "\\answered" => some answered
  | "\\flagged" => some flagged
  | "\\deleted" => some deleted
  | "\\draft" => some draft
  | "\\recent" => some recent
  | "\\*" => some mayCreate
  | _ => none

/-- The flag of a wire name. -/
def ofString (s : String) : Flag := (system? s).getD (keyword s)

/-- The wire name of a flag. -/
def toString : Flag → String
  | seen => "\\Seen"
  | answered => "\\Answered"
  | flagged => "\\Flagged"
  | deleted => "\\Deleted"
  | draft => "\\Draft"
  | recent => "\\Recent"
  | mayCreate => "\\*"
  | keyword name => name

instance : ToString Flag := ⟨toString⟩

/-- Whether a flag is a system flag. -/
def isSystem : Flag → Bool
  | keyword _ => false
  | _ => true

/-- The word for the kind of flag. -/
def kindName : Flag → String
  | seen => "Seen"
  | answered => "Answered"
  | flagged => "Flagged"
  | deleted => "Deleted"
  | draft => "Draft"
  | recent => "Recent"
  | mayCreate => "MayCreate"
  | keyword _ => "Custom"

/-- A flag as shown in a listing: its kind, and for a keyword its name in quotes. -/
def shown : Flag → String
  | keyword name => "Custom(" ++ Text.quoted name ++ ")"
  | f => f.kindName

/-- Wire names separated by single blanks. -/
def join (flags : List Flag) : String := String.intercalate " " (flags.map toString)

@[simp] theorem toString_keyword (name : String) : (keyword name).toString = name := rfl

/-- Reading the wire name of a system flag gives the flag back. -/
theorem ofString_toString_of_isSystem {f : Flag} (h : f.isSystem = true) :
    ofString f.toString = f := by
  cases f with
  | keyword name => simp [isSystem] at h
  | _ => decide +kernel

end Flag

end Postroom
