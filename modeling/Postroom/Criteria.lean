import Postroom.Flag

/-!
# Search criteria

Messages are searched by the flags they carry and the flags they lack.  The criteria decide on a
list of flags (`Criteria.holds`), and have a text for a server that decides itself
(`Criteria.toString`).
-/

namespace Postroom

/-- Which messages to search for. -/
structure Criteria where
  /-- Flags a message must carry. -/
  present : List Flag
  /-- Flags a message must not carry. -/
  absent : List Flag
deriving Repr, DecidableEq

namespace Criteria

/-- Whether a message with these flags is searched for. -/
def holds (c : Criteria) (flags : List Flag) : Bool :=
  c.present.all flags.contains && !c.absent.any flags.contains

/-- The search keys for carrying and for lacking a flag. -/
def keys : Flag → String × String
  | .seen => ("SEEN", "UNSEEN")
  | .answered => ("ANSWERED", "UNANSWERED")
  | .flagged => ("FLAGGED", "UNFLAGGED")
  | .deleted => ("DELETED", "UNDELETED")
  | .draft => ("DRAFT", "UNDRAFT")
  | .recent => ("RECENT", "OLD")
  | f => ("KEYWORD " ++ f.toString, "UNKEYWORD " ++ f.toString)

/-- The text of the criteria. -/
def toString (c : Criteria) : String :=
  if c.present.isEmpty && c.absent.isEmpty then "ALL"
  else String.intercalate " " (c.present.map (keys · |>.1) ++ c.absent.map (keys · |>.2))

@[simp] theorem holds_nil (flags : List Flag) : holds ⟨[], []⟩ flags = true := by
  simp [holds]

end Criteria

end Postroom
