import Postroom.Fault
import Postroom.Flag
import Postroom.MailboxName

/-!
# Arguments of commands

How text is put into a command: in quotes, with a backslash before each quote and backslash.  A line
break cannot be put into a command at all, and a keyword has to be an atom, with a backslash before
it at most.
-/

namespace Postroom.Wire

/-- A character between quotes. -/
def escape (c : Char) : List Char := if c = '\\' ∨ c = '"' then ['\\', c] else [c]

/-- A text in quotes, or the line break that it contains. -/
def quotedText (s : String) : Except Fault String :=
  if s.toList.contains '\n' then .error (.invalidChar '\n')
  else if s.toList.contains '\r' then .error (.invalidChar '\r')
  else .ok (String.ofList ('"' :: s.toList.flatMap escape ++ ['"']))

/-- A mailbox name in quotes. -/
def quotedMailbox (name : String) : Except Fault String := quotedText (MailboxName.encode name)

/-- Whether a character can stand in an atom. -/
def isAtomChar (c : Char) : Bool :=
  '!' ≤ c && c ≤ '~' && !(['(', ')', '{', '%', '*', '"', '\\', ']'].contains c)

/-- The name of a keyword without the backslash it may begin with. -/
def withoutBackslash : List Char → List Char
  | '\\' :: rest => rest
  | cs => cs

/-- Finds what cannot be sent of a flag. -/
def checkFlag : Flag → Except Fault Unit
  | .keyword name =>
    match withoutBackslash name.toList with
    | [] => .error (.invalidChar '\\')
    | cs =>
      match cs.find? (!isAtomChar ·) with
      | some c => .error (.invalidChar c)
      | none => .ok ()
  | _ => .ok ()

/-- Flags as they are sent. -/
def flagText (flags : List Flag) : Except Fault String := do
  flags.forM checkFlag
  return Flag.join flags

end Postroom.Wire
