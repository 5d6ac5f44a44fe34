import Postroom.Text.Blank
import Postroom.Wire.Untagged

/-!
# A client on a connection

A client sends commands, each with a tag of its own, and reads up to the completion of the command
it sent last.  Its state is what the connection will still bring, line by line, what has been sent,
and the number of the last tag.  `completionIn` reads one response after another: a line that is
only the beginning of a response is held back until the lines that follow make it whole, so a
literal may contain anything.
-/

namespace Postroom.Wire

open Text

/-- The bytes up to a line feed and with it; the last line may lack one. -/
abbrev Line : Type := List UInt8

/-- Cuts bytes after every line feed. -/
def linesOf : List UInt8 → List Line
  | [] => []
  | b :: rest =>
    if b = 10 then [b] :: linesOf rest
    else
      match linesOf rest with
      | [] => [[b]]
      | line :: more => (b :: line) :: more

/-- Something that went over the connection. -/
inductive Exchange where
  /-- A command was sent. -/
  | sent (command : String)
  /-- A line was received. -/
  | received (line : Line)
deriving Repr, DecidableEq

/-- An exchange in one line. -/
def Exchange.toString : Exchange → String
  | sent command => "C: " ++ command
  | received line => "S: " ++ String.ofList (trimEnd (Utf8.decodeLossy line))

/-- The state of a client. -/
structure Client where
  /-- The lines that can still be read. -/
  incoming : List Line
  /-- What happens after them. -/
  ending : Fault
  /-- Why nothing can be sent, if nothing can. -/
  blocked : Option Stream.Failure
  /-- Whether something waits to be sent. -/
  pending : Bool
  /-- What has been sent. -/
  sent : List UInt8
  /-- The number of the last tag. -/
  tag : Nat
  /-- What went over the connection, last first. -/
  exchanges : List Exchange
deriving Repr

/-- What is done with a client, which keeps its state when it fails. -/
abbrev Action (α : Type) : Type := ExceptT Fault (StateM Client) α

namespace Client

/-- A client on a connection that brings some bytes and then breaks with a failure, or ends.  A last
line without its end is lost if the connection breaks. -/
def ofScript (script : List UInt8) (failure blocked : Option Stream.Failure) : Client :=
  let lines := linesOf script
  let whole := match failure with
    | none => lines
    | some _ => lines.filter fun line => line.getLast? = some 10
  ⟨whole, (failure.map Fault.stream).getD .connectionLost, blocked, false, [], 0, []⟩

/-- Sends bytes. -/
def write (bs : List UInt8) : Action Unit := do
  let c ← get
  match c.blocked with
  | none => set { c with sent := c.sent ++ bs }
  | some failure =>
    set { c with pending := true }
    throw (.stream failure)

/-- Reads a line. -/
def readLine : Action Line := do
  let c ← get
  match c.incoming with
  | [] => throw c.ending
  | line :: rest =>
    set { c with incoming := rest, exchanges := .received line :: c.exchanges }
    return line

/-- Reads the line with which a server begins. -/
def greeting : Action Line := do
  let line ← readLine
  let farewell := Utf8.bytes "* BYE"
  if farewell.isPrefixOf line then
    throw (.bye (trimmed (Utf8.stringLossy (line.drop farewell.length))))
  return line

/-- Sends a command with the next tag. -/
def send (command : String) : Action Unit := do
  let c ← get
  let tagged := "a" ++ (c.tag + 1).repr ++ " " ++ command
  set { c with tag := c.tag + 1 }
  write (Utf8.bytes tagged ++ [13, 10])
  modify fun c => { c with exchanges := .sent tagged :: c.exchanges }

/-- What a successful command brought. -/
structure Completed where
  /-- The data before the completion. -/
  untagged : List UInt8
  /-- The new identifier of the first copy, if the completion tells it. -/
  copied : Option Uid
deriving Repr, DecidableEq

/-- What a completion means for the command with the tag `expected`. -/
def judge (expected : String) (untagged : List UInt8) (tag : String) (status : Status)
    (remark : Remark) : Except Fault Completed :=
  let text := remark.text.getD "no explanation given"
  if tag ≠ expected then .error (.unexpected (.completion tag expected))
  else
    match status with
    | .ok =>
      match remark.code with
      | some (.copyUid _ _ destination) => .ok ⟨untagged, firstUid? destination⟩
      | _ => .ok ⟨untagged, none⟩
    | .no => .error (Fault.ofNo text (remark.code = some .tryCreate))
    | .bad => .error (.bad text)
    | status => .error (.unexpected (.status status.name text))

/-- Reads lines up to a completion.  `untagged` holds the responses so far and `start` the
beginning of the next one; what is left of the lines is given back. -/
def completionIn (expected : String) (ending : Fault) :
    (untagged start : List UInt8) → List Line → Except Fault Completed × List Line
  | _, _, [] => (.error ending, [])
  | untagged, start, line :: rest =>
    match response (start ++ line) with
    | .done (.completion tag status remark) _ => (judge expected untagged tag status remark, rest)
    | .done _ _ => completionIn expected ending (untagged ++ (start ++ line)) [] rest
    | .more => completionIn expected ending untagged (start ++ line) rest
    | .fail => (.error (.unreadable (start ++ line)), rest)

/-- Reads up to the completion of the last command. -/
def readCompletion : Action Completed := do
  let c ← get
  let (outcome, rest) := completionIn ("a" ++ c.tag.repr) c.ending [] [] c.incoming
  let read := c.incoming.take (c.incoming.length - rest.length)
  set { c with incoming := rest, exchanges := (read.map Exchange.received).reverse ++ c.exchanges }
  MonadExcept.ofExcept outcome

/-- Sends a command and reads up to its completion. -/
def run (command : String) : Action Completed := do
  send command
  readCompletion

/-- Sends a command of which nothing but success is of interest. -/
def runQuietly (command : String) : Action Unit := do
  let _ ← run command

/-- Gives the connection back, after what waits to be sent. -/
def release : Action Unit := do
  let c ← get
  match c.pending, c.blocked with
  | true, some failure => throw (.stream failure)
  | _, _ => return ()

end Client

end Postroom.Wire
