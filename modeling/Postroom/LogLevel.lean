import Postroom.Text.Blank
import Postroom.Text.Lower
import Postroom.Text.Quoted

/-!
# Levels of logging

How much is logged, from everything to faults only, and the names of the levels.
-/

namespace Postroom

/-- A level of logging; each includes those after it. -/
inductive LogLevel where
  /-- Everything, the lines exchanged with servers included. -/
  | trace
  | debug
  | info
  | warn
  | error
deriving Repr, DecidableEq

namespace LogLevel

/-- The level in use where none is given. -/
def standard : LogLevel := info

/-- The name of a level. -/
def name : LogLevel → String
  | trace => "trace"
  | debug => "debug"
  | info => "info"
  | warn => "warn"
  | error => "error"

/-- The name of a level in capitals. -/
def capitals (l : LogLevel) : String := l.name.map Char.toUpper

/-- What is said of a text that names no level. -/
def unknown (text : String) : String :=
  "unknown log level " ++ Text.quoted text ++ " (expected trace, debug, info, warn or error)"

/-- The level a text names in any case of letters, with white space around it; or what is wrong
with it. -/
def read (s : String) : Except String LogLevel :=
  match Text.lower (Text.trimmed s) with
  | "trace" => .ok trace
  | "debug" => .ok debug
  | "info" => .ok info
  | "warn" | "warning" => .ok warn
  | "error" => .ok error
  | other => .error (unknown other)

/-- The levels, the most talkative first. -/
def all : List LogLevel := [trace, debug, info, warn, error]

/-- The place of a level among `all`. -/
def rank : LogLevel → Nat
  | trace => 0
  | debug => 1
  | info => 2
  | warn => 3
  | error => 4

end LogLevel

end Postroom
