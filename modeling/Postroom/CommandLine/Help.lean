import Postroom.CommandLine

/-!
# Help on the command line
-/

namespace Postroom.CommandLine

/-- The name of the program. -/
def programName : String := "mailsort"

/-- The version of the program in one line. -/
def versionText : String := programName ++ " 0.1.0\n"

namespace Switch

/-- What an option is for. -/
def purpose : Switch → String
  | config => "TOML file or directory of TOML files"
  | logLevel =>
    "trace, debug, info, warn or error. \x60trace\x60 logs the IMAP traffic, passwords included"
  | logJson => "Log one JSON object per line"
  | pollInterval => "Pause between passes, e.g. \x6030s\x60, \x605m\x60 or \x60500ms\x60"
  | once => "Run a single pass and exit"
  | help => "Print help"
  | version => "Print version"

/-- The usual value, if there is a value. -/
def usualValue? : Switch → Option String
  | config => some "config/"
  | logLevel => some "info"
  | pollInterval => some "5s"
  | _ => none

/-- The forms of an option. -/
def forms (s : Switch) : String :=
  "  " ++ ((s.letter?.map fun c => String.ofList ['-', c, ',', ' ']).getD "    ") ++ s.shown

/-- The lines about an option. -/
def lines (environment : List (String × String)) (s : Switch) : String :=
  let variableNote := (s.environmentKey?.map fun v =>
    " [env: " ++ v ++ "=" ++ ((environment.lookup v).getD "") ++ "]").getD ""
  let usualNote := (s.usualValue?.map fun v => " [default: " ++ v ++ "]").getD ""
  s.forms ++ "\n          " ++ s.purpose ++ variableNote ++ usualNote ++ "\n"

end Switch

/-- The help text. -/
def helpText (environment : List (String × String)) : String :=
  "Rule-based IMAP mailbox sorter\n\nUsage: " ++ programName ++ " [OPTIONS]\n\nOptions:\n"
    ++ String.join (Switch.all.map (Switch.lines environment))

end Postroom.CommandLine
