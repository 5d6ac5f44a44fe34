import Postroom.CommandLine.Help
import Postroom.Configuration.Loading
import Postroom.LogFilter
import Postroom.Offline

/-!
# The program

What the program does with its arguments, its environment and the files around it: it reads the
command line, loads the configuration, and works on the jobs.  It ends with 0 if all went well, with
2 if the command line is wrong, and with 1 after any other fault.
-/

namespace Postroom.Program

/-- How the program ended. -/
structure Outcome where
  /-- The exit code. -/
  code : Nat
  /-- What it printed. -/
  output : String
  /-- What it reported in the end, if anything. -/
  report : Option String
  /-- The files that are left. -/
  files : FileTree

/-- The variable of the environment with the directives of logging. -/
def logVariable : String := "RUST_LOG"

/-- The filter of log messages that is in force. -/
def logFilter (directives : Option String) (level : LogLevel) : Except Fault LogFilter :=
  (LogFilter.choose directives level).mapError fun cause =>
    .config ("invalid " ++ logVariable ++ ": " ++ cause.message)

/-- A fault in words; what is wrong within a file is not said. -/
def headline : Fault → String
  | .configFile path _ => (Fault.configFile path none).message
  | fault => fault.message

/-- Ends after a fault. -/
def failed (fault : Fault) (files : FileTree) : Outcome :=
  ⟨1, "", some (CommandLine.programName ++ ": " ++ headline fault), files⟩

/-- Does what the options say, for at most `limit` rounds. -/
def work (limit : Nat) (directives : Option String) (o : CommandLine.Options) (files : FileTree) :
    Except Fault Unit × FileTree :=
  match logFilter directives o.logLevel with
  | .error fault => (.error fault, files)
  | .ok _ =>
    match Configuration.load o.config files with
    | (.error fault, files) => (.error fault, files)
    | (.ok c, files) =>
      match c.jobs Offline.backend with
      | .error fault => (.error fault, files)
      | .ok jobs =>
        let (r, _, files) := Poll.run (if o.once then 1 else limit) jobs files
        (r, files)

/-- Runs the program. -/
def run (limit : Nat) (args : List String) (environment : List (String × String))
    (files : FileTree) : Outcome :=
  match CommandLine.read environment args with
  | .error .help => ⟨0, CommandLine.helpText environment, none, files⟩
  | .error .version => ⟨0, CommandLine.versionText, none, files⟩
  | .error (.refused mistake) => ⟨2, "", some ("error: " ++ mistake.message), files⟩
  | .ok o =>
    match work limit (environment.lookup logVariable) o files with
    | (.ok _, files) => ⟨0, "", none, files⟩
    | (.error fault, files) => failed fault files

end Postroom.Program
