import Postroom.Duration
import Postroom.LogLevel

/-!
# The command line

Options are given in long form, with the value behind an equals sign or in the next argument, or as
one letter, several of which may stand together.  An option that is not given takes its value from
the environment if there is one, and else its usual value.

Arguments are read from left to right, and the first that is wrong ends the reading.  An option
whose value is in the next argument is looked at when the next option comes, so what is wrong with
its value is passed over if an unknown argument comes first.
-/

namespace Postroom.CommandLine

/-- What the program is told. -/
structure Options where
  /-- The path of the configuration. -/
  config : String
  /-- The level of logging. -/
  logLevel : LogLevel
  /-- Whether log messages are written as JSON. -/
  logJson : Bool
  /-- How long to wait between two rounds. -/
  pollInterval : Duration
  /-- Whether to end after one round. -/
  once : Bool
deriving Repr, DecidableEq

/-- What is told where nothing is said. -/
def Options.usual : Options := ⟨"config/", .standard, false, .ofSeconds 5, false⟩

/-- An option. -/
inductive Switch where
  | config
  | logLevel
  | logJson
  | pollInterval
  | once
  | help
  | version
deriving Repr, DecidableEq

namespace Switch

/-- The options, in the order in which they are shown. -/
def all : List Switch := [config, logLevel, logJson, pollInterval, once, help, version]

/-- The long form. -/
def long : Switch → String
  | config => "config"
  | logLevel => "log-level"
  | logJson => "log-json"
  | pollInterval => "poll-interval"
  | once => "once"
  | help => "help"
  | version => "version"

/-- The letter. -/
def letter? : Switch → Option Char
  | config => some 'c'
  | logLevel => some 'l'
  | logJson => some 'j'
  | pollInterval => some 'i'
  | once => none
  | help => some 'h'
  | version => some 'V'

/-- What the value is called, if there is one. -/
def valueName? : Switch → Option String
  | config => some "CONFIG"
  | logLevel => some "LOG_LEVEL"
  | pollInterval => some "POLL_INTERVAL"
  | _ => none

/-- The variable of the environment with the value. -/
def environmentKey? : Switch → Option String
  | config => some "CONFIG_PATH"
  | logLevel => some "LOG_LEVEL"
  | logJson => some "LOG_JSON"
  | pollInterval => some "POLL_INTERVAL"
  | _ => none

/-- Whether there is a value. -/
def takesValue (s : Switch) : Bool := s.valueName?.isSome

/-- An option as it is shown. -/
def shown (s : Switch) : String :=
  "--" ++ s.long ++ ((s.valueName?.map fun v => " <" ++ v ++ ">").getD "")

/-- The option with a long form. -/
def ofLong? (name : String) : Option Switch := all.find? fun s => s.long = name

/-- The option with a letter. -/
def ofLetter? (c : Char) : Option Switch := all.find? fun s => s.letter? = some c

end Switch

/-- What is wrong with a command line. -/
inductive Mistake where
  /-- An argument is not known. -/
  | unexpected (arg : String)
  /-- An option has no value. -/
  | valueMissing (s : Switch)
  /-- An option does not take a value. -/
  | valueUnneeded (value : String) (s : Switch)
  /-- An option cannot have a value, and why if it is said. -/
  | valueRefused (value : String) (s : Switch) (reason : Option String)
  /-- An option is given twice. -/
  | repeated (s : Switch)
deriving Repr, DecidableEq

/-- What is wrong with a command line, in words. -/
def Mistake.message : Mistake → String
  | unexpected arg => "unexpected argument '" ++ arg ++ "' found"
  | valueMissing s => "a value is required for '" ++ s.shown ++ "' but none was supplied"
  | valueUnneeded value s =>
    "unexpected value '" ++ value ++ "' for '" ++ s.shown ++ "' found; no more were expected"
  | valueRefused value s reason =>
    "invalid value '" ++ value ++ "' for '" ++ s.shown ++ "'" ++ ((reason.map (": " ++ ·)).getD "")
  | repeated s => "the argument '" ++ s.shown ++ "' cannot be used multiple times"

/-- Why the program does not go on after its command line. -/
inductive Ending where
  /-- Something is wrong. -/
  | refused (mistake : Mistake)
  /-- Help is asked for. -/
  | help
  /-- The version is asked for. -/
  | version
deriving Repr, DecidableEq

/-- How far the command line is read. -/
structure Progress where
  /-- What is told so far. -/
  options : Options
  /-- The options that were given. -/
  given : List Switch
  /-- The option given last, if its value was not attached, with its value if that was read. -/
  waiting : Option (Switch × Option String)
  /-- Whether two hyphens were read, after which nothing is an option. -/
  closed : Bool

/-- The truth value a text names. -/
def truth? : String → Option Bool
  | "true" => some true
  | "false" => some false
  | _ => none

/-- Tells an option its value. -/
def Options.set (o : Options) (s : Switch) (value : String) : Except Mistake Options :=
  match s with
  | .config => if value.isEmpty then .error (.valueMissing s) else .ok { o with config := value }
  | .logLevel =>
    match LogLevel.read value with
    | .ok level => .ok { o with logLevel := level }
    | .error reason => .error (.valueRefused value s (some reason))
  | .logJson =>
    match truth? value with
    | some b => .ok { o with logJson := b }
    | none => .error (if value.isEmpty then .valueMissing s else .valueRefused value s none)
  | .pollInterval =>
    match Duration.read value with
    | .ok interval => .ok { o with pollInterval := interval }
    | .error fault => .error (.valueRefused value s (some fault.message))
  | .once => .ok { o with once := true }
  | .help | .version => .ok o

namespace Progress

/-- Nothing is read. -/
def start : Progress := ⟨.usual, [], none, false⟩

/-- Takes an option with its value. -/
def take (p : Progress) (s : Switch) (value : Option String) : Except Ending Progress :=
  match s, value with
  | .help, _ => .error .help
  | .version, _ => .error .version
  | s, value =>
    if s.takesValue && value.isNone then .error (.refused (.valueMissing s))
    else if p.given.contains s then .error (.refused (.repeated s))
    else
      match p.options.set s (value.getD "true") with
      | .ok options => .ok { p with options := options, given := s :: p.given }
      | .error mistake => .error (.refused mistake)

/-- Takes the option that waits. -/
def settle (p : Progress) : Except Ending Progress :=
  match p.waiting with
  | some (s, value) => { p with waiting := none }.take s value
  | none => .ok p

/-- Gives an option, with its value if that is attached. -/
def give (p : Progress) (s : Switch) (attached : Option String) : Except Ending Progress := do
  let p ← p.settle
  if s.takesValue && attached.isNone then return { p with waiting := some (s, none) }
  p.take s attached

/-- Reads letters that stand together.  What follows the letter of an option with a value is its
value, without an equals sign in front. -/
def readLetters (p : Progress) : List Char → Except Ending Progress
  | [] => .ok p
  | c :: rest =>
    match Switch.ofLetter? c with
    | none => .error (.refused (.unexpected (String.ofList ['-', c])))
    | some s =>
      if s.takesValue then
        match rest with
        | [] => p.give s none
        | '=' :: value => p.give s (some (String.ofList value))
        | value => p.give s (some (String.ofList value))
      else do readLetters (← p.give s none) rest

/-- Reads a long form, with a value behind an equals sign or without. -/
def readLong (p : Progress) (cs : List Char) : Except Ending Progress :=
  let name := String.ofList (cs.takeWhile (· ≠ '='))
  match Switch.ofLong? name, cs.dropWhile (· ≠ '=') with
  | none, _ => .error (.refused (.unexpected ("--" ++ name)))
  | some s, [] => p.give s none
  | some s, _ :: value =>
    let value := String.ofList value
    if s.takesValue then p.give s (some value) else .error (.refused (.valueUnneeded value s))

/-- Reads an argument that is no option. -/
def readPlain (p : Progress) (arg : String) : Except Ending Progress :=
  match p.waiting, p.closed with
  | some (s, none), false => .ok { p with waiting := some (s, some arg) }
  | _, _ => .error (.refused (.unexpected arg))

/-- Reads an argument. -/
def readArgument (p : Progress) (arg : String) : Except Ending Progress :=
  if p.closed then p.readPlain arg
  else
    match arg.toList with
    | ['-', '-'] => .ok { p with closed := true }
    | '-' :: '-' :: cs => p.readLong cs
    | '-' :: c :: cs => p.readLetters (c :: cs)
    | _ => p.readPlain arg

/-- Takes what was not given from the environment. -/
def readVariables (environment : List (String × String)) (p : Progress) :
    List Switch → Except Ending Options
  | [] => .ok p.options
  | s :: rest =>
    match if p.given.contains s then none else s.environmentKey?.bind (environment.lookup ·) with
    | some value =>
      match p.options.set s value with
      | .ok options => readVariables environment { p with options := options } rest
      | .error mistake => .error (.refused mistake)
    | none => readVariables environment p rest

end Progress

/-- Reads a command line. -/
def read (environment : List (String × String)) (args : List String) : Except Ending Options := do
  let p ← args.foldlM Progress.readArgument Progress.start
  (← p.settle).readVariables environment Switch.all

end Postroom.CommandLine
