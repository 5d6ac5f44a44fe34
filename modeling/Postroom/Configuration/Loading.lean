import Postroom.Configuration.Reading
import Postroom.FileTree

/-!
# Loading a configuration

A configuration is one file, or all files of a directory and of the directories in it whose names
end in `.toml`.  A file named for an account may hold its password; it is taken away once it is
read, and its password is of no use if that fails.  All password files are taken before the first
configuration file is read.  Files are read in the order of their paths, name by name.
-/

namespace Postroom.Configuration

/-- The account whose password is in a file of some name. -/
def passwordAccount? (name : String) : Option String :=
  let front := ".mailsort.".toList
  let back := ".pwd".toList
  let cs := name.toList
  if front.isPrefixOf cs then
    let account := cs.drop front.length
    if back.isSuffixOf account ∧ back.length < account.length then
      some (String.ofList (account.take (account.length - back.length)))
    else none
  else none

/-- Whether a file of some name holds configuration. -/
def isConfigurationName (name : String) : Bool :=
  ".toml".toList.isSuffixOf name.toList && name ≠ ".toml"

/-- The text of a file. -/
def textOf (f : File) : Except Fault String :=
  match f.content with
  | .error failure => .error (.stream failure)
  | .ok content =>
    match Text.Utf8.string? content with
    | some text => .ok text
    | none => .error (.stream ⟨.other, "stream did not contain valid UTF-8"⟩)

/-- The password in the text of a file, once the file can be taken away. -/
def passwordOf (path : String) (f : File) (text : String) : Except Fault String :=
  if (Text.trimmed text).isEmpty then .error (.config ("password file " ++ path ++ " is empty"))
  else
    match f.hold with
    | some failure => .error (.stream failure)
    | none => .ok (Text.trimmed text)

/-- The password in a file. -/
def readPassword (path : String) (f : File) : Except Fault String := do
  passwordOf path f (← textOf f)

/-- What is found in a directory. -/
structure Findings where
  /-- The configuration files with their paths, in order. -/
  files : List (String × File)
  /-- The passwords by account. -/
  passwords : Assoc String

namespace Findings

/-- Nothing is found. -/
def none : Findings := ⟨[], []⟩

/-- Looks at a file. -/
def look (path name : String) (f : File) (found : Findings) : Except Fault Findings :=
  match passwordAccount? name with
  | some account => do
    let password ← readPassword path f
    return { found with passwords := found.passwords.insert account password }
  | .none =>
    .ok (if isConfigurationName name then { found with files := found.files ++ [(path, f)] }
      else found)

/-- Looks through the entries of a directory.  The result includes the entries that are left. -/
def gather (directory : String) :
    List (String × FileTree) → Findings → Except Fault Findings × List (String × FileTree)
  | [], found => (.ok found, [])
  | (name, .closed failure) :: rest, _ =>
    (.error (.stream failure), (name, .closed failure) :: rest)
  | (name, .directory entries) :: rest, found =>
    match gather (FileTree.entryPath directory name) entries found with
    | (.error fault, entries) => (.error fault, (name, .directory entries) :: rest)
    | (.ok found, entries) =>
      let (r, rest) := gather directory rest found
      (r, (name, .directory entries) :: rest)
  | (name, .file f) :: rest, found =>
    match look (FileTree.entryPath directory name) name f found with
    | .error fault => (.error fault, (name, .file f) :: rest)
    | .ok found =>
      let (r, rest) := gather directory rest found
      (r, if (passwordAccount? name).isSome then rest else (name, .file f) :: rest)

end Findings

/-- Reads a file. -/
def ofFile (path : String) (f : File) : Except Fault Configuration := do
  (ofText (← textOf f)).mapError fun m => .configFile path m.message?

/-- Reads files one after another on top of a configuration. -/
def mergeFiles (c : Configuration) : List (String × File) → Except Fault Configuration
  | [] => .ok c
  | (path, f) :: rest => do mergeFiles (c.merge (← ofFile path f)) rest

/-- The configuration in what was found. -/
def ofFindings (found : Findings) : Except Fault Configuration := do
  (← mergeFiles empty found.files).complete found.passwords

/-- Loads the configuration at a path.  The result includes the files that are left. -/
def load (path : String) (root : FileTree) : Except Fault Configuration × FileTree :=
  match root.resolve path with
  | .error failure => (.error (.stream failure), root)
  | .ok place =>
    match root.find? place with
    | some (.directory entries) =>
      let (found, entries) := Findings.gather path entries Findings.none
      (found.bind ofFindings, root.put place (.directory entries))
    | some (.closed failure) => (.error (.stream failure), root)
    | some (.file f) => (ofFindings ⟨[(path, f)], []⟩, root)
    | none => (.error (.stream FileTree.notFound), root)

end Postroom.Configuration
