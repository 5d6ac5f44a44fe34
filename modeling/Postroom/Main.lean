import Postroom.Program

/-!
# Running the program

Reads the files that the options name, runs the program on them, and takes away those that it took
away.
-/

namespace Postroom.Main

open CommandLine

/-- What the system says when something fails. -/
def failureOf (e : IO.Error) : Stream.Failure := ⟨.other, toString e⟩

/-- The file or directory at a path, if there is one. -/
partial def fileTree? (path : IO.FS.DirEntry) : IO (Option FileTree) := do
  if ← path.path.isDir then
    match ← path.path.readDir.toBaseIO with
    | .error e => return some (.closed (failureOf e))
    | .ok found =>
      let mut entries : Assoc FileTree := []
      for entry in found do
        if let some t ← fileTree? entry then
          entries := entries.insert entry.fileName t
      return some (.directory entries)
  else if ← path.path.pathExists then
    match ← (IO.FS.readBinFile path.path).toBaseIO with
    | .error e => return some (.file ⟨.error (failureOf e), none⟩)
    | .ok content => return some (.file (.plain content.toList))
  else
    return none

/-- Adds what is at a path to a tree of files. -/
def addPath (files : FileTree) (path : String) : IO FileTree := do
  let place := (FileTree.names path).filter fun name => name ≠ "" && name ≠ "."
  match ← fileTree? ⟨".", path⟩ with
  | some t => return files.put place t
  | none => return files

/-- The variables of the environment that the program looks at. -/
def watched : List String := Program.logVariable :: Switch.all.filterMap Switch.environmentKey?

/-- The values of the variables that are set. -/
def environment : IO (List (String × String)) :=
  watched.filterMapM fun name => do
    return (← IO.getEnv name).map fun value => (name, value)

/-- The files that options name, directly or in the configuration. -/
def filesOf (o : Options) : IO FileTree := do
  let files ← addPath FileTree.empty o.config
  match Configuration.load o.config files with
  | (.ok c, _) => (c.accounts.filterMap fun e => e.2.connection.caFile).foldlM addPath files
  | (.error _, _) => return files

end Postroom.Main

open Postroom in
/-- Runs the program. -/
def main (args : List String) : IO UInt32 := do
  let environment ← Main.environment
  let (files, front) ← match CommandLine.read environment args with
    | .ok o => do
      pure (← Main.filesOf o, if o.config.toList.head? = some '/' then "/" else "")
    | .error _ => pure (FileTree.empty, "")
  let outcome := Program.run (Nat.pow 2 64) args environment files
  let left := outcome.files.paths
  for path in files.paths do
    unless left.contains path do IO.FS.removeFile (front ++ path)
  IO.print outcome.output
  if let some report := outcome.report then IO.eprintln report
  return UInt32.ofNat outcome.code
