import Postroom.Assoc
import Postroom.Stream
import Postroom.Text.Split

/-!
# Trees of files

A directory with everything in it, as a value.  Entries of a directory are kept in the order of
their names.  A file says what comes of reading it and of taking it away, since either can fail, and
a directory may be closed.  A path is a text of names with slashes between them; a single dot stays
where it is, two dots go up, and an empty name, such as after a slash at the end, stays too but only
in a directory.  Every path begins at the root of the tree, and none leads out of it.
-/

namespace Postroom

/-- A file. -/
structure File where
  /-- Its content, or why it cannot be read. -/
  content : Except Stream.Failure (List UInt8)
  /-- Why it cannot be taken away, if it cannot. -/
  hold : Option Stream.Failure

/-- A file that can be read and taken away. -/
def File.plain (content : List UInt8) : File := ⟨.ok content, none⟩

/-- A file or a directory. -/
inductive FileTree where
  /-- A file. -/
  | file (f : File)
  /-- A directory and its entries, in the order of their names. -/
  | directory (entries : List (String × FileTree))
  /-- A directory that cannot be looked through, and why. -/
  | closed (failure : Stream.Failure)
deriving Inhabited

namespace FileTree

/-- An empty directory. -/
def empty : FileTree := .directory []

/-- What stands at a place, given by the names that lead to it. -/
def find? : List String → FileTree → Option FileTree
  | [], t => some t
  | name :: rest, .directory entries => (Assoc.get? name entries).bind (find? rest)
  | _ :: _, .file _ | _ :: _, .closed _ => none

/-- Puts something at a place; missing directories are made. -/
def put (t : FileTree) : List String → FileTree → FileTree
  | [], new => new
  | name :: rest, new =>
    let entries := match t with
      | .directory entries => entries
      | .file _ | .closed _ => []
    .directory (Assoc.insert name (put ((Assoc.get? name entries).getD empty) rest new) entries)

/-- The names in a path. -/
def names (path : String) : List String := (Text.split '/' path.toList).map String.ofList

/-- There is no such file. -/
def notFound : Stream.Failure := ⟨.other, "No such file or directory (os error 2)"⟩

/-- A name is looked up in a file. -/
def notDirectory : Stream.Failure := ⟨.other, "Not a directory (os error 20)"⟩

/-- A directory is read as a file. -/
def isDirectory : Stream.Failure := ⟨.other, "Is a directory (os error 21)"⟩

/-- Follows names from a place. -/
def follow (root : FileTree) (place : List String) :
    List String → Except Stream.Failure (List String)
  | [] => .ok place
  | name :: rest =>
    match root.find? place with
    | none => .error notFound
    | some (.file _) => .error notDirectory
    | some (.closed failure) => .error failure
    | some (.directory entries) =>
      if name = "" ∨ name = "." then follow root place rest
      else if name = ".." then
        if place.isEmpty then .error notFound else follow root place.dropLast rest
      else if (Assoc.get? name entries).isNone then .error notFound
      else follow root (place ++ [name]) rest

/-- The place a path leads to. -/
def resolve (root : FileTree) (path : String) : Except Stream.Failure (List String) :=
  if path.isEmpty then .error notFound else follow root [] (names path)

/-- What stands at a path. -/
def get (root : FileTree) (path : String) : Except Stream.Failure FileTree := do
  match root.find? (← root.resolve path) with
  | some t => return t
  | none => throw notFound

/-- The content of the file at a path. -/
def read (root : FileTree) (path : String) : Except Stream.Failure (List UInt8) := do
  match ← root.get path with
  | .file f => f.content
  | .directory _ | .closed _ => throw isDirectory

/-- Whether a path ends in a slash. -/
def endsInSlash (path : String) : Bool := path.toList.getLast? = some '/'

/-- The path of an entry of a directory. -/
def entryPath (directory name : String) : String :=
  if endsInSlash directory then directory ++ name else directory ++ "/" ++ name

/-- The paths of the files in a directory, behind the path of the directory. -/
def pathsIn (directory : String) : List (String × FileTree) → List String
  | [] => []
  | (name, .file _) :: rest => (directory ++ name) :: pathsIn directory rest
  | (name, .directory entries) :: rest =>
    pathsIn (directory ++ name ++ "/") entries ++ pathsIn directory rest
  | (_, .closed _) :: rest => pathsIn directory rest

/-- The paths of all files, in order. -/
def paths : FileTree → List String
  | .file _ | .closed _ => []
  | .directory entries => (pathsIn "" entries).mergeSort fun a b => decide (a ≤ b)

/-- A tree of plain files; a path that ends in a slash is a directory. -/
def ofFiles (files : List (String × List UInt8)) : FileTree :=
  files.foldl (fun t (path, content) =>
    if endsInSlash path then
      let place := (names path).dropLast
      t.put place ((t.find? place).getD empty)
    else t.put (names path) (.file (.plain content))) empty

end FileTree

end Postroom
