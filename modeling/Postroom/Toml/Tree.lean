import Postroom.Document

/-!
# Tables of a TOML document while it is read

A document is built up line by line.  A line either opens a table, or an item of an array of tables,
or gives a value to a key of the table opened last.  Tables on the way that are not there yet are
made; how a table came to be decides what may still be done with it:

* a table that was opened cannot be opened again, nor be reached by a key with dots;
* a table made for a deeper one (`implied`) may be opened once, and then stands last in its parent;
* a table made by a key with dots (`dotted`) takes further keys only by such keys.
-/

namespace Postroom.Toml

/-- How a table came to be. -/
inductive Origin where
  /-- By a line that opens it. -/
  | opened
  /-- On the way to a deeper table. -/
  | implied
  /-- By a key with dots. -/
  | dotted
deriving Repr, DecidableEq

/-- What stands under a key. -/
inductive Node where
  /-- A value, which is complete. -/
  | value (d : Document)
  /-- A table. -/
  | table (origin : Origin) (entries : List (String × Node))
  /-- An array of tables: the complete ones, and the last. -/
  | items (earlier : List Document) (entries : List (String × Node))

/-- The entries of a table. -/
abbrev Entries := List (String × Node)

mutual

/-- What stands under a key, as a document. -/
def Node.toDocument : Node → Document
  | .value d => d
  | .table _ entries => .table (documents entries)
  | .items earlier entries => .list (earlier ++ [.table (documents entries)])

/-- The entries of a table as documents. -/
def documents : List (String × Node) → List (String × Document)
  | [] => []
  | (k, n) :: rest => (k, n.toDocument) :: documents rest

end

namespace Entries

/-- The node of a key. -/
def find? (key : String) : Entries → Option Node
  | [] => none
  | (k, n) :: rest => if k = key then some n else find? key rest

/-- Changes the node of a key, or adds one. -/
def alter (key : String) (change : Option Node → Option Node) : Entries → Option Entries
  | [] => do return [(key, ← change none)]
  | (k, n) :: rest =>
    if k = key then do return (k, ← change (some n)) :: rest
    else do return (k, n) :: (← alter key change rest)

/-- Changes the table that the keys of a header lead to.  Missing tables are made. -/
def within : List String → (Entries → Option Entries) → Entries → Option Entries
  | [], change, entries => change entries
  | key :: path, change, entries =>
    entries.alter key fun
      | none => do return .table .implied (← within path change [])
      | some (.table origin inner) => do return .table origin (← within path change inner)
      | some (.items earlier inner) => do return .items earlier (← within path change inner)
      | some (.value _) => none

/-- Gives a value to a key behind the keys in front of its dots. -/
def put : List String → String → Document → Entries → Option Entries
  | [], key, d, entries =>
    entries.alter key fun
      | none => some (.value d)
      | some _ => none
  | step :: path, key, d, entries =>
    entries.alter step fun
      | none => do return .table .dotted (← put path key d [])
      | some (.table .dotted inner) => do return .table .dotted (← put path key d inner)
      | some (.table .implied inner) =>
        if path.isEmpty then none else do return .table .implied (← put path key d inner)
      | some (.items earlier inner) =>
        if path.isEmpty then none else do return .items earlier (← put path key d inner)
      | some (.table .opened _) => none
      | some (.value _) => none

/-- Opens a table. -/
def openTable (key : String) (entries : Entries) : Option Entries :=
  match entries.find? key with
  | none => some (entries ++ [(key, .table .opened [])])
  | some (.table .implied inner) =>
    some (entries.filter (·.1 ≠ key) ++ [(key, .table .opened inner)])
  | some _ => none

/-- Opens the next item of an array of tables. -/
def openItem (key : String) (entries : Entries) : Option Entries :=
  entries.alter key fun
    | none => some (.items [] [])
    | some (.items earlier inner) => some (.items (earlier ++ [.table (documents inner)]) [])
    | some _ => none

end Entries

/-- A document so far: its entries, and the keys of the table opened last. -/
structure Draft where
  /-- The entries. -/
  entries : Entries
  /-- Where values are put. -/
  path : List String

namespace Draft

/-- The document before its first line. -/
def empty : Draft := ⟨[], []⟩

/-- Opens a table, the keys in front of whose last key lead to its parent. -/
def openTable (path : List String) (key : String) (draft : Draft) : Option Draft := do
  return ⟨← draft.entries.within path (Entries.openTable key), path ++ [key]⟩

/-- Opens the next item of an array of tables. -/
def openItem (path : List String) (key : String) (draft : Draft) : Option Draft := do
  return ⟨← draft.entries.within path (Entries.openItem key), path ++ [key]⟩

/-- Gives a value to a key of the table opened last. -/
def put (path : List String) (key : String) (d : Document) (draft : Draft) : Option Draft := do
  return { draft with entries := ← draft.entries.within draft.path (Entries.put path key d) }

/-- The document. -/
def toDocument (draft : Draft) : Document := .table (documents draft.entries)

end Draft

end Postroom.Toml
