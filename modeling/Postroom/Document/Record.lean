import Postroom.Document

/-!
# Records in documents

A record is written as a table whose keys are the names of its fields, or as a list of their values
in order.  Fields that are left out keep the value they start with; a key that names no field is an
error, and so is a field whose value is not of its type.  The entries are read in the order in which
they are written, and the first that cannot be read says what is wrong.
-/

namespace Postroom.Document

/-- A field of a record: its name, and how its value is put into the record. -/
structure RecordField (α : Type) where
  /-- The name. -/
  name : String
  /-- Reads the value and puts it into the record. -/
  put : Document → α → Except Mismatch α

/-- Reads a value and puts it into a record. -/
def RecordField.of {α β : Type} (name : String) (read : Document → Except Mismatch β)
    (put : β → α → α) : RecordField α :=
  ⟨name, fun d a => (read d).map fun b => put b a⟩

/-- Puts one entry of a table into a record. -/
def readEntry {α : Type} (fields : List (RecordField α)) (a : α) (entry : String × Document) :
    Except Mismatch α :=
  match fields.find? fun f => f.name = entry.1 with
  | some f => f.put entry.2 a
  | none => .error (.unknownKey entry.1 (fields.map RecordField.name))

/-- Puts the items of a list into a record, in the order of its fields. -/
def readItems {α : Type} : List (RecordField α) → List Document → α → Except Mismatch α
  | _, [], a => .ok a
  | [], _ :: _, _ => .error .shape
  | f :: fields, d :: items, a => do readItems fields items (← f.put d a)

/-- Reads a record. -/
def readRecord {α : Type} (fields : List (RecordField α)) (start : α) : Document → Except Mismatch α
  | .list items => readItems fields items start
  | d =>
    match d.entries? with
    | some entries => entries.foldlM (readEntry fields) start
    | none => .error .shape

/-- Reads a text. -/
def readText : Document → Except Mismatch String
  | .text s => .ok s
  | _ => .error .shape

/-- Reads a truth value. -/
def readBool : Document → Except Mismatch Bool
  | .bool b => .ok b
  | _ => .error .shape

/-- Reads a whole number within bounds. -/
def readInteger (least greatest : Int) : Document → Except Mismatch Int
  | .integer n => if least ≤ n ∧ n ≤ greatest then .ok n else .error .shape
  | _ => .error .shape

/-- Reads a value that may be missing. -/
def readOptional {α : Type} (read : Document → Except Mismatch α) :
    Document → Except Mismatch (Option α)
  | .null => .ok none
  | d => (read d).map some

/-- Reads each item in order, up to the first that cannot be read. -/
def readEach {α β : Type} (read : α → Except Mismatch β) : List α → Except Mismatch (List β)
  | [] => .ok []
  | a :: rest => do
    let b ← read a
    return b :: (← readEach read rest)

/-- Reads a list. -/
def readList {α : Type} (read : Document → Except Mismatch α) : Document → Except Mismatch (List α)
  | .list items => readEach read items
  | _ => .error .shape

/-- Reads a table of any keys. -/
def readTable {α : Type} (read : Document → Except Mismatch α) (d : Document) :
    Except Mismatch (List (String × α)) :=
  match d.entries? with
  | some entries => readEach (fun e => do return (e.1, ← read e.2)) entries
  | none => .error .shape

/-- An entry of a table that is left out if there is no value. -/
def entryIfAny {α : Type} (name : String) (write : α → Document) :
    Option α → List (String × Document)
  | some a => [(name, write a)]
  | none => []

end Postroom.Document
