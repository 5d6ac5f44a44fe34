import Postroom.Document.Record
import Postroom.Filter
import Postroom.Rule.Reading

/-!
# Filters in documents
-/

namespace Postroom

open Document

/-- The fields of commands. -/
def Commands.fields : List (RecordField Commands) := [
  .of "move" (readOptional readText) fun v c => { c with moveTo := v },
  .of "add_flags" (readOptional (readList readText)) fun v c => { c with addFlags := v },
  .of "remove_flags" (readOptional (readList readText)) fun v c => { c with removeFlags := v },
  .of "replace_all_flags" (readOptional (readList readText)) fun v c =>
    { c with replaceFlags := v }]

/-- Reads commands. -/
def Commands.ofDocument (d : Document) : Except Mismatch Commands :=
  readRecord Commands.fields Commands.none d

/-- A list of texts as a document. -/
def textList (texts : List String) : Document := .list (texts.map .text)

/-- Commands as a document. -/
def Commands.toDocument (c : Commands) : Document :=
  .table (entryIfAny "move" .text c.moveTo ++ entryIfAny "add_flags" textList c.addFlags
    ++ entryIfAny "remove_flags" textList c.removeFlags
    ++ entryIfAny "replace_all_flags" textList c.replaceFlags)

namespace Filter

/-- A filter that matches nothing. -/
def empty : Filter := ⟨0, Commands.none, []⟩

/-- The fields of a filter. -/
def fields : List (RecordField Filter) := [
  .of "priority" (readInteger (-Int.pow 2 63) (Int.pow 2 63 - 1)) fun v f =>
    { f with priority := v },
  .of "commands" Commands.ofDocument fun v f => { f with commands := v },
  .of "rules" Rule.listOfDocument fun v f => { f with rules := v }]

/-- Reads a filter. -/
def ofDocument (d : Document) : Except Mismatch Filter := readRecord fields empty d

/-- A filter as a document. -/
def toDocument (f : Filter) : Document :=
  .table [("priority", .integer f.priority), ("commands", f.commands.toDocument),
    ("rules", Rule.listToDocument f.rules)]

/-- Reads filters by name. -/
def setOfDocument (d : Document) : Except Mismatch (Assoc Filter) :=
  (readTable ofDocument d).map Assoc.ofList

/-- Filters by name as a document. -/
def setToDocument (filters : Assoc Filter) : Document :=
  .table (filters.map fun e => (e.1, e.2.toDocument))

end Filter

end Postroom
