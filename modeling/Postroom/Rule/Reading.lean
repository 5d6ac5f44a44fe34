import Postroom.Document.Record
import Postroom.Rule

/-!
# Rules in documents

Rules are written as a list of tables from operator names to lists of predicates.  A predicate is a
table with one key, the header; its value is a text, a whole number, or a list of such values nested
to any depth.  Numbers are taken in decimal and nested lists are flattened, so what is written from
a rule (`Rule.toDocument`) is a plainer document that reads back as the same rule.
-/

namespace Postroom

open Document (Mismatch readEach)

namespace Alternatives

mutual

/-- Reads the patterns of a predicate. -/
def ofDocument : Document → Except Mismatch Alternatives
  | .text s => .ok (one s)
  | .integer n => .ok (one (toString n))
  | .bool _ => .error (.patternType "bool")
  | .float => .error (.patternType "float")
  | .table _ => .error (.patternType "table")
  | .moment => .error (.patternType "table")
  | .null => .error .patternMissing
  | .list items => do return several (← flatten items)

/-- The patterns in the items of a list, from left to right. -/
def flatten : List Document → Except Mismatch (List String)
  | [] => .ok []
  | d :: rest => do
    let here ← ofDocument d
    return here.patterns ++ (← flatten rest)

end

/-- The patterns of a predicate as a document. -/
def toDocument : Alternatives → Document
  | one p => .text p
  | several ps => .list (ps.map .text)

end Alternatives

namespace Predicate

/-- Reads a predicate: every value must be a pattern before the number of keys counts. -/
def ofDocument (d : Document) : Except Mismatch Predicate :=
  match d.entries? with
  | some entries => do
    let read ← readEach (fun (header, d) => do return (header, ← Alternatives.ofDocument d)) entries
    match Assoc.ofList read with
    | [(header, alternatives)] => return ⟨header, alternatives⟩
    | other => throw (.predicateSize other.length)
  | none => .error .shape

/-- A predicate as a document. -/
def toDocument (p : Predicate) : Document := .table [(p.header, p.alternatives.toDocument)]

end Predicate

namespace Rule

/-- Reads the predicates of an operator. -/
def predicatesOfDocument : Document → Except Mismatch (List Predicate)
  | .list items => readEach Predicate.ofDocument items
  | _ => .error .shape

/-- Reads a rule. -/
def ofDocument (d : Document) : Except Mismatch Rule :=
  match d.entries? with
  | some entries => do
    let read ← readEach (fun (name, d) => do return (name, ← predicatesOfDocument d)) entries
    return ⟨Assoc.ofList read⟩
  | none => .error .shape

/-- Reads a list of rules. -/
def listOfDocument : Document → Except Mismatch (List Rule)
  | .list items => readEach ofDocument items
  | _ => .error .shape

/-- A rule as a document. -/
def toDocument (r : Rule) : Document :=
  .table (r.operators.map fun (name, ps) => (name, .list (ps.map Predicate.toDocument)))

/-- A list of rules as a document. -/
def listToDocument (rules : List Rule) : Document := .list (rules.map toDocument)

end Rule

end Postroom
