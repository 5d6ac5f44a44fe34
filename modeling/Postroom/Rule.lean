import Postroom.Assoc
import Postroom.Fault
import Postroom.Header.Map
import Postroom.Pattern

/-!
# Rules

A rule puts operators before predicates on headers.  A predicate names a header and gives patterns
for it; it holds if some pattern matches some text of the header.  The operators of a rule are
looked at in the order of their names:

* `or` passes over predicates whose header is absent, and decides for the rule at the first one that
  holds; if none does, the next operator is looked at;
* `and` decides the rule: it fails at the first predicate whose header is absent or that does not
  hold, and it succeeds if there was a predicate at all.

A set of rules matches if one of them does.  The first pattern that has to be read as a regular
expression and is none, or the first unknown operator, stops the evaluation.
-/

namespace Postroom

/-- The patterns of a predicate. -/
inductive Alternatives where
  /-- One pattern. -/
  | one (pattern : String)
  /-- A list of patterns. -/
  | several (patterns : List String)
deriving Repr, DecidableEq

/-- All the patterns. -/
def Alternatives.patterns : Alternatives → List String
  | one p => [p]
  | several ps => ps

/-- A test of one header. -/
structure Predicate where
  /-- The header's name. -/
  header : String
  /-- What one of its texts has to match. -/
  alternatives : Alternatives
deriving Repr, DecidableEq

/-- Predicates by operator name. -/
structure Rule where
  /-- The operators with their predicates. -/
  operators : Assoc (List Predicate)
deriving Repr, DecidableEq

/-- How the predicates of a rule are combined. -/
inductive Operator where
  | and
  | or
deriving Repr, DecidableEq

/-- The operator of a name in any case of letters. -/
def Operator.ofString (s : String) : Except Fault Operator :=
  match Text.lower s with
  | "and" => .ok .and
  | "or" => .ok .or
  | other => .error (.unsupportedOperator other)

namespace Rule

open Header (Map Value)

/-- Whether a pattern matches a text. -/
def matchText (pattern text : String) : Except Fault Bool :=
  match Pattern.matches? pattern text with
  | .ok b => .ok b
  | .error refusal => .error (.pattern refusal)

/-- Whether some item passes a test, tried in order up to the first that does. -/
def anyM {α : Type} (test : α → Except Fault Bool) : List α → Except Fault Bool
  | [] => .ok false
  | a :: rest => do if ← test a then return true else anyM test rest

/-- Whether some pattern matches some text of a header. -/
def Predicate.holds (alternatives : Alternatives) (value : Value) : Except Fault Bool :=
  anyM (fun p => anyM (matchText p) value.texts) alternatives.patterns

/-- Whether a predicate on a header that is present holds. -/
def someHolds (headers : Map) : List Predicate → Except Fault Bool
  | [] => .ok false
  | p :: rest =>
    match headers.get? p.header with
    | none => someHolds headers rest
    | some value => do
      if ← Predicate.holds p.alternatives value then return true else someHolds headers rest

/-- Whether every predicate names a header that is present, and holds. -/
def allHold (headers : Map) : List Predicate → Except Fault Bool
  | [] => .ok true
  | p :: rest =>
    match headers.get? p.header with
    | none => .ok false
    | some value => do
      if ← Predicate.holds p.alternatives value then allHold headers rest else return false

/-- Whether the operators of a rule, looked at in order, decide for it. -/
def operatorsMatch (headers : Map) : List (String × List Predicate) → Except Fault Bool
  | [] => .ok false
  | (name, predicates) :: rest => do
    match ← Operator.ofString name with
    | .or => if ← someHolds headers predicates then return true else operatorsMatch headers rest
    | .and => if predicates.isEmpty then return false else allHold headers predicates

/-- Whether a rule matches. -/
def holds (rule : Rule) (headers : Map) : Except Fault Bool := operatorsMatch headers rule.operators

/-- Whether some rule of a list matches. -/
def anyHolds (rules : List Rule) (headers : Map) : Except Fault Bool :=
  anyM (fun rule => rule.holds headers) rules

end Rule

end Postroom
