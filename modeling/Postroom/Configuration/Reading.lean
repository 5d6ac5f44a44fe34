import Postroom.Configuration
import Postroom.Filter.Reading
import Postroom.Settings.Reading
import Postroom.Toml.Reader
import Postroom.Toml.Writer

/-!
# Configurations in documents
-/

namespace Postroom

open Document

namespace Account

/-- The fields of an account. -/
def fields : List (RecordField Account) := [
  .of "enable" readBool fun v a => { a with enabled := v },
  .of "connection" Settings.ofDocument fun v a => { a with connection := v },
  .of "input" (readOptional readText) fun v a => { a with input := v },
  .of "fallback" (readOptional readText) fun v a => { a with fallback := v }]

/-- Reads an account. -/
def ofDocument (d : Document) : Except Mismatch Account := readRecord fields empty d

/-- An account as a document. -/
def toDocument (a : Account) : Document :=
  .table ([("enable", .bool a.enabled), ("connection", a.connection.toDocument)]
    ++ entryIfAny "input" .text a.input ++ entryIfAny "fallback" .text a.fallback)

end Account

namespace Configuration

/-- The fields of a configuration. -/
def fields : List (RecordField Configuration) := [
  .of "accounts" (readTable Account.ofDocument) fun v c => { c with accounts := Assoc.ofList v },
  .of "filters" (readTable Filter.setOfDocument) fun v c => { c with filters := Assoc.ofList v }]

/-- Reads a configuration. -/
def ofDocument (d : Document) : Except Mismatch Configuration := readRecord fields empty d

/-- A configuration as a document. -/
def toDocument (c : Configuration) : Document :=
  .table [("accounts", .table (c.accounts.map fun e => (e.1, e.2.toDocument))),
    ("filters", .table (c.filters.map fun e => (e.1, Filter.setToDocument e.2)))]

/-- Reads a configuration from TOML. -/
def ofText (text : String) : Except Mismatch Configuration := do ofDocument (← Toml.read text)

/-- What is read from a configuration that was written. -/
def readBack (c : Configuration) : Option Configuration :=
  (Toml.write c.toDocument).bind fun text => (ofText text).toOption

end Configuration

end Postroom
