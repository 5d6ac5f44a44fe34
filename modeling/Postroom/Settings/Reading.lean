import Postroom.Document.Record
import Postroom.Settings

/-!
# Connection settings in documents

A password that is empty, and choices that are left open, are not written.
-/

namespace Postroom.Settings

open Document

/-- The fields of settings. -/
def fields : List (RecordField Settings) := [
  .of "server" readText fun v s => { s with server := v },
  .of "port" (readInteger 0 65535) fun v s => { s with port := v.toNat },
  .of "username" readText fun v s => { s with username := v },
  .of "password" readText fun v s => { s with password := v },
  .of "imaps" readBool fun v s => { s with implicitTls := v },
  .of "starttls" (readOptional readBool) fun v s => { s with startTls := v },
  .of "tlsverify" (readOptional readBool) fun v s => { s with verifyTls := v },
  .of "cacertfile" (readOptional readText) fun v s => { s with caFile := v }]

/-- Reads settings. -/
def ofDocument (d : Document) : Except Mismatch Settings := readRecord fields empty d

/-- Settings as a document. -/
def toDocument (s : Settings) : Document :=
  .table ([("server", .text s.server), ("port", .integer s.port), ("username", .text s.username)]
    ++ entryIfAny "password" .text (if s.password.isEmpty then none else some s.password)
    ++ [("imaps", .bool s.implicitTls)]
    ++ entryIfAny "starttls" .bool s.startTls ++ entryIfAny "tlsverify" .bool s.verifyTls
    ++ entryIfAny "cacertfile" .text s.caFile)

end Postroom.Settings
