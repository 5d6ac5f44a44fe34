import Postroom.Fault
import Postroom.Text.Quoted

/-!
# Connection settings

How a server is reached and who logs in.  A connection is encrypted from its first byte, or upgraded
after the greeting unless that is switched off; certificates are verified unless that is switched
off.
-/

namespace Postroom

/-- How a connection is protected. -/
inductive Protection where
  /-- It is encrypted from the first byte. -/
  | implicit
  /-- It is encrypted after the greeting. -/
  | upgraded
  /-- It is not encrypted. -/
  | none
deriving Repr, DecidableEq

/-- The settings of a connection. -/
structure Settings where
  /-- The name of the server. -/
  server : String
  /-- The port. -/
  port : Nat
  /-- Who logs in. -/
  username : String
  /-- The password. -/
  password : String
  /-- Whether the connection is encrypted from its first byte. -/
  implicitTls : Bool
  /-- Whether the connection is upgraded, if it is said. -/
  startTls : Option Bool
  /-- Whether certificates are verified, if it is said. -/
  verifyTls : Option Bool
  /-- A file of certificates that are trusted in place of the usual ones. -/
  caFile : Option String
deriving Repr, DecidableEq

namespace Settings

/-- Nothing is set. -/
def empty : Settings := ⟨"", 0, "", "", false, none, none, none⟩

/-- Finds the first setting without which no connection can be made. -/
def check (s : Settings) : Except Fault Unit :=
  if s.server.isEmpty then .error (.config "server not set in account config")
  else if s.port = 0 then .error (.config "port is not set in account config")
  else if s.username.isEmpty then .error (.config "username not set in account config")
  else .ok ()

/-- How the connection is protected. -/
def protection (s : Settings) : Protection :=
  if s.implicitTls then .implicit else if s.startTls.getD true then .upgraded else .none

/-- Whether certificates are verified. -/
def verifies (s : Settings) : Bool := s.verifyTls.getD true

/-- A path in quotes, in which a single quote is escaped as well. -/
def shownPath (path : String) : String :=
  String.ofList ('"' :: path.toList.flatMap (fun c =>
    if c = '\'' then ['\\', '\''] else Text.Quoted.escape '"' c) ++ ['"'])

/-- The settings in one line, without the password. -/
def shown (s : Settings) : String :=
  "ConnectionConfig \x7b server: " ++ Text.quoted s.server ++ ", port: " ++ s.port.repr
    ++ ", username: " ++ Text.quoted s.username ++ ", password: \"<redacted>\", imaps: "
    ++ Text.shownBool s.implicitTls
    ++ ", starttls: " ++ Text.shownOption Text.shownBool s.startTls
    ++ ", tls_verify: " ++ Text.shownOption Text.shownBool s.verifyTls
    ++ ", ca_file: " ++ Text.shownOption shownPath s.caFile ++ " \x7d"

end Settings

end Postroom
