import Postroom.FileTree
import Postroom.Session

/-!
# Servers that cannot be reached

A backend without a network.  What is needed for a protected connection is read from the files, and
then every server turns out to be closed, so no connection is ever opened.
-/

namespace Postroom.Offline

/-- The server does not take connections. -/
def refused : Stream.Failure := ⟨.connectionRefused, "Connection refused (os error 111)"⟩

/-- Reads the file of trusted certificates if a connection needs one. -/
def readTrusted (settings : Settings) (files : FileTree) : Except Fault Unit :=
  match settings.protection, settings.caFile with
  | .none, _ | _, none => .ok ()
  | _, some path =>
    match files.read path with
    | .ok _ => .ok ()
    | .error failure => .error (.caFile path failure)

/-- The backend. -/
def backend : Backend FileTree Empty where
  connect settings files :=
    match readTrusted settings files with
    | .error fault => (.error fault, files)
    | .ok _ => (.error (.stream refused), files)
  answer _ hw := hw.1.elim

end Postroom.Offline
