import Postroom.Settings
import Postroom.Talk

/-!
# Sessions

A session belongs to the settings of an account and holds at most one handle of a connection.  What
it is connected to is a `Backend`: something that opens connections and answers requests over their
handles, changing a world as it does so.  Work on mailboxes goes to the handle that the session
holds; without one every request is answered that there is no connection.
-/

namespace Postroom

/-- A kind of server as it is seen from a session. -/
structure Backend (World Handle : Type) where
  /-- Opens a connection and logs in. -/
  connect : Settings → World → Except Fault Handle × World
  /-- Answers a request over a connection. -/
  answer : Answerer (Handle × World)

/-- A backend whose world is a part of a larger one. -/
def Backend.within {World Part Handle : Type} (part : World → Part) (put : Part → World → World)
    (b : Backend Part Handle) : Backend World Handle where
  connect settings w :=
    let (handle, p) := b.connect settings (part w)
    (handle, put p w)
  answer request hw :=
    let (reply, h, p) := b.answer request (hw.1, part hw.2)
    (reply, h, put p hw.2)

/-- A session of an account. -/
structure Session (World Handle : Type) where
  /-- What it is connected to. -/
  backend : Backend World Handle
  /-- How the server is reached. -/
  settings : Settings
  /-- The handle of the connection. -/
  handle : Option Handle

namespace Session

variable {World Handle α : Type}

/-- A session that is not connected. -/
def new (backend : Backend World Handle) (settings : Settings) : Session World Handle :=
  ⟨backend, settings, none⟩

/-- Whether there is a connection. -/
def isConnected (s : Session World Handle) : Bool := s.handle.isSome

/-- Connects.  A connection that was there is left alone, and stays if the new one fails. -/
def connect (s : Session World Handle) (w : World) :
    Except Fault Unit × Session World Handle × World :=
  match s.settings.check with
  | .error fault => (.error fault, s, w)
  | .ok _ =>
    match s.backend.connect s.settings w with
    | (.ok handle, w) => (.ok (), { s with handle := some handle }, w)
    | (.error fault, w) => (.error fault, s, w)

/-- Logs out and lets the connection go, even if logging out fails. -/
def disconnect (s : Session World Handle) (w : World) :
    Except Fault Unit × Session World Handle × World :=
  match s.handle with
  | none => (.ok (), s, w)
  | some handle =>
    let (reply, _, w) := s.backend.answer .logout (handle, w)
    (reply, { s with handle := none }, w)

/-- Disconnects, whatever comes of it, and connects. -/
def reconnect (s : Session World Handle) (w : World) :
    Except Fault Unit × Session World Handle × World :=
  let (_, s, w) := s.disconnect w
  s.connect w

/-- Answers that there is no connection. -/
def noConnection : Answerer World := fun _ w => (.error .notConnected, w)

/-- Does work on mailboxes. -/
def perform (s : Session World Handle) (talk : Talk α) (w : World) :
    Except Fault α × Session World Handle × World :=
  match s.handle with
  | none =>
    let (result, w) := talk.run.run noConnection w
    (result, s, w)
  | some handle =>
    let (result, handle, w) := talk.run.run s.backend.answer (handle, w)
    (result, { s with handle := some handle }, w)

/-- A session in one line. -/
def shown (s : Session World Handle) : String :=
  "Session \x7b settings: " ++ s.settings.shown ++ ", connected: " ++ Text.shownBool s.isConnected
    ++ " \x7d"

end Session

end Postroom
