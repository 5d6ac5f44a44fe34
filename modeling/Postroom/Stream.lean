/-!
# Failures of a byte stream

What can go wrong while bytes are read from or written to a peer, or a file is opened.
-/

namespace Postroom.Stream

/-- The kind of a failure. -/
inductive FailureKind where
  | brokenPipe
  | connectionReset
  | connectionAborted
  | notConnected
  | unexpectedEnd
  | timedOut
  | permissionDenied
  | connectionRefused
  | other
deriving Repr, DecidableEq

/-- A failure and its text. -/
structure Failure where
  /-- Its kind. -/
  kind : FailureKind
  /-- What the system says of it. -/
  text : String
deriving Repr, DecidableEq

/-- Whether a failure means that the connection is gone. -/
def FailureKind.isDisconnect : FailureKind → Bool
  | brokenPipe | connectionReset | connectionAborted | notConnected | unexpectedEnd | timedOut =>
    true
  | _ => false

end Postroom.Stream
