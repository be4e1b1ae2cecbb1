/-!
# Transfer states

A transfer is *active* while it connects or downloads. It is *paused* after a failure that may
pass (the local volume went away, or the remote end failed), and failed *for good* after an
HTTP error or a file error. Any state that is not active is *terminal*: no worker acts on it.

A transfer's progress is the share of the expected bytes written, in whole percent rounded
down, counting at most the expected length. The product is taken in 64-bit words that wrap,
and the quotient is cut to a byte.
-/

set_option autoImplicit false

namespace PlaybackEngine

-- Powers by core's `Nat.pow` and `Int.pow`, also where an algebra library is loaded, so that
-- each definition means the same wherever it is built.
attribute [local instance (high)] instPowNat

/-- Where a transfer stands. -/
inductive DownloadState where
  | connecting
  | downloading
  | finished
  | aborted
  | httpError
  | fileError
  | pausedLocalFailure
  | pausedRemoteFailure
  deriving DecidableEq, Repr, Inhabited

namespace DownloadState

/-- Connecting or downloading. -/
def isActive : DownloadState → Bool
  | .connecting | .downloading => true
  | _ => false

/-- Stopped by a failure that may pass. -/
def isPaused : DownloadState → Bool
  | .pausedLocalFailure | .pausedRemoteFailure => true
  | _ => false

/-- Stopped by a failure that will not pass. -/
def isPermanentFailure : DownloadState → Bool
  | .httpError | .fileError => true
  | _ => false

/-- Not active. -/
def isTerminal (s : DownloadState) : Bool := !s.isActive

/-- The name of a state, as answers and logs write it. -/
def name : DownloadState → String
  | .connecting => "Connecting"
  | .downloading => "Downloading"
  | .finished => "Finished"
  | .aborted => "Aborted"
  | .httpError => "HttpError"
  | .fileError => "FileError"
  | .pausedLocalFailure => "PausedLocalFailure"
  | .pausedRemoteFailure => "PausedRemoteFailure"

/-- Every state. -/
def all : List DownloadState :=
  [.connecting, .downloading, .finished, .aborted, .httpError, .fileError,
   .pausedLocalFailure, .pausedRemoteFailure]

/-- The state of a name. -/
def ofName? (s : String) : Option DownloadState := all.find? (·.name == s)

end DownloadState

/-- Bytes of a 64-bit word. -/
def wordModulus : Nat := 2 ^ (64 : Nat)

/-- Whole percent of `expected` that `written` bytes make, at most the expected length
counted; `0` for an empty transfer. -/
def progressPercent (expected written : Nat) : Nat :=
  if expected = 0 then 0
  else ((min written expected * 100) % wordModulus / expected) % 256

end PlaybackEngine
