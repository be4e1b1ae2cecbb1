import PlaybackEngine.Table
import PlaybackEngine.Cache.Key
import PlaybackEngine.Config.Settings
import PlaybackEngine.Download.State
import PlaybackEngine.Queue

/-!
# Download records

A download request names the track, where to fetch it, the file to write, the expected length,
the offset to resume from, and the cache entry the file will become. The manager keeps one
record per track: the transfer that owns it, the request, and the transfer's state and counts.

A transfer runs as a task. A task waits to run; once its body stalls it waits for stalls to end,
holding the bytes written so far.
-/

set_option autoImplicit false

namespace PlaybackEngine

/-- What to download. -/
structure DownloadRequest where
  track : TrackId
  url : String
  destination : String
  expectedLength : Nat
  resumeOffset : Nat
  key : CacheKey
  deriving DecidableEq, Repr, Inhabited

/-- Where a download stands. -/
structure Download where
  track : TrackId
  url : String
  destination : String
  expectedLength : Nat
  bytesWritten : Nat
  resumeOffset : Nat
  state : DownloadState
  lastError : Option String
  deriving DecidableEq, Repr, Inhabited

/-- Whole percent of the expected length written. -/
def Download.progressPercent (d : Download) : Nat := PlaybackEngine.progressPercent d.expectedLength d.bytesWritten

/-- A track's record: the transfer that owns it, its state, and the request it came from. -/
structure Tracked where
  transfer : Nat
  record : Download
  request : DownloadRequest
  deriving DecidableEq, Repr, Inhabited

/-- Where a transfer task is. -/
inductive TaskPhase where
  /-- Spawned, not yet run. -/
  | waiting
  /-- Reading a stalled body, `written` bytes in the file. -/
  | stalled (written : Nat)
  /-- Its stalled body has ended, `written` bytes in the file. -/
  | unstalled (written : Nat)
  deriving DecidableEq, Repr, Inhabited

/-- A transfer task. -/
structure TransferTask where
  transfer : Nat
  request : DownloadRequest
  phase : TaskPhase
  deriving DecidableEq, Repr, Inhabited

/-- Settled records kept at most. -/
def retainedRecords : Nat := 16

/-- The download manager: its settings, the records by track, the transfer holding the single
active slot (track and transfer), the next transfer number, and the live tasks. -/
structure Manager where
  settings : DownloadSettings := {}
  records : Table Tracked := []
  active : Option (TrackId × Nat) := none
  nextTransfer : Nat := 1
  tasks : List TransferTask := []
  deriving Repr, Inhabited

/-- The text of a transfer number. -/
def transferName (n : Nat) : String := s!"transfer-{n}"

end PlaybackEngine
