import PlaybackEngine.Queue

/-!
# Listener events

What the engine tells its listeners, on four channels: moves of the play head (jumps, start,
pause, resume, stop, seek), changes of the queue (insert, remove, move, clear), the buffered
share of the song in output, and the course of downloads (begin, progress, error, finish,
cancel).
-/

set_option autoImplicit false

namespace PlaybackEngine

/-- A move of the play head. -/
inductive MoveEvent where
  | jump (position : Int) (track : TrackId)
  | play (position : Int) (track : TrackId)
  | pause (positionMs : Int)
  | unpause
  | stop
  | seek (positionMs : Nat)
  deriving DecidableEq, Repr, Inhabited

/-- A line that says what a move did. -/
def MoveEvent.description : MoveEvent → String
  | .jump .. => "Jumped to position"
  | .play .. => "Playback started"
  | .pause _ => "Playback paused"
  | .unpause => "Playback resumed"
  | .stop => "Playback stopped"
  | .seek _ => "Seeked"

/-- A change of the queue. -/
inductive ChangeEvent where
  | insert (position : Int) (track : TrackId)
  | remove (position : Int) (track : TrackId) (currentPosition : Int)
  | move (src dst : Int)
  | clear
  deriving DecidableEq, Repr, Inhabited

/-- How much of a song is buffered, in percent. -/
structure BufferEvent where
  track : TrackId
  percent : Nat
  deriving DecidableEq, Repr, Inhabited

/-- A step in the course of a download. -/
inductive DownloadEvent where
  | begin (track : TrackId) (totalBytes : Nat)
  | progress (track : TrackId) (downloadedBytes totalBytes : Nat)
  | error (track : TrackId) (message : String) (retryable : Bool)
  | finish (track : TrackId)
  | cancel (track : TrackId)
  deriving DecidableEq, Repr, Inhabited

/-- The track a download event is about. -/
def DownloadEvent.track : DownloadEvent → TrackId
  | .begin t _ | .progress t _ _ | .error t _ _ | .finish t | .cancel t => t

/-- The four channels of listeners. -/
inductive ListenerChannel where
  | moves
  | changes
  | buffers
  | downloads
  deriving DecidableEq, Repr, Inhabited

end PlaybackEngine
