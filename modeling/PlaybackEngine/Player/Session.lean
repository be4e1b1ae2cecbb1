import PlaybackEngine.Queue
import PlaybackEngine.Cache.Key
import PlaybackEngine.Config.Settings
import PlaybackEngine.Player.PlayState
import PlaybackEngine.Snapshot

/-!
# The player's state

The player holds the queue, its play state, the decoder session of the song in output (if any),
the offset a recovered pause stood at, whether a call paused it, and whether anything changed
since the state file was last written.

A session is the song loaded into the decoder: the session's number, the track, the content
and file it plays, and whether the decoder has said it is prepared. Decoder callbacks carry the
session they are about, so callbacks of a replaced session can be told apart.
-/

set_option autoImplicit false

namespace PlaybackEngine

/-- The song loaded into the decoder. -/
structure Session where
  id : Nat
  track : TrackId
  key : CacheKey
  path : String
  prepared : Bool
  deriving DecidableEq, Repr, Inhabited

/-- What the decoder reports. -/
inductive DecoderEventKind where
  | prepared
  | completion
  | error (code : Int) (message : String)
  | buffering (percent : Nat)
  deriving DecidableEq, Repr, Inhabited

/-- A decoder callback and the session it is about. -/
structure DecoderEvent where
  session : Nat
  kind : DecoderEventKind
  deriving DecidableEq, Repr, Inhabited

/-- The player's own state. -/
structure Controller where
  settings : PlaybackSettings := {}
  stateFile : String := ""
  queue : PlayQueue := PlayQueue.empty
  state : PlayState := .stopped
  session : Option Session := none
  pausedOffsetMs : Option Nat := none
  resumeAfterCall : Bool := false
  dirty : Bool := false
  recovered : Option Snapshot := none
  deriving Repr, Inhabited

/-- Whether the loaded song is prepared. -/
def Controller.prepared (c : Controller) : Bool := c.session.any (·.prepared)

end PlaybackEngine
