/-!
# Play states

The player is stopped, preparing a song, playing, or paused. It *plays* while preparing or
playing, and it *outputs* in every state but stopped.
-/

set_option autoImplicit false

namespace PlaybackEngine

/-- Where the player stands. -/
inductive PlayState where
  | stopped
  | preparing
  | playing
  | paused
  deriving DecidableEq, Repr, Inhabited

namespace PlayState

/-- Preparing or playing. -/
def isPlaying : PlayState → Bool
  | .preparing | .playing => true
  | _ => false

/-- Not stopped. -/
def isOutputting : PlayState → Bool
  | .stopped => false
  | _ => true

/-- The name of a state, as answers and logs write it. -/
def name : PlayState → String
  | .stopped => "Stopped"
  | .preparing => "Preparing"
  | .playing => "Playing"
  | .paused => "Paused"

/-- The state of a name. -/
def ofName? (s : String) : Option PlayState :=
  [PlayState.stopped, .preparing, .playing, .paused].find? (·.name == s)

end PlayState

end PlaybackEngine
