/-!
# Call states

The phone is idle, ringing (with the ringer audible or not), or off the hook. A call
interrupts playback when the phone is off the hook or rings audibly.
-/

set_option autoImplicit false

namespace PlaybackEngine

/-- The state of the phone. -/
inductive CallState where
  | idle
  | ringing (audible : Bool)
  | offHook
  deriving DecidableEq, Repr, Inhabited

/-- Off the hook, or ringing audibly. -/
def CallState.interruptsPlayback : CallState → Bool
  | .idle => false
  | .ringing audible => audible
  | .offHook => true

/-- The diagnostic form of a call state. -/
def CallState.debugText : CallState → String
  | .idle => "Idle"
  | .ringing audible => s!"Ringing \x7b ringer_audible: {audible} \x7d"
  | .offHook => "OffHook"

end PlaybackEngine
