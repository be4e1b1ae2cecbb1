import PlaybackEngine.Error

/-!
# The decoder

The host's audio decoder. It plays one source at a time, for a session the player names when it
sets the source. It keeps the position it was last set or sought to, a duration if known, a log
of the calls made to it, and a switch per call that makes that call fail.
-/

set_option autoImplicit false

namespace PlaybackEngine

/-- The calls a decoder takes. -/
inductive DecoderCall where
  | setSource
  | prepare
  | start
  | pause
  | stop
  | reset
  | seek
  deriving DecidableEq, Repr, Inhabited

/-- The name of a call, as its failure and switches name it. -/
def DecoderCall.name : DecoderCall → String
  | .setSource => "set_source"
  | .prepare => "prepare"
  | .start => "start"
  | .pause => "pause"
  | .stop => "stop"
  | .reset => "reset"
  | .seek => "seek"

/-- What the decoder plays: a finished file, or a file still being written. -/
inductive DecoderSource where
  | file (path : String)
  | growing (path : String) (expectedLength : Nat)
  deriving DecidableEq, Repr, Inhabited

/-- The file of a source. -/
def DecoderSource.path : DecoderSource → String
  | .file p | .growing p _ => p

/-- The decoder's state. -/
structure Decoder where
  session : Option Nat := none
  positionMs : Nat := 0
  durationMs : Option Nat := some 180000
  calls : List String := []
  failing : List DecoderCall := []
  deriving Repr, Inhabited

namespace Decoder

/-- Logs a call and fails it if its switch is on. -/
def call (d : Decoder) (c : DecoderCall) (entry : String) : Except HostError Unit × Decoder :=
  let d := { d with calls := d.calls ++ [entry] }
  if d.failing.contains c then (.error (.operationFailed s!"fake {c.name} failure"), d) else (.ok (), d)

/-- Sets the source of a session. -/
def setSource (d : Decoder) (session : Nat) (src : DecoderSource) : Except HostError Unit × Decoder :=
  let entry := match src with
    | .file p => s!"set_source:file:{p}"
    | .growing p n => s!"set_source:growing:{p}:{n}"
  match d.call .setSource entry with
  | (.ok (), d) => (.ok (), { d with session := some session, positionMs := 0 })
  | other => other

/-- Seeks to a position. -/
def seekTo (d : Decoder) (ms : Nat) : Except HostError Unit × Decoder :=
  match d.call .seek s!"seek:{ms}" with
  | (.ok (), d) => (.ok (), { d with positionMs := ms })
  | other => other

/-- Resets the decoder, dropping its session. -/
def reset (d : Decoder) : Except HostError Unit × Decoder :=
  match d.call .reset "reset" with
  | (.ok (), d) => (.ok (), { d with session := none })
  | other => other

end Decoder

end PlaybackEngine
