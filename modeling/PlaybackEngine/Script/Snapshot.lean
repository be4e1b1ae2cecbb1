import PlaybackEngine.Snapshot
import PlaybackEngine.Script.Request
import PlaybackEngine.Script.Hex

/-!
# Snapshot requests

Writing a snapshot answers its bytes as hexadecimal text; reading answers its fields or the
fault as a corrupt state file.
-/

set_option autoImplicit false

namespace PlaybackEngine.Script

/-- A snapshot as an answer. -/
def snapshotJson (s : Snapshot) : Json :=
  .obj [("tracks", .arr (s.tracks.map Json.int)), ("position", Json.int s.position),
    ("playing", .bool s.playing), ("paused", .bool s.paused),
    ("paused_offset_ms", Json.int s.pausedOffsetMs)]

/-- The fault of hexadecimal text that is not bytes. -/
def badHex : RequestFault := .invalid "hex must be an even number of hex digits"

/-- Hexadecimal text as bytes, or the fault. -/
def readHex (s : String) : Read (List UInt8) :=
  match bytesOfHex s with
  | some b => .ok b
  | none => .error badHex

/-- The answer to a request to write a snapshot. -/
def snapshotEncodeAnswer (req : Json) : Read Json := do
  let tracks ← signedList req "tracks"
  let position ← withDefault i32Value req "position" (-1)
  let playing ← withDefault boolValue req "playing" false
  let paused ← withDefault boolValue req "paused" false
  let offset ← withDefault i32Value req "paused_offset_ms" 0
  let s : Snapshot := { tracks, position, playing, paused, pausedOffsetMs := offset }
  pure (.obj [("hex", .str (hexOfBytes s.encode))])

/-- The answer to a request to read a snapshot. -/
def snapshotDecodeAnswer (req : Json) : Read Json := do
  let text ← namedString req "hex"
  let bytes ← readHex text
  match Snapshot.decode bytes with
  | .ok s => pure (snapshotJson s)
  | .error e => pure (failure "CorruptState" s!"Corrupt state file: {e.message}")

end PlaybackEngine.Script
