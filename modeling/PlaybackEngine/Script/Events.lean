import PlaybackEngine.Listeners.Event
import PlaybackEngine.Script.Request

/-!
# Events as JSON

Events are written as objects whose `event` member names the kind, with the kind's fields
beside it; a buffer event is `{track_id, percent}`. Reading an event also accepts an array of
the kind followed by exactly the kind's fields in order, and a kind given by its index; each
field must be in the range of its type, and anything else is a malformed event.
-/

set_option autoImplicit false

namespace PlaybackEngine.Script

/-- A move as JSON. -/
def moveJson : MoveEvent → Json
  | .jump p t => .obj [("event", .str "Jump"), ("position", Json.int p), ("track_id", Json.int t)]
  | .play p t => .obj [("event", .str "Play"), ("position", Json.int p), ("track_id", Json.int t)]
  | .pause ms => .obj [("event", .str "Pause"), ("position_ms", Json.int ms)]
  | .unpause => .obj [("event", .str "Unpause")]
  | .stop => .obj [("event", .str "Stop")]
  | .seek ms => .obj [("event", .str "Seek"), ("position_ms", Json.nat ms)]

/-- A queue change as JSON. -/
def changeJson : ChangeEvent → Json
  | .insert p t => .obj [("event", .str "Insert"), ("position", Json.int p), ("track_id", Json.int t)]
  | .remove p t c => .obj [("event", .str "Remove"), ("position", Json.int p),
      ("track_id", Json.int t), ("current_position", Json.int c)]
  | .move f t => .obj [("event", .str "Move"), ("from", Json.int f), ("to", Json.int t)]
  | .clear => .obj [("event", .str "Clear")]

/-- A buffered share as JSON. -/
def bufferJson (e : BufferEvent) : Json :=
  .obj [("track_id", Json.int e.track), ("percent", Json.nat e.percent)]

/-- A download event as JSON. -/
def downloadJson : DownloadEvent → Json
  | .begin t total => .obj [("event", .str "Begin"), ("track_id", Json.int t),
      ("total_bytes", Json.nat total)]
  | .progress t d total => .obj [("event", .str "Progress"), ("track_id", Json.int t),
      ("downloaded_bytes", Json.nat d), ("total_bytes", Json.nat total)]
  | .error t m r => .obj [("event", .str "Error"), ("track_id", Json.int t),
      ("message", .str m), ("retryable", .bool r)]
  | .finish t => .obj [("event", .str "Finish"), ("track_id", Json.int t)]
  | .cancel t => .obj [("event", .str "Cancel"), ("track_id", Json.int t)]

/-- The fault of an event that cannot be read. -/
def malformedEvent : RequestFault := .invalid "malformed event"

/-- Reads with `r`, turning any fault into a malformed event. -/
def asEvent {α : Type} (r : Read α) : Read α :=
  match r with
  | .ok v => .ok v
  | .error _ => .error malformedEvent

/-- Where the fields of an event come from: the members of an object, by name, or the values
that follow the kind in an array, in order. -/
inductive EventBody where
  | named (j : Json)
  | positional (values : List Json)

/-- The kind of an event, by name or by its index among `kinds`, and where its fields are. An
object names its kind in its `event` member; an array gives it as its first value. -/
def eventKind (kinds : List String) (j : Json) : Read (String × EventBody) := do
  let kindOf : Json → Read String := fun v =>
    match v with
    | .str name => pure name
    | v => match asUnsigned? v with
      | some i => match kinds[i]? with
        | some name => pure name
        | none => throw malformedEvent
      | none => throw malformedEvent
  match j with
  | .obj _ =>
    match j.field? "event" with
    | some v => pure (← kindOf v, .named j)
    | none => throw malformedEvent
  | .arr (v :: rest) => pure (← kindOf v, .positional rest)
  | _ => throw malformedEvent

/-- The values of an event's fields, in the order of `names`: an object must have each of them
(others are ignored), an array exactly as many values as there are names. -/
def eventValues (body : EventBody) (names : List String) : Read (List Json) :=
  match body with
  | .named j => names.mapM fun k =>
    match j.field? k with
    | some v => pure v
    | none => throw malformedEvent
  | .positional vs => if vs.length = names.length then pure vs else throw malformedEvent

/-- The single field of an event, read by `f`. -/
def oneField {α : Type} (body : EventBody) (k : String) (f : String → Json → Read α) : Read α := do
  match ← eventValues body [k] with
  | [a] => asEvent (f k a)
  | _ => throw malformedEvent

/-- The two fields of an event, read by `f` and `g`. -/
def twoFields {α β : Type} (body : EventBody) (k l : String) (f : String → Json → Read α)
    (g : String → Json → Read β) : Read (α × β) := do
  match ← eventValues body [k, l] with
  | [a, b] => pure (← asEvent (f k a), ← asEvent (g l b))
  | _ => throw malformedEvent

/-- The three fields of an event, read by `f`, `g` and `h`. -/
def threeFields {α β γ : Type} (body : EventBody) (k l m : String) (f : String → Json → Read α)
    (g : String → Json → Read β) (h : String → Json → Read γ) : Read (α × β × γ) := do
  match ← eventValues body [k, l, m] with
  | [a, b, c] => pure (← asEvent (f k a), ← asEvent (g l b), ← asEvent (h m c))
  | _ => throw malformedEvent

/-- An event kind without fields: an array must hold nothing after the kind. -/
def noFields (body : EventBody) : Read Unit :=
  match body with
  | .named _ => pure ()
  | .positional [] => pure ()
  | .positional _ => throw malformedEvent

/-- A move from JSON. -/
def moveOf (j : Json) : Read MoveEvent := do
  let (kind, body) ← eventKind ["Jump", "Play", "Pause", "Unpause", "Stop", "Seek"] j
  match kind with
  | "Jump" =>
    let (p, t) ← twoFields body "position" "track_id" i32Value signedValue
    pure (.jump p t)
  | "Play" =>
    let (p, t) ← twoFields body "position" "track_id" i32Value signedValue
    pure (.play p t)
  | "Pause" => pure (.pause (← oneField body "position_ms" signedValue))
  | "Unpause" => do noFields body; pure .unpause
  | "Stop" => do noFields body; pure .stop
  | "Seek" => pure (.seek (← oneField body "position_ms" unsignedValue))
  | _ => throw malformedEvent

/-- A queue change from JSON. -/
def changeOf (j : Json) : Read ChangeEvent := do
  let (kind, body) ← eventKind ["Insert", "Remove", "Move", "Clear"] j
  match kind with
  | "Insert" =>
    let (p, t) ← twoFields body "position" "track_id" i32Value signedValue
    pure (.insert p t)
  | "Remove" =>
    let (p, t, c) ← threeFields body "position" "track_id" "current_position" i32Value signedValue
      i32Value
    pure (.remove p t c)
  | "Move" =>
    let (f, t) ← twoFields body "from" "to" i32Value i32Value
    pure (.move f t)
  | "Clear" => do noFields body; pure .clear
  | _ => throw malformedEvent

/-- A download event from JSON. -/
def downloadOf (j : Json) : Read DownloadEvent := do
  let (kind, body) ← eventKind ["Begin", "Progress", "Error", "Finish", "Cancel"] j
  match kind with
  | "Begin" =>
    let (t, total) ← twoFields body "track_id" "total_bytes" signedValue unsignedValue
    pure (.begin t total)
  | "Progress" =>
    let (t, d, total) ← threeFields body "track_id" "downloaded_bytes" "total_bytes" signedValue
      unsignedValue unsignedValue
    pure (.progress t d total)
  | "Error" =>
    let (t, m, r) ← threeFields body "track_id" "message" "retryable" signedValue stringValue
      boolValue
    pure (.error t m r)
  | "Finish" => pure (.finish (← oneField body "track_id" signedValue))
  | "Cancel" => pure (.cancel (← oneField body "track_id" signedValue))
  | _ => throw malformedEvent

/-- A listener channel by its name. -/
def channelOf (name : String) : Read ListenerChannel :=
  match name with
  | "move" => pure .moves
  | "change" => pure .changes
  | "buffer" => pure .buffers
  | "download" => pure .downloads
  | other => throw (.unknown "channel" other)

end PlaybackEngine.Script
