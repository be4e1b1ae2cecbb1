import PlaybackEngine.Queue
import PlaybackEngine.Script.Request

/-!
# Queue requests

A queue request builds a queue from `tracks` and `position` and applies its steps in order.
Each step answers its result with the queue after it; a step that cannot be read answers its
fault and leaves the queue as it was.
-/

set_option autoImplicit false

namespace PlaybackEngine.Script

/-- The queue as an answer's members. -/
def queueMembers (q : PlayQueue) : List (String × Json) :=
  [("tracks", .arr (q.tracks.map Json.int)), ("position", Json.int q.position)]

/-- One queue step: its result and the queue after it. -/
def queueStep (q : PlayQueue) (step : Json) : Read (Json × PlayQueue) := do
  let name ← required stringValue step "do"
  match name with
  | "insert" =>
    let t ← required signedValue step "track"
    let p ← required i32Value step "pos"
    match q.insert t p with
    | some q' => pure (.bool true, q')
    | none => pure (.bool false, q)
  | "remove" =>
    let p ← required i32Value step "pos"
    match q.remove p with
    | some (t, q') => pure (Json.int t, q')
    | none => pure (.null, q)
  | "move" =>
    let src ← required i32Value step "from"
    let dst ← required i32Value step "to"
    match q.move src dst with
    | some q' => pure (.bool true, q')
    | none => pure (.bool false, q)
  | "set_position" =>
    let p ← required i32Value step "pos"
    match q.setPosition p with
    | some q' => pure (.bool true, q')
    | none => pure (.bool false, q)
  | "clear" => pure (.null, q.clear)
  | "song_at" =>
    let p ← required i32Value step "pos"
    pure (Json.opt Json.int (q.songAt p), q)
  | "position_of" =>
    let t ← required signedValue step "track"
    pure (Json.int (q.positionOf t), q)
  | "peek_next" => pure (Json.int q.peekNext, q)
  | "current" => pure (Json.opt Json.int q.current, q)
  | "len" => pure (Json.nat q.length, q)
  | "is_empty" => pure (.bool q.tracks.isEmpty, q)
  | other => throw (.unknown "queue step" other)

/-- Runs the steps in order, answering each. -/
def queueSteps (q : PlayQueue) : List Json → List Json
  | [] => []
  | step :: rest =>
    match queueStep q step with
    | .ok (result, q') => .obj (("result", result) :: queueMembers q') :: queueSteps q' rest
    | .error f => .obj (("result", f.answer) :: queueMembers q) :: queueSteps q rest

/-- The answer to a queue request. -/
def queueAnswer (req : Json) : Read Json := do
  let tracks ← signedList req "tracks"
  let position ← withDefault i32Value req "position" (-1)
  let steps ← withDefault arrayValue req "steps" []
  let q := PlayQueue.ofParts tracks position
  pure (.obj [("initial", .obj (queueMembers q)), ("steps", .arr (queueSteps q steps))])

end PlaybackEngine.Script
