import PlaybackEngine.Player.Actor
import PlaybackEngine.Script.Downloads
import PlaybackEngine.Script.Snapshot
import PlaybackEngine.Script.Hub

/-!
# Player scenarios

A player scenario starts a player on a described host, with a listener hub that one subscriber
per channel watches, and a state file seeded from the request. Each step is a command, a query,
a decoder callback, a change to the decoder or the host, or a step in the player's life (shut
down, handle dropped, restarted). After each step all pending work runs to idle, and the step
is answered by an observation: its result, the published play state, the queue's position and
songs (asked of the player, which retries a failed save after each), every event the
subscribers got, and the decoder's calls since the last observation.
-/

set_option autoImplicit false

namespace PlaybackEngine.Script

open Player

/-- Where the player keeps its state. -/
def playerStateFile : String := "/state/player.state"

/-- The mailboxes of the scenario's subscribers, one per channel. -/
structure Watchers where
  moves : Nat
  changes : Nat
  buffers : Nat
  downloads : Nat
  deriving Repr, Inhabited

/-- A player scenario's state: the world, whether the handle is held, what the player is
started with, and the subscribers' mailboxes. -/
structure PlayerBench where
  world : World
  held : Bool
  setup : Setup
  watchers : Watchers

/-- Runs a step on the world alone. -/
def onWorld {α : Type} (s : Step World α) : Step PlayerBench α := fun b =>
  match s b.world with
  | .ok (a, w) => .ok (a, { b with world := w })
  | .error e => .error e

/-- Runs an operation on the world. -/
def act {α : Type} (a : Act α) : Step PlayerBench α := onWorld (perform a)

/-- A request's outcome: `null`, or the fault. -/
def outcomeJson (r : Except PlaybackError Unit) : Json :=
  match r with
  | .ok () => .null
  | .error e => playbackFailure e

/-- Sends a command through the handle. -/
def sendCommand (c : Command) : Step PlayerBench Json := do
  if !(← get).held then return playbackFailure .engineStopped
  pure (outcomeJson (← act (command c)))

/-- Sends a signal through the handle. -/
def sendSignal (s : Signal) : Step PlayerBench Json := do
  if !(← get).held then return playbackFailure .engineStopped
  pure (outcomeJson (← act (signal s)))

/-- Asks a query through the handle. -/
def ask (q : Query) : Step PlayerBench (Except PlaybackError Reply) := do
  if !(← get).held then return .error .engineStopped
  act (query q)

/-- A reply as JSON. -/
def replyJson : Reply → Json
  | .tracks ids => .arr (ids.map Json.int)
  | .number n => Json.int n
  | .state s => .str s.name
  | .song id => Json.opt Json.int id
  | .downloads records => .arr (records.map downloadRecordJson)

/-- Asks a query and answers its reply as JSON through `f`, or the fault. -/
def askWith (q : Query) (f : Reply → Json) : Step PlayerBench Json := do
  match ← ask q with
  | .ok r => pure (f r)
  | .error e => pure (playbackFailure e)

/-- Whether a reply's state passes a test. -/
def stateTest (p : PlayState → Bool) : Reply → Json
  | .state s => .bool (p s)
  | other => replyJson other

/-- Sends a decoder callback for the decoder's session; whether it had one. -/
def sendCallback (kind : DecoderEventKind) : Step PlayerBench Json := do
  let w := (← get).world
  match w.decoder.session with
  | some s =>
    act (modify fun w => { w with decoderEvents := w.decoderEvents ++ [⟨s, kind⟩] })
    pure (.bool true)
  | none => pure (.bool false)

/-- The callback a `stale` step sends. -/
def staleKind (name : String) : Read DecoderEventKind :=
  match name with
  | "prepared" => .ok .prepared
  | "completion" => .ok .completion
  | "error" => .ok (.error 1 "stale")
  | "buffering" => .ok (.buffering 50)
  | other => .error (.unknown "event kind" other)

/-- The decoder calls a `decoder_fail` step switches on. -/
def failingCalls (step : Json) : Read (List DecoderCall) := do
  let calls := [DecoderCall.setSource, .prepare, .start, .pause, .stop, .reset, .seek]
  calls.filterM fun c => withDefault boolValue step c.name false

/-- Takes a late subscriber's replay on a channel, then drops the subscriber. -/
def lateReplay (ch : ListenerChannel) : Step PlayerBench Json := do
  let b ← get
  let h := b.world.hub
  let ((id, box), h) := h.subscribe ch
  let held : HeldSubscription := { channel := ch, id, box }
  let (events, h) := drainSubscription h held
  let h := closeSubscription h held
  set { b with world := { b.world with hub := h } }
  pure (.arr events)

/-- Starts the player and takes the handle; the outcome of the start. -/
def startPlayer : Step PlayerBench Json := do
  let b ← get
  let r ← act (spawn b.setup)
  modify fun b => { b with held := r.toBool }
  pure (outcomeJson r)

/-- The handle's diagnostic form and its hub's, if the handle is held. -/
def handleDebug (b : PlayerBench) : Json :=
  if !b.held then .null
  else
    let closed := !b.world.running
    .obj [("handle", .str s!"PlayerHandle \x7b closed: {closed}, .. \x7d"),
      ("listeners", .str b.world.hub.debugText)]

/-- Drops the handle; the player, left without handles, shuts down. Whether one was held. -/
def dropHandle : Step PlayerBench Json := do
  let b ← get
  if !b.held then return .bool false
  set { b with held := false }
  if b.world.running then act halt
  pure (.bool true)

/-- Shuts the player down through the handle. -/
def shutdownPlayer : Step PlayerBench Json := do
  if !(← get).held then return playbackFailure .engineStopped
  pure (outcomeJson (← act requestShutdown))

/-- A step of a player scenario, if the name is one. -/
def playerStep? (name : String) (step : Json) : Option (Step PlayerBench Json) :=
  match name with
  | "play" => some (sendCommand .play)
  | "pause" => some (sendCommand .pause)
  | "unpause" => some (sendCommand .unpause)
  | "stop" => some (sendCommand .stop)
  | "next" => some (sendCommand .next)
  | "previous" => some (sendCommand .previous)
  | "clear" => some (sendCommand .clear)
  | "seek" => some do
    sendCommand (.seek (← readStep (required unsignedValue step "ms")))
  | "jump" => some do
    sendCommand (.jump (← readStep (required i32Value step "pos")))
  | "insert" => some do
    let track ← readStep (required signedValue step "track")
    let pos ← readStep (required i32Value step "pos")
    sendCommand (.insert track pos)
  | "prepend" => some do
    sendCommand (.prepend (← readStep (required signedValue step "track")))
  | "append" => some do
    sendCommand (.append (← readStep (required signedValue step "track")))
  | "insert_next" => some do
    sendCommand (.insertNext (← readStep (required signedValue step "track")))
  | "remove" => some do
    sendCommand (.remove (← readStep (required i32Value step "pos")))
  | "move" => some do
    let src ← readStep (required i32Value step "from")
    let dst ← readStep (required i32Value step "to")
    sendCommand (.move src dst)
  | "call" => some do
    sendSignal (.call (← readStep (callStateOf step)))
  | "connectivity" => some (sendSignal .connectivityRestored)
  | "tell" => some (askWith .tell replyJson)
  | "duration" => some (askWith .duration replyJson)
  | "state" => some (askWith .state replyJson)
  | "is_playing" => some (askWith .state (stateTest (·.isPlaying)))
  | "is_paused" => some (askWith .state (stateTest (· == .paused)))
  | "is_outputting" => some (askWith .state (stateTest (·.isOutputting)))
  | "song_at" => some do
    askWith (.songAt (← readStep (required i32Value step "pos"))) replyJson
  | "position_of" => some do
    askWith (.positionOf (← readStep (required signedValue step "track"))) replyJson
  | "peek_next" => some (askWith .peekNext replyJson)
  | "downloads" => some (askWith .downloads replyJson)
  | "cache_stats" => some do
    pure (statsJson (← act Cache.stats))
  | "prepared" => some (sendCallback .prepared)
  | "completion" => some (sendCallback .completion)
  | "decoder_error" => some do
    let code ← readStep (withDefault i32Value step "code" 1)
    let message ← readStep (withDefault stringValue step "message" "decode failed")
    sendCallback (.error code message)
  | "buffering" => some do
    sendCallback (.buffering (← readStep (required u8Value step "percent")))
  | "stale" => some do
    let kind ← readStep (staleKind (← readStep (withDefault stringValue step "kind" "prepared")))
    act do
      let s ← freshSession
      modify fun w => { w with decoderEvents := w.decoderEvents ++ [⟨s, kind⟩] }
    pure .null
  | "decoder_fail" => some do
    let failing ← readStep (failingCalls step)
    act (modify fun w => { w with decoder := { w.decoder with failing } })
    pure .null
  | "decoder_position" => some do
    let ms ← readStep (required unsignedValue step "ms")
    act (modify fun w => { w with decoder := { w.decoder with positionMs := ms } })
    pure .null
  | "decoder_duration" => some do
    let ms ← readStep (optional unsignedValue step "ms")
    act (modify fun w => { w with decoder := { w.decoder with durationMs := ms } })
    pure .null
  | "state_file" => some do
    match (← get).world.volume.readFile playerStateFile with
    | .ok bytes => pure (.str (hexOfBytes bytes))
    | .error _ => pure .null
  | "late_download" => some (lateReplay .downloads)
  | "late_buffer" => some (lateReplay .buffers)
  | "tracked_transfers" => some do
    pure (.arr ((← get).world.hub.trackedTransfers.map Json.int))
  | "debug_handle" => some do
    pure (handleDebug (← get))
  | "drop_handle" => some (dropHandle)
  | "shutdown" => some (shutdownPlayer)
  | "restart" => some do
    if (← get).world.running then act halt
    startPlayer
  | other => (hostStep? other step).map onWorld

/-- One step of a player scenario. -/
def playerStep (step : Json) : Step PlayerBench Json := do
  let name ← readStep (required stringValue step "do")
  match playerStep? name step with
  | some s => s
  | none => refuse (.unknown "player step" name)

/-- Asks the queue's position or songs for an observation: `null` once the player has
stopped. -/
def observed (q : Query) : Step PlayerBench Json := do
  match ← ask q with
  | .ok r => pure (replyJson r)
  | .error _ => pure .null

/-- Takes every event a subscriber got since the last observation. -/
def drained (ch : ListenerChannel) (box : Nat) : Step PlayerBench Json := do
  let b ← get
  let (events, h) := drainSubscription b.world.hub { channel := ch, id := 0, box }
  set { b with world := { b.world with hub := h } }
  pure (.arr events)

/-- The observation after a step with this result. -/
def observe (result : Json) : Step PlayerBench Json := do
  let b ← get
  let state : Json := if b.held then .str b.world.published.name else .null
  let position ← observed .position
  let playlist ← observed .playlist
  let ws := b.watchers
  let moves ← drained .moves ws.moves
  let changes ← drained .changes ws.changes
  let buffers ← drained .buffers ws.buffers
  let downloads ← drained .downloads ws.downloads
  let b ← get
  set { b with world := { b.world with decoder := { b.world.decoder with calls := [] } } }
  pure (.obj [("result", result), ("state", state), ("position", position), ("playlist", playlist),
    ("moves", moves), ("changes", changes), ("buffers", buffers), ("downloads", downloads),
    ("decoder", .arr (b.world.decoder.calls.map Json.str))])

/-- Runs a step, lets the work it caused run to idle, and observes. -/
def observedStep (step : Step PlayerBench Json) : Step PlayerBench Json := do
  let b ← get
  let (result, b) := runStep b step
  set b
  act settle
  observe result

/-- Observes every step in order. -/
def playerSteps (b : PlayerBench) : List Json → List Json × PlayerBench
  | [] => ([], b)
  | step :: rest =>
    let (entry, b) := runStep b (observedStep (playerStep step))
    let (more, b) := playerSteps b rest
    (entry :: more, b)

/-- The state file a request seeds: raw bytes from `state_hex`, else the snapshot `state`
describes. -/
def seededState (req : Json) : Read (Option (List UInt8)) := do
  let described ← match req.given? "state" with
    | some s => do
      let tracks ← signedList s "tracks"
      let position ← withDefault i32Value s "position" (-1)
      let playing ← withDefault boolValue s "playing" false
      let paused ← withDefault boolValue s "paused" false
      let offset ← withDefault i32Value s "paused_offset_ms" 0
      let snap : Snapshot := { tracks, position, playing, paused, pausedOffsetMs := offset }
      pure (some snap.encode)
    | none => pure none
  match req.given? "state_hex" with
  | some (.str h) => some <$> readHex h
  | some _ => throw (.invalid "state_hex must be a string")
  | none => pure described

/-- The answer to a player scenario. -/
def playerAnswer (req : Json) : Read Logged := do
  let w ← hostOf req
  let leaveFree ← withDefault unsignedValue req "leave_free" 0
  let prefetch ← withDefault boolValue req "prefetch" false
  let threshold ← withDefault unsignedValue req "restart_threshold_ms" 10000
  let download ← transferSettingsOf req
  let seeded ← seededState req
  let steps ← withDefault arrayValue req "steps" []
  let w := match seeded with
    | some bytes => { w with volume := w.volume.putFile playerStateFile (.whole bytes) }
    | none => w
  let hub := Hub.create 100000
  let ((_, moves), hub) := hub.subscribe .moves
  let ((_, changes), hub) := hub.subscribe .changes
  let ((_, buffers), hub) := hub.subscribe .buffers
  let ((_, downloads), hub) := hub.subscribe .downloads
  let setup : Setup :=
    { playback := { restartThresholdMs := threshold, prefetch }, download,
      cache := { baseDir := "/cache", leaveFreeBytes := leaveFree }, stateFile := playerStateFile }
  let b : PlayerBench := { world := { w with hub }, held := false, setup,
                           watchers := { moves, changes, buffers, downloads } }
  let (start, b) := runStep b (observedStep startPlayer)
  let (entries, b) := playerSteps b steps
  let b := if b.world.running then ((halt.run b.world).2) else b.world
  pure ⟨.obj [("start", start), ("steps", .arr entries)], b.logs⟩

end PlaybackEngine.Script
