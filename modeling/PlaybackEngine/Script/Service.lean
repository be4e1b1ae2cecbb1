import PlaybackEngine.Service.Lifecycle
import PlaybackEngine.Script.Player

/-!
# Service scenarios

A service scenario builds an engine configuration from the request, starts the player service
on a described host, subscribes one listener per channel to the service's hub, and runs steps:
the player's own steps through the service's player handle, and steps on the service (clients
connecting and going away, virtual time passing, host monitors reporting, the keep-alive
failing, shutdowns). Each step is observed as in a player scenario, together with the idle
monitor's request, the client count, the keep-alive and whether the service was shut down.
-/

set_option autoImplicit false

namespace PlaybackEngine.Script

-- Powers by core's `Nat.pow` and `Int.pow`, also where an algebra library is loaded, so that
-- each definition means the same wherever it is built.
attribute [local instance (high)] instPowNat

open Service

/-- A service scenario's state: the player's, the service's, and which client sessions are
still held. -/
structure ServiceBench where
  player : PlayerBench
  service : Service.ServiceState
  sessions : List Bool

/-- Runs a player step. -/
def viaPlayer {α : Type} (s : Step PlayerBench α) : Step ServiceBench α := fun b =>
  match s b.player with
  | .ok (a, p) => .ok (a, { b with player := p })
  | .error e => .error e

/-- Runs an operation on the service and its world. -/
def viaService {α : Type} (a : ServiceAct α) : Step ServiceBench α := fun b =>
  let (r, sw) := a.run ⟨b.player.world, b.service⟩
  .ok (r, { b with player := { b.player with world := sw.world }, service := sw.service })

/-- A service fault as an answer. -/
def serviceFailure (e : ServiceError) : Json := failure e.kindName e.message

/-- A service outcome: `null`, or the fault. -/
def serviceOutcome (r : Except ServiceError Unit) : Json :=
  match r with
  | .ok () => .null
  | .error e => serviceFailure e

/-- A network status by name. -/
def networkStatusOf (name : String) : Read NetworkStatus :=
  match name with
  | "connected" => .ok .connected
  | "disconnected" => .ok .disconnected
  | "indeterminate" => .ok .indeterminate
  | other => .error (.unknown "network status" other)

/-- A network link kind by name. -/
def networkTypeOf (name : String) : Read NetworkType :=
  match name with
  | "cellular" => .ok .cellular
  | "wifi" => .ok .wifi
  | "ethernet" => .ok .ethernet
  | "other" => .ok .other
  | other => .error (.unknown "network type" other)

/-- The network report a `network_signal` step describes. -/
def networkInfoOf (step : Json) : Read NetworkInfo := do
  let status ← networkStatusOf (← required stringValue step "status")
  let networkType ← match ← optionalNamedString step "type" with
    | some t => some <$> networkTypeOf t
    | none => pure none
  let metered ← withDefault boolValue step "metered" false
  pure { status, networkType, metered }

/-- The keep-alive as an answer. -/
def keepAliveJson (k : KeepAlive) : Json :=
  .obj [("held", .bool k.held), ("acquired", Json.nat k.acquired), ("released", Json.nat k.released)]

/-- Drops a held client session. -/
def disconnectClient (i : Nat) : Step ServiceBench Json := do
  let b ← get
  match b.sessions[i]? with
  | some true =>
    set { b with sessions := b.sessions.set i false }
    viaService dropClient
    pure .null
  | _ => throw (.other "NoSuchClient" s!"no client {i}")

/-- A step on the service, if the name is one. -/
def serviceStep? (name : String) (step : Json) : Option (Step ServiceBench Json) :=
  match name with
  | "connect" => some do
    let b ← get
    set { b with sessions := b.sessions ++ [true] }
    viaService connectClient
    pure (Json.nat b.sessions.length)
  | "disconnect" => some do
    disconnectClient (← readStep (required unsignedValue step "client"))
  | "client_count" => some do pure (Json.nat (← get).service.clients)
  | "debug" => some do pure (.str (← get).service.debugText)
  | "advance" => some do
    let ms ← readStep (required unsignedValue step "ms")
    viaService (advance ms)
    pure .null
  | "shutdown" => some do pure (serviceOutcome (← viaService shutdown))
  | "call_signal" => some do
    let s ← readStep (callStateOf step)
    pure (.bool (← viaService (sendCall s)))
  | "network_signal" => some do
    let info ← readStep (networkInfoOf step)
    pure (.bool (← viaService (sendNetwork info)))
  | "call_close" => some do pure (.bool (← viaService closeCalls))
  | "network_close" => some do pure (.bool (← viaService closeNetwork))
  | "keep_alive_fail" => some do
    let failAcquire ← readStep (withDefault boolValue step "acquire" false)
    let failRelease ← readStep (withDefault boolValue step "release" false)
    viaService (modifyService fun s => { s with keepAlive := { s.keepAlive with failAcquire, failRelease } })
    pure .null
  | "player_shutdown" => some (viaPlayer shutdownPlayer)
  | other => (playerStep? other step).map viaPlayer

/-- One step of a service scenario. The player's steps that would replace the handle are not
steps of a service. -/
def serviceStep (step : Json) : Step ServiceBench Json := do
  let name ← readStep (required stringValue step "do")
  if name = "restart" || name = "drop_handle" then refuse (.unknown "service step" name)
  match serviceStep? name step with
  | some s => s
  | none => refuse (.unknown "player step" name)

/-- The observation after a step with this result. -/
def observeService (result : Json) : Step ServiceBench Json := do
  let seen ← viaPlayer (observe result)
  let s := (← get).service
  let extra := [("idle_fired", .bool s.idle.fired), ("clients", Json.nat s.clients),
    ("keep_alive", keepAliveJson s.keepAlive), ("shut_down", .bool s.shutDown)]
  match seen with
  | .obj fields => pure (.obj (fields ++ extra))
  | other => pure other

/-- Runs a step, lets the work it caused run to idle, and observes. -/
def observedServiceStep (step : Step ServiceBench Json) : Step ServiceBench Json := do
  let b ← get
  let (result, b) := runStep b step
  set b
  viaService settle
  observeService result

/-- Observes every step in order. -/
def serviceSteps (b : ServiceBench) : List Json → List Json × ServiceBench
  | [] => ([], b)
  | step :: rest =>
    let (entry, b) := runStep b (observedServiceStep (serviceStep step))
    let (more, b) := serviceSteps b rest
    (entry :: more, b)

/-- The directories a request adds before the start. -/
def dirsOf (req : Json) : Read (List String) :=
  match req.given? "dirs" with
  | none => .ok []
  | some (.arr items) =>
    items.mapM fun
      | .str d => .ok d
      | _ => .error (.invalid "field dirs must be an array of strings")
  | some _ => .error (.invalid "field dirs must be an array of strings")

/-- The call monitor a request configures. -/
def callWatchOf (req : Json) : Read (Option CallWatch) := do
  match req.given? "call_monitor" with
  | some c => pure (some { failSubscribe := ← withDefault boolValue c "fail_subscribe" false })
  | none => pure none

/-- The network monitor a request configures; an `error` start makes the first probe fail. -/
def networkWatchOf (req : Json) : Read (Option NetworkWatch) := do
  match req.given? "network_monitor" with
  | some n =>
    let initial ← match (← withDefault stringValue n "initial" "connected") with
      | "error" => pure none
      | other => some <$> networkStatusOf other
    let failSubscribe ← withDefault boolValue n "fail_subscribe" false
    pure (some { initial, failSubscribe })
  | none => pure none

/-- The answer to a service scenario. -/
def serviceAnswer (req : Json) : Read Logged := do
  let w ← hostOf req
  let dirs ← dirsOf req
  let seeded ← seededState req
  let stateFile ← optionalNamedString req "state_file"
  let cacheDir ← optionalNamedString req "cache_dir"
  let quota ← optional unsignedValue req "cache_quota_bytes"
  let leaveFree ← withDefault unsignedValue req "leave_free" 0
  let tuning ← tuningOf req { prefetch := false, subscriberCapacity := 100000, chunkSize := 1024 }
  let tuning := { tuning with progressIntervalMs := 3600000 }
  let calls ← callWatchOf req
  let network ← networkWatchOf req
  let keepAlive ← match req.given? "keep_alive" with
    | some k => do
      let failAcquire ← withDefault boolValue k "fail_acquire" false
      let failRelease ← withDefault boolValue k "fail_release" false
      pure ({ failAcquire, failRelease } : KeepAlive)
    | none => pure {}
  let steps ← withDefault arrayValue req "steps" []
  let draft : ConfigDraft :=
    { stateFile := stateFile.getD playerStateFile, cacheDir := cacheDir.getD "/cache",
      cacheQuotaBytes := quota.getD (2 ^ (30 : Nat)), leaveFreeBytes := leaveFree, catalog := true,
      decoder := true, transport := true, fileSystem := true, keepAlive := true,
      networkMonitor := network.isSome, callStateMonitor := calls.isSome, tuning }
  match draft.build with
  | .error e => pure (.quiet (setupFailure e))
  | .ok config =>
    let volume := dirs.foldl (fun v d => v.createDirAll d) w.volume
    let volume := match seeded with
      | some bytes => volume.putFile config.stateFile (.whole bytes)
      | none => volume
    let sw : ServiceWorld := { world := { w with volume }, service := { keepAlive } }
    let (started, sw) := (init { config, calls, network }).run sw
    match started with
    | .error e =>
      let answer := .obj [("init_error", serviceFailure e), ("keep_alive", keepAliveJson sw.service.keepAlive),
        ("files", filesJson sw.world)]
      pure ⟨answer, sw.world.logs⟩
    | .ok () =>
      let hub := sw.world.hub
      if hub.capacity > Hub.maxMailbox then return .quiet (failure "Panic" Hub.oversizedMailboxMessage)
      let ((_, moves), hub) := hub.subscribe .moves
      let ((_, changes), hub) := hub.subscribe .changes
      let ((_, buffers), hub) := hub.subscribe .buffers
      let ((_, downloads), hub) := hub.subscribe .downloads
      let setup : Player.Setup :=
        { playback := config.tuning.playbackSettings, download := config.tuning.downloadSettings,
          cache := { baseDir := config.cacheDir, leaveFreeBytes := config.leaveFreeBytes },
          stateFile := config.stateFile }
      let player : PlayerBench := { world := { sw.world with hub }, held := true, setup,
                                    watchers := { moves, changes, buffers, downloads } }
      let b : ServiceBench := { player, service := sw.service, sessions := [] }
      let (start, b) := runStep b (observedServiceStep (pure .null))
      let (entries, b) := serviceSteps b steps
      let (_, sw) := shutdown.run ⟨b.player.world, b.service⟩
      pure ⟨.obj [("start", start), ("steps", .arr entries)], sw.world.logs⟩

end PlaybackEngine.Script
