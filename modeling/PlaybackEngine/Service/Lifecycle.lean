import PlaybackEngine.Player.Actor
import PlaybackEngine.Config.Engine
import PlaybackEngine.Host.KeepAlive
import PlaybackEngine.Service.Feed
import PlaybackEngine.Service.IdleMonitor

/-!
# The player service

The service runs the player for its clients. Starting it checks the configuration, takes the
host's keep-alive, makes the listener hub and starts the player (giving the keep-alive back if
the player cannot start), then starts its watchers: the idle monitor, and a watcher for each
host monitor configured (call states, network). Shutting it down ends the watchers, shuts the
player down and gives the keep-alive back; a second shutdown does nothing.

Time is virtual: it moves only when asked to, and the idle monitor's deadline fires when time
reaches it. Between moves, all pending work runs until nothing can make progress: the player's
work, the watchers forwarding what the host monitors report, and the idle monitor looking at
every play state the player publishes.
-/

set_option autoImplicit false

namespace PlaybackEngine.Service

open World

/-- Why the service failed. -/
inductive ServiceError where
  /-- The configuration was refused. -/
  | runtime (e : SetupError)
  /-- The player failed. -/
  | playback (e : PlaybackError)
  /-- A host capability failed. -/
  | bridge (e : HostError)
  deriving Repr, Inhabited

/-- The name of a fault's kind. -/
def ServiceError.kindName : ServiceError → String
  | .runtime _ => "Runtime"
  | .playback _ => "Playback"
  | .bridge _ => "Bridge"

/-- The text of a fault. -/
def ServiceError.message : ServiceError → String
  | .runtime e => s!"Runtime error: {e.message}"
  | .playback e => s!"Playback error: {e.message}"
  | .bridge e => s!"Bridge error: {e.message}"

/-- Who the service's log entries come from. -/
def serviceTarget : String := "core_service"

/-- Who the idle monitor's log entries come from. -/
def sessionTarget : String := "core_service::session"

/-- Who the watchers' log entries come from. -/
def signalsTarget : String := "core_service::signals"

/-- The service's own state: the keep-alive, the connected clients, the idle monitor and its
delay, the host monitors' watchers, whether it was shut down, and the virtual time. -/
structure ServiceState where
  keepAlive : KeepAlive := {}
  clients : Nat := 0
  idle : IdleMonitor := { active := false }
  idleDelay : Nat := 120000
  calls : Option CallWatch := none
  network : Option NetworkWatch := none
  shutDown : Bool := false
  now : Nat := 0
  deriving Repr, Inhabited

/-- The world with a service running in it. -/
structure ServiceWorld where
  world : World
  service : ServiceState
  deriving Inhabited

/-- An operation on the world and its service. -/
abbrev ServiceAct := StateM ServiceWorld

/-- Runs an operation on the world. -/
def inWorld {α : Type} (a : Act α) : ServiceAct α := fun sw =>
  let (r, w) := a.run sw.world
  (r, { sw with world := w })

/-- The service. -/
def service : ServiceAct ServiceState := do pure (← get).service

/-- Changes the service. -/
def modifyService (f : ServiceState → ServiceState) : ServiceAct Unit :=
  modify fun sw => { sw with service := f sw.service }

/-- Runs service work inside a span. -/
def serviceSpan {α : Type} (name : String) (a : ServiceAct α) : ServiceAct α := do
  inWorld (modify fun w => { w with spans := name :: w.spans })
  let r ← a
  inWorld (modify fun w => { w with spans := w.spans.drop 1 })
  pure r

/-- Lets the idle monitor look at the engine again. -/
def reviewIdle : ServiceAct Unit :=
  modifyService fun s => { s with idle := s.idle.review s.clients s.now s.idleDelay }

/-- A client connects. -/
def connectClient : ServiceAct Unit := do
  modifyService fun s => { s with clients := s.clients + 1 }
  reviewIdle

/-- A client goes away. -/
def dropClient : ServiceAct Unit := do
  modifyService fun s => { s with clients := s.clients - 1 }
  reviewIdle

/-- What the service is started with. -/
structure ServiceSetup where
  config : EngineConfig
  calls : Option CallWatch
  network : Option NetworkWatch
  deriving Repr, Inhabited

/-- Gives the keep-alive back after the player failed to start, noting a failure. -/
def releaseAfterFailure : ServiceAct Unit := do
  match (← service).keepAlive.release with
  | .ok k => modifyService fun s => { s with keepAlive := k }
  | .error e => inWorld (log .warn serviceTarget "Failed to release keep-alive" [("error", e.message)])

/-- Starts the service: checks the configuration, takes the keep-alive, makes the hub, starts
the player and then the watchers. -/
def init (setup : ServiceSetup) : ServiceAct (Except ServiceError Unit) :=
  serviceSpan "init" do
    let cfg := setup.config
    if let .error e := cfg.check then return .error (.runtime e)
    let cache : CacheSettings := { baseDir := cfg.cacheDir, leaveFreeBytes := cfg.leaveFreeBytes }
    if let .error m := cache.check then return .error (.runtime (.config m))
    match (← service).keepAlive.acquire with
    | .error e => return .error (.bridge e)
    | .ok k => modifyService fun s => { s with keepAlive := k }
    inWorld (modify fun w => { w with hub := Hub.create cfg.tuning.subscriberCapacity })
    let started ← inWorld (Player.spawn
      { playback := cfg.tuning.playbackSettings, download := cfg.tuning.downloadSettings, cache,
        stateFile := cfg.stateFile })
    match started with
    | .error e =>
      releaseAfterFailure
      return .error (.playback e)
    | .ok () => pure ()
    modifyService fun s => { s with idle := {}, idleDelay := cfg.tuning.idleShutdownDelayMs,
                                    calls := setup.calls, network := setup.network }
    reviewIdle
    let watchers := 1 + (if setup.calls.isSome then 1 else 0) + (if setup.network.isSome then 1 else 0)
    inWorld (log .info serviceTarget "Player service started" [("watchers", toString watchers)])
    pure (.ok ())

/-- Hands the play states the player published to the idle monitor, in order. -/
def watchStates : ServiceAct Unit := do
  let sw ← get
  let s := sw.service
  let idle := sw.world.stateChanges.foldl (fun m st => m.see st s.clients s.now s.idleDelay) s.idle
  set { sw with world := { sw.world with stateChanges := [] }, service := { s with idle } }

/-- Notices that the player stopped, which the idle monitor sees as losing its state. Whether
it had not noticed yet. -/
def noticePlayerStop : ServiceAct Bool := do
  let sw ← get
  let m := sw.service.idle
  if sw.world.running || !m.active || !m.statesOpen then return false
  inWorld (log .warn sessionTarget "Idle monitor lost the player state" [])
  modifyService fun s => { s with idle := { s.idle with statesOpen := false } }
  reviewIdle
  pure true

/-- Subscribes the call watcher to its stream. -/
def startCalls (c : CallWatch) : ServiceAct CallWatch := do
  if c.failSubscribe then
    inWorld (log .warn signalsTarget "Call state monitoring unavailable"
      [("error", (HostError.notAvailable "fake call monitor unavailable").message)])
    pure { c with phase := .ended }
  else pure { c with phase := .running, feed := { c.feed with reader := .watcher } }

/-- Probes the network and subscribes the network watcher to its stream. -/
def startNetwork (n : NetworkWatch) : ServiceAct NetworkWatch := do
  let connected ← match n.initial with
    | some st => pure (st == .connected)
    | none => do
      inWorld (log .warn signalsTarget "Initial network probe failed"
        [("error", (HostError.network "fake probe failed").message)])
      pure false
  if n.failSubscribe then
    inWorld (log .warn signalsTarget "Network monitoring unavailable"
      [("error", (HostError.notAvailable "fake network monitor unavailable").message)])
    pure { n with connected, phase := .ended, feed := n.feed.drop }
  else pure { n with connected, phase := .running, feed := { n.feed with reader := .watcher } }

/-- Forwards the next call state to the player; the watcher ends when the stream has ended or
the player refuses. Whether there was anything to do. -/
def forwardCall (c : CallWatch) : ServiceAct (Option CallWatch) := do
  match c.feed.queued with
  | v :: rest =>
    let c := { c with feed := { c.feed with queued := rest } }
    match ← inWorld (Player.signal (.call v)) with
    | .ok () => pure (some c)
    | .error _ => pure (some c.stop)
  | [] => if c.feed.writable then pure none else pure (some c.stop)

/-- Forwards the next network report: a report of connectivity that was missing tells the
player it is back. The watcher ends when the stream has ended or the player refuses. Whether
there was anything to do. -/
def forwardNetwork (n : NetworkWatch) : ServiceAct (Option NetworkWatch) := do
  match n.feed.queued with
  | info :: rest =>
    let n := { n with feed := { n.feed with queued := rest } }
    let now := info.isConnected
    if now && !n.connected then
      inWorld (log .info signalsTarget "Connectivity restored"
        [("network_type", networkTypeDebug info.networkType)])
      match ← inWorld (Player.signal .connectivityRestored) with
      | .ok () => pure (some { n with connected := now })
      | .error _ => pure (some n.stop)
    else pure (some { n with connected := now })
  | [] => if n.feed.writable then pure none else pure (some n.stop)

/-- Lets the call watcher do one thing; whether it did. -/
def stepCalls : ServiceAct Bool := do
  match (← service).calls with
  | some c =>
    match c.phase with
    | .starting =>
      let c ← startCalls c
      modifyService fun s => { s with calls := some c }
      pure true
    | .running =>
      match ← forwardCall c with
      | some c => modifyService fun s => { s with calls := some c }; pure true
      | none => pure false
    | .ended => pure false
  | none => pure false

/-- Lets the network watcher do one thing; whether it did. -/
def stepNetwork : ServiceAct Bool := do
  match (← service).network with
  | some n =>
    match n.phase with
    | .starting =>
      let n ← startNetwork n
      modifyService fun s => { s with network := some n }
      pure true
    | .running =>
      match ← forwardNetwork n with
      | some n => modifyService fun s => { s with network := some n }; pure true
      | none => pure false
    | .ended => pure false
  | none => pure false

/-- Does one piece of pending work: the player's task taking up its recovered state first, then
the player's messages and transfers, then the watchers; the idle monitor sees every state the
work published. Whether there was any. -/
def settleOnce : ServiceAct Bool := do
  let restoring := (← get).world.controller.recovered.isSome
  let did ← if restoring then inWorld Player.settleOnce
    else if ← stepCalls then pure true
    else if ← stepNetwork then pure true
    else inWorld Player.settleOnce
  watchStates
  if did then return true
  noticePlayerStop

/-- Does pending work until there is none, for at most `fuel` pieces. -/
def settleFor : Nat → ServiceAct Unit
  | 0 => pure ()
  | fuel + 1 => do
    if ← settleOnce then settleFor fuel

/-- Does pending work until the service is idle. -/
def settle : ServiceAct Unit := settleFor Player.settleBound

/-- Lets `ms` milliseconds of virtual time pass; an idle deadline within them fires at its
time, asking for the shutdown and ending the idle monitor. -/
def advance (ms : Nat) : ServiceAct Unit := do
  let s ← service
  let target := s.now + ms
  match s.idle.dueBy target with
  | some d =>
    modifyService fun s => { s with now := d }
    inWorld (log .info sessionTarget "Engine idle with no clients; requesting shutdown" [])
    modifyService fun s => { s with idle := { s.idle with fired := true, active := false } }
    settle
  | none => pure ()
  modifyService fun s => { s with now := target }

/-- Shuts the service down: ends the watchers, shuts the player down and gives the keep-alive
back. A second shutdown does nothing. -/
def shutdown : ServiceAct (Except ServiceError Unit) :=
  serviceSpan "shutdown" do
    if (← service).shutDown then return .ok ()
    modifyService fun s => { s with shutDown := true, idle := { s.idle with active := false },
                                    calls := s.calls.map (·.stop), network := s.network.map (·.stop) }
    discard (inWorld Player.requestShutdown)
    match (← service).keepAlive.release with
    | .error e => return .error (.bridge e)
    | .ok k => modifyService fun s => { s with keepAlive := k }
    inWorld (log .info serviceTarget "Player service stopped" [])
    pure (.ok ())

/-- Sends a call state on the call monitor's stream; whether it was taken. -/
def sendCall (v : CallState) : ServiceAct Bool := do
  match (← service).calls with
  | some c =>
    let (ok, feed) := c.feed.send v
    modifyService fun s => { s with calls := some { c with feed } }
    pure ok
  | none => pure false

/-- Sends a network report on the network monitor's stream; whether it was taken. -/
def sendNetwork (v : NetworkInfo) : ServiceAct Bool := do
  match (← service).network with
  | some n =>
    let (ok, feed) := n.feed.send v
    modifyService fun s => { s with network := some { n with feed } }
    pure ok
  | none => pure false

/-- Closes the call monitor's stream; whether it was open. -/
def closeCalls : ServiceAct Bool := do
  match (← service).calls with
  | some c =>
    let (was, feed) := c.feed.close
    modifyService fun s => { s with calls := some { c with feed } }
    pure was
  | none => pure false

/-- Closes the network monitor's stream; whether it was open. -/
def closeNetwork : ServiceAct Bool := do
  match (← service).network with
  | some n =>
    let (was, feed) := n.feed.close
    modifyService fun s => { s with network := some { n with feed } }
    pure was
  | none => pure false

/-- The service's diagnostic form. -/
def ServiceState.debugText (s : ServiceState) : String :=
  s!"PlayerService \x7b clients: {s.clients}, shut_down: {s.shutDown} \x7d"

end PlaybackEngine.Service
