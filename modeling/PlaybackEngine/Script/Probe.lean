import PlaybackEngine.Host.Probe
import PlaybackEngine.Script.Step

/-!
# Probe scenarios

A probe scenario runs a probing monitor against a target on the scenario's host: a socket
address that listens until it is closed, a socket address nobody listens on, a text that is no
socket address, or no text. The host itself accepts no connection attempts, so every probe finds the
network disconnected whatever the target.
-/

set_option autoImplicit false

namespace PlaybackEngine.Script

/-- Where the monitor probes. -/
inductive ProbeTarget where
  | listener
  | closed
  | invalid
  | empty
  deriving DecidableEq, Repr

/-- The target a request names. -/
def probeTargetOf : String → Read ProbeTarget
  | "listener" => pure .listener
  | "closed" => pure .closed
  | "invalid" => pure .invalid
  | "empty" => pure .empty
  | _ => throw (.invalid "target must be listener, closed, invalid or empty")

/-- Whether a target is a socket address, one that can be listened on. -/
def ProbeTarget.isSocketAddress : ProbeTarget → Bool
  | .listener | .closed => true
  | _ => false

/-- Whether the scenario's host lets a connection attempt through. -/
def hostAcceptsConnections : Bool := false

/-- A probe scenario: the monitor, its target, and whether the target's address listens. -/
structure ProbeBench where
  monitor : ProbeMonitor
  target : ProbeTarget
  listening : Bool

/-- The scenario with the monitor's view of the target brought up to date. -/
def ProbeBench.refresh (b : ProbeBench) : ProbeBench :=
  { b with monitor := { b.monitor with reachable := hostAcceptsConnections && b.listening } }

/-- A network report as an answer. -/
def networkInfoJson (i : NetworkInfo) : Json :=
  .obj [("status", .str i.status.lowerName),
    ("network_type", Json.opt (fun t => Json.str t.lowerName) i.networkType),
    ("is_metered", .bool i.metered)]

/-- The longest a step may wait for a report, in milliseconds. -/
def maxWaitMs : Nat := 500

/-- One step of a probe scenario. -/
def probeStep (step : Json) : Step ProbeBench Json := do
  let name ← readStep (required stringValue step "do")
  let b ← get
  match name with
  | "info" => pure (networkInfoJson b.monitor.info)
  | "connected" => pure (.bool b.monitor.info.isConnected)
  | "subscribe" =>
    set { b with monitor := b.monitor.subscribe }
    pure .null
  | "next" =>
    let wait ← readStep (withDefault unsignedValue step "wait_ms" 200)
    if wait > maxWaitMs then refuse (.invalid "wait_ms must be at most 500")
    if b.monitor.stream.isNone then refuse (.invalid "next before subscribe")
    let (report, m) := b.monitor.next wait
    set { b with monitor := m }
    pure (match report with
      | some i => networkInfoJson i
      | none => .str "timeout")
  | "close" =>
    set (ProbeBench.refresh { b with listening := false })
    pure .null
  | "open" =>
    if !b.target.isSocketAddress then refuse (.invalid "open needs a target with a port")
    set (ProbeBench.refresh { b with listening := true })
    pure .null
  | other => refuse (.unknown "net_probe step" other)

/-- Runs the steps in order, each answering one entry. -/
def probeSteps (b : ProbeBench) : List Json → List Json
  | [] => []
  | step :: rest =>
    let (result, b') := runStep b (probeStep step)
    result :: probeSteps b' rest

/-- The answer to a probe scenario. -/
def probeAnswer (req : Json) : Read Json := do
  let target ← probeTargetOf (← required stringValue req "target")
  let pollMs ← withDefault unsignedValue req "poll_ms" 5
  if pollMs < 1 ∨ pollMs > 100 then throw (.invalid "poll_ms must be within 1..=100")
  let steps ← withDefault arrayValue req "steps" []
  let bench : ProbeBench := ProbeBench.refresh
    { monitor := { pollMs, reachable := false }, target, listening := target == .listener }
  pure (.obj [("steps", .arr (probeSteps bench steps))])

end PlaybackEngine.Script
