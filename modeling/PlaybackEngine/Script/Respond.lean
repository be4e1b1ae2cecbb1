import PlaybackEngine.Json.Parse
import PlaybackEngine.Json.Print
import PlaybackEngine.Script.Queue
import PlaybackEngine.Script.Snapshot
import PlaybackEngine.Script.Simple
import PlaybackEngine.Script.Hub
import PlaybackEngine.Script.Cache
import PlaybackEngine.Script.Downloads
import PlaybackEngine.Script.Player
import PlaybackEngine.Script.Service
import PlaybackEngine.Script.Bridge
import PlaybackEngine.Script.Logging
import PlaybackEngine.Script.Disk
import PlaybackEngine.Script.Probe
import PlaybackEngine.Script.Http

/-!
# Answering requests

One request is one line of JSON text naming an operation in its `op` field; its answer is one
line of JSON text. Text that is not JSON, a value without a string `op`, and an operation not
known each have their own fault. Any request may ask, in its `logs` field, for the entries the
engine wrote to its log while answering, from a level up.
-/

set_option autoImplicit false

namespace PlaybackEngine.Script

/-- The answer to a scenario: a fault found while building it is the answer, with nothing
logged. -/
def scenarioAnswer (body : Read Logged) : Logged :=
  match body with
  | .ok v => v
  | .error f => .quiet f.answer

/-- The answer to a request, by its operation. -/
def answerFor (op : String) (req : Json) : Logged :=
  match op with
  | "queue" => .quiet (answerOf (queueAnswer req))
  | "snapshot_encode" => .quiet (answerOf (snapshotEncodeAnswer req))
  | "snapshot_decode" => .quiet (answerOf (snapshotDecodeAnswer req))
  | "hub" => scenarioAnswer (hubAnswer req)
  | "cache" => scenarioAnswer (cacheAnswer req)
  | "downloads" => scenarioAnswer (downloadsAnswer req)
  | "player" => scenarioAnswer (playerAnswer req)
  | "service" => scenarioAnswer (serviceAnswer req)
  | "clock" => .quiet (answerOf (clockAnswer req))
  | "session_id" => .quiet (answerOf (sessionIdAnswer req))
  | "keep_alive" => .quiet (answerOf (keepAliveAnswer req))
  | "console_log" => .quiet (answerOf (consoleLogAnswer req))
  | "defaults" => .quiet defaultsAnswer
  | "log_entry" => .quiet (answerOf (logEntryAnswer req))
  | "desktop_fs" => .quiet (answerOf (diskAnswer req))
  | "net_probe" => .quiet (answerOf (probeAnswer req))
  | "http" => .quiet (answerOf (httpAnswer req))
  | "log_emit" => .quiet (answerOf (logEmitAnswer req))
  | "logging_init" => .quiet (answerOf (loggingInitAnswer req))
  | other =>
    match simpleAnswer? other req with
    | some r => .quiet (answerOf r)
    | none => .quiet (RequestFault.unknown "op" other).answer

/-- The answer to a request value. A request asking for the engine's log entries is checked
for that first, and then gets them with whatever answer its operation has, faults included. -/
def answer (req : Json) : Json :=
  match logLevelOf req with
  | .error f => f.answer
  | .ok level =>
    let found := match req.given? "op" with
      | some (.str op) => answerFor op req
      | _ => .quiet (RequestFault.missingField "op").answer
    withLogs level found.logs found.answer

/-- The answer line to a request line. -/
def respond (line : String) : String :=
  match Json.parse line with
  | .ok req => Json.render (answer req)
  | .error _ => Json.render (failure "BadInput" "invalid JSON")

end PlaybackEngine.Script
