import PlaybackEngine.Error
import PlaybackEngine.Path
import PlaybackEngine.Cache.Key
import PlaybackEngine.Cache.Mime
import PlaybackEngine.Config.Engine
import PlaybackEngine.Download.State
import PlaybackEngine.Player.PlayState
import PlaybackEngine.Host.Telephony
import PlaybackEngine.Script.Request

/-!
# Requests on single values

Requests that build one value (an error, a state, a key, a setting) and answer what the
library says of it.
-/

set_option autoImplicit false

namespace PlaybackEngine.Script

/-- The answer for a playback fault. -/
def playbackFailure (e : PlaybackError) : Json := failure e.kindName e.message

/-- The answer for a setup fault. -/
def setupFailure (e : SetupError) : Json := failure e.kindName e.message

/-- An I/O kind by its name. -/
def ioKindOf (name : String) : Read IoKind :=
  match name with
  | "NotFound" => pure .notFound
  | "PermissionDenied" => pure .permissionDenied
  | "ConnectionReset" => pure .connectionReset
  | "ConnectionAborted" => pure .connectionAborted
  | "TimedOut" => pure .timedOut
  | "UnexpectedEof" => pure .unexpectedEof
  | "BrokenPipe" => pure .brokenPipe
  | "Other" => pure .other
  | other => throw (.unknown "io kind" other)

/-- An unsigned field that must fit in 16 bits. -/
def statusField (req : Json) : Read Nat := do
  let s ← required unsignedValue req "status"
  if s < 65536 then pure s else throw (.invalid "status must fit in u16")

/-- An I/O fault from `io_kind` and `message`. -/
def ioFaultOf (req : Json) : Read IoFault := do
  let kind ← ioKindOf (← required stringValue req "io_kind")
  let text ← withDefault stringValue req "message" ""
  pure ⟨kind, text⟩

/-- A host fault described by a request. -/
def hostErrorOf (req : Json) : Read HostError := do
  let kind ← required stringValue req "kind"
  match kind with
  | "NotAvailable" => pure (.notAvailable (← withDefault stringValue req "message" ""))
  | "OperationFailed" => pure (.operationFailed (← withDefault stringValue req "message" ""))
  | "Network" => pure (.network (← withDefault stringValue req "message" ""))
  | "Http" =>
    let status ← statusField req
    pure (.http status (← withDefault stringValue req "message" ""))
  | "Io" => pure (.io (← ioFaultOf req))
  | other => throw (.unknown "bridge error kind" other)

/-- A playback fault described by a request. -/
def playbackErrorOf (req : Json) : Read PlaybackError := do
  let kind ← required stringValue req "kind"
  let text : Read String := withDefault stringValue req "message" ""
  match kind with
  | "NoStorageMedium" => pure .noStorageMedium
  | "OutOfSpace" =>
    let r ← required unsignedValue req "requested"
    let a ← required unsignedValue req "available"
    pure (.outOfSpace r a)
  | "UnknownMimeType" => pure (.unknownMimeType (← text))
  | "TransientNetwork" => pure (.transientNetwork (← text))
  | "PermanentHttp" => pure (.permanentHttp (← statusField req))
  | "SizeMismatch" =>
    let e ← required unsignedValue req "expected"
    let a ← required unsignedValue req "actual"
    pure (.sizeMismatch e a)
  | "Decode" => pure (.decode (← text))
  | "TrackNotFound" => pure (.trackNotFound (← required signedValue req "track_id"))
  | "CorruptState" => pure (.corruptState (← text))
  | "EngineStopped" => pure .engineStopped
  | "Bridge" => pure (.host (← hostErrorOf (← need req "bridge")))
  | "Io" => pure (.io (← ioFaultOf req))
  | "Internal" => pure (.internal (← text))
  | other => throw (.unknown "playback error kind" other)

/-- The answer to a `playback_error` request. -/
def playbackErrorAnswer (req : Json) : Read Json := do
  let e ← playbackErrorOf req
  pure (.obj [("kind", .str e.kindName), ("message", .str e.message),
    ("is_transient", .bool e.isTransient), ("is_storage_error", .bool e.isStorageError)])

/-- The answer to a `bridge_error` request. -/
def hostErrorAnswer (req : Json) : Read Json := do
  let e ← hostErrorOf req
  pure (.obj [("message", .str e.message), ("is_transient", .bool e.isTransient)])

/-- A call state from `state` and `ringer_audible`. -/
def callStateOf (req : Json) : Read CallState := do
  let s ← required stringValue req "state"
  match s with
  | "idle" => pure .idle
  | "offhook" => pure .offHook
  | "ringing" => pure (.ringing (← withDefault boolValue req "ringer_audible" true))
  | other => throw (.unknown "call state" other)

/-- A check's outcome as `{valid}` with the message of a failure. -/
def validity (r : Except String Unit) : Json :=
  match r with
  | .ok () => .obj [("valid", .bool true)]
  | .error m => .obj [("valid", .bool false), ("message", .str m)]

/-- Tuning from the fields of a request, each defaulting as given. -/
def tuningOf (req : Json) (base : Tuning) : Read Tuning := do
  let progressIntervalMs ← withDefault unsignedValue req "progress_interval_ms" base.progressIntervalMs
  let idleShutdownDelayMs ← withDefault unsignedValue req "idle_shutdown_delay_ms" base.idleShutdownDelayMs
  let restartThresholdMs ← withDefault unsignedValue req "restart_threshold_ms" base.restartThresholdMs
  let prefetch ← withDefault boolValue req "prefetch" base.prefetch
  let subscriberCapacity ← withDefault unsignedValue req "subscriber_capacity" base.subscriberCapacity
  let chunkSize ← withDefault unsignedValue req "chunk_size" base.chunkSize
  pure { progressIntervalMs, idleShutdownDelayMs, restartThresholdMs, prefetch,
         subscriberCapacity, chunkSize }

/-- The builder calls that set single tuning values, in the order the scenario makes them: the
progress interval, the chunk size, the subscriber capacity, the idle shutdown delay, the restart
threshold and prefetching, each only when given. -/
def tuningSettersOf (req : Json) : Read (List ConfigSetter) := do
  let progressInterval ← optional unsignedValue req "progress_interval_ms"
  let chunkSize ← optional unsignedValue req "chunk_size"
  let subscriberCapacity ← optional unsignedValue req "subscriber_capacity"
  let idleShutdownDelay ← optional unsignedValue req "idle_shutdown_delay_ms"
  let restartThreshold ← optional unsignedValue req "restart_threshold_ms"
  let prefetch ← optional boolValue req "prefetch"
  pure (progressInterval.toList.map .progressInterval ++ chunkSize.toList.map .chunkSize ++
    subscriberCapacity.toList.map .subscriberCapacity ++
    idleShutdownDelay.toList.map .idleShutdownDelay ++
    restartThreshold.toList.map .restartThreshold ++ prefetch.toList.map .prefetch)

/-- A tuning as an answer. -/
def tuningJson (t : Tuning) : Json :=
  .obj [("progress_interval_ms", Json.nat t.progressIntervalMs),
    ("idle_shutdown_delay_ms", Json.nat t.idleShutdownDelayMs),
    ("restart_threshold_ms", Json.nat t.restartThresholdMs), ("prefetch", .bool t.prefetch),
    ("subscriber_capacity", Json.nat t.subscriberCapacity), ("chunk_size", Json.nat t.chunkSize)]

/-- An optional string field whose wrong kind is the fault `<k> must be a string`. -/
def optionalNamedString (req : Json) (k : String) : Read (Option String) :=
  match req.given? k with
  | some (.str s) => .ok (some s)
  | some _ => .error (.invalid s!"{k} must be a string")
  | none => .ok none

/-- The answer to an `engine_config_build` request. -/
def engineConfigAnswer (req : Json) : Read Json := do
  let stateFile ← optionalNamedString req "state_file"
  let cacheDir ← optionalNamedString req "cache_dir"
  let catalog ← withDefault boolValue req "catalog" true
  let decoder ← withDefault boolValue req "decoder" true
  let transport ← withDefault boolValue req "transport" true
  let fileSystem ← withDefault boolValue req "file_system" true
  let keepAlive ← withDefault boolValue req "keep_alive" true
  let cacheQuotaBytes ← optional unsignedValue req "cache_quota_bytes"
  let leaveFreeBytes ← optional unsignedValue req "leave_free_bytes"
  let tuning ← match req.given? "tuning" with
    | some t => (tuningOf t {}).map some
    | none => pure none
  let knobs ← tuningSettersOf req
  let loggerSink ← withDefault boolValue req "logger_sink" false
  let debug ← withDefault boolValue req "debug" false
  let injected (given : Bool) (call : ConfigSetter) : List ConfigSetter := if given then [call] else []
  let calls : List ConfigSetter :=
    stateFile.toList.map .stateFile ++ cacheDir.toList.map .cacheDir ++
    injected catalog .catalog ++ injected decoder .decoder ++ injected transport .transport ++
    injected fileSystem .fileSystem ++ injected keepAlive .keepAlive ++
    cacheQuotaBytes.toList.map .cacheQuotaBytes ++ leaveFreeBytes.toList.map .leaveFreeBytes ++
    tuning.toList.map .tuning ++ knobs ++ injected loggerSink .loggerSink
  let draft := ConfigDraft.ofSetters calls
  match draft.build with
  | .error e => pure (setupFailure e)
  | .ok c =>
    if debug then
      pure (.obj [("debug", .str c.debugText), ("logger_sink", .bool c.loggerSink)])
    else
      pure (.obj [("state_file", .str c.stateFile), ("cache_dir", .str c.cacheDir),
        ("cache_quota_bytes", Json.nat c.cacheQuotaBytes),
        ("leave_free_bytes", Json.nat c.leaveFreeBytes), ("tuning", tuningJson c.tuning),
        ("network_monitor", .bool c.networkMonitor),
        ("call_state_monitor", .bool c.callStateMonitor)])

/-- The answer to a request on a single value, by its operation, if it is one. -/
def simpleAnswer? (op : String) (req : Json) : Option (Read Json) :=
  match op with
  | "mime" => some do
    let m ← required stringValue req "mime_type"
    pure (.obj [("ext", Json.opt Json.str (Cache.extensionFor m))])
  | "progress_percent" => some do
    let expected ← required unsignedValue req "expected_length"
    let written ← required unsignedValue req "bytes_written"
    pure (.obj [("percent", Json.nat (progressPercent expected written))])
  | "download_state" => some do
    let name ← required stringValue req "state"
    let some s := DownloadState.ofName? name | throw (.unknown "download state" name)
    pure (.obj [("is_active", .bool s.isActive), ("is_paused", .bool s.isPaused),
      ("is_permanent_failure", .bool s.isPermanentFailure), ("is_terminal", .bool s.isTerminal)])
  | "play_state" => some do
    let name ← required stringValue req "state"
    let some s := PlayState.ofName? name | throw (.unknown "play state" name)
    pure (.obj [("is_playing", .bool s.isPlaying), ("is_outputting", .bool s.isOutputting)])
  | "call_state" => some do
    let s ← callStateOf req
    pure (.obj [("interrupts", .bool s.interruptsPlayback)])
  | "playback_error" => some (playbackErrorAnswer req)
  | "bridge_error" => some (hostErrorAnswer req)
  | "strip_path" => some do
    let p ← namedString req "path"
    pure (.obj [("name", .str (Path.fileName p))])
  | "cache_key" => some do
    let s ← required signedValue req "source_id"
    let c ← required stringValue req "content_id"
    pure (.obj [("display", .str (CacheKey.display ⟨s, c⟩))])
  | "cache_stats" => some do
    let ce ← required unsignedValue req "committed_entries"
    let cb ← required unsignedValue req "committed_bytes"
    let pe ← required unsignedValue req "provisional_entries"
    let s : CacheStats := ⟨ce, cb, pe⟩
    pure (.obj [("average_entry_size", Json.nat s.averageEntrySize), ("is_empty", .bool s.isEmpty)])
  | "cache_config_validate" => some do
    let base ← required stringValue req "base_dir"
    let leaveFree ← optional unsignedValue req "leave_free_bytes"
    let replaced ← optionalNamedString req "with_base_dir"
    let s : CacheSettings :=
      { baseDir := replaced.getD base, leaveFreeBytes := leaveFree.getD defaultLeaveFreeBytes }
    pure (validity s.check)
  | "download_config_validate" => some do
    let i ← withDefault unsignedValue req "progress_interval_ms" 500
    let c ← withDefault unsignedValue req "chunk_size" 16384
    pure (validity (DownloadSettings.check ⟨i, c⟩))
  | "playback_config_validate" => some do
    let t ← withDefault unsignedValue req "restart_threshold_ms" 10000
    let p ← withDefault boolValue req "prefetch" true
    pure (validity (PlaybackSettings.check ⟨t, p⟩))
  | "engine_tuning_validate" => some do
    let t ← tuningOf req {}
    match t.check with
    | .ok () => pure (.obj [("valid", .bool true)])
    | .error e => pure (setupFailure e)
  | "engine_config_build" => some (engineConfigAnswer req)
  | _ => none

end PlaybackEngine.Script
