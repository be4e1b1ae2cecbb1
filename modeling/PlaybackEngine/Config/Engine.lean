import PlaybackEngine.Error
import PlaybackEngine.Config.Settings
import PlaybackEngine.Text.Debug

/-!
# Engine configuration

The engine is configured in one record: where its state file and cache live, the cache's quota
and the space it leaves free, which host capabilities are injected, and its tuning. A draft is
filled setting by setting and then built: building names the first missing path or
capability, supplies the defaults, and checks the result.

Without built-in desktop capabilities, a missing transport, file system or keep-alive cannot be
supplied and is reported missing; no network monitor is supplied either.
-/

set_option autoImplicit false

namespace PlaybackEngine

/-- The engine's timing and sizing. -/
structure Tuning where
  progressIntervalMs : Nat := 500
  idleShutdownDelayMs : Nat := 120000
  restartThresholdMs : Nat := 10000
  prefetch : Bool := true
  subscriberCapacity : Nat := 64
  chunkSize : Nat := 16384
  deriving DecidableEq, Repr, Inhabited

namespace Tuning

/-- The first tuning value out of range. -/
def check (t : Tuning) : Except SetupError Unit :=
  if t.progressIntervalMs = 0 then .error (.config "Progress interval must be greater than 0ms")
  else if t.idleShutdownDelayMs = 0 then .error (.config "Idle shutdown delay must be greater than 0ms")
  else if t.subscriberCapacity = 0 then .error (.config "Subscriber capacity must be greater than 0")
  else if t.chunkSize = 0 then .error (.config "Download chunk size must be greater than 0 bytes")
  else .ok ()

/-- The transfer settings a tuning gives. -/
def downloadSettings (t : Tuning) : DownloadSettings :=
  { progressIntervalMs := t.progressIntervalMs, chunkSize := t.chunkSize }

/-- The player settings a tuning gives. -/
def playbackSettings (t : Tuning) : PlaybackSettings :=
  { restartThresholdMs := t.restartThresholdMs, prefetch := t.prefetch }

/-- The diagnostic form of a tuning. -/
def debugText (t : Tuning) : String :=
  s!"EngineTuning \x7b progress_interval: {Text.durationText t.progressIntervalMs}, " ++
  s!"idle_shutdown_delay: {Text.durationText t.idleShutdownDelayMs}, " ++
  s!"restart_threshold: {Text.durationText t.restartThresholdMs}, prefetch: {t.prefetch}, " ++
  s!"subscriber_capacity: {t.subscriberCapacity}, chunk_size: {t.chunkSize} \x7d"

end Tuning

/-- The default cache quota: 1 GiB. -/
def defaultCacheQuotaBytes : Nat := 1024 * 1024 * 1024

/-- A built configuration. -/
structure EngineConfig where
  stateFile : String
  cacheDir : String
  cacheQuotaBytes : Nat
  leaveFreeBytes : Nat
  networkMonitor : Bool
  callStateMonitor : Bool
  loggerSink : Bool
  tuning : Tuning
  deriving DecidableEq, Repr, Inhabited

namespace EngineConfig

/-- The first value out of range: empty paths, a zero quota, a leave-free threshold not
below the quota, then the tuning. -/
def check (c : EngineConfig) : Except SetupError Unit :=
  if c.stateFile.isEmpty then .error (.config "State file path cannot be empty")
  else if c.cacheDir.isEmpty then .error (.config "Cache directory cannot be empty")
  else if c.cacheQuotaBytes = 0 then .error (.config "Cache quota must be greater than 0 bytes")
  else if c.leaveFreeBytes ≥ c.cacheQuotaBytes then
    .error (.config (s!"Leave-free threshold ({c.leaveFreeBytes} bytes) must be smaller than " ++
      s!"the cache quota ({c.cacheQuotaBytes} bytes)"))
  else c.tuning.check

/-- The diagnostic form of a configuration; capabilities show only their presence. -/
def debugText (c : EngineConfig) : String :=
  let present (b : Bool) (name : String) : String :=
    if b then s!"Some(\"{name} \x7b ... \x7d\")" else "None"
  s!"EngineConfig \x7b state_file: {Text.debugQuote c.stateFile}, " ++
  s!"cache_dir: {Text.debugQuote c.cacheDir}, cache_quota_bytes: {c.cacheQuotaBytes}, " ++
  s!"leave_free_bytes: {c.leaveFreeBytes}, catalog: \"Catalog \x7b ... \x7d\", " ++
  "decoder: \"Decoder \x7b ... \x7d\", transport: \"Transport \x7b ... \x7d\", " ++
  "file_system: \"FileSystemAccess \x7b ... \x7d\", " ++
  "network_monitor: " ++ present c.networkMonitor "NetworkMonitor" ++ ", " ++
  "call_state_monitor: " ++ present c.callStateMonitor "CallStateMonitor" ++ ", " ++
  s!"keep_alive: \"KeepAlive \x7b ... \x7d\", tuning: {c.tuning.debugText} \x7d"

end EngineConfig

/-- A configuration being filled in: each setting given or not, each capability injected or
not. -/
structure ConfigDraft where
  stateFile : Option String := none
  cacheDir : Option String := none
  cacheQuotaBytes : Option Nat := none
  leaveFreeBytes : Option Nat := none
  catalog : Bool := false
  decoder : Bool := false
  transport : Bool := false
  fileSystem : Bool := false
  networkMonitor : Bool := false
  callStateMonitor : Bool := false
  keepAlive : Bool := false
  loggerSink : Bool := false
  tuning : Tuning := {}
  deriving DecidableEq, Repr, Inhabited

/-- A call of the configuration builder: a path, a size, an injected capability, one tuning
value, or the whole tuning at once. The clock the builder also takes is not modelled: no check
reads it. -/
inductive ConfigSetter where
  | stateFile (path : String)
  | cacheDir (path : String)
  | cacheQuotaBytes (bytes : Nat)
  | leaveFreeBytes (bytes : Nat)
  | catalog
  | decoder
  | transport
  | fileSystem
  | networkMonitor
  | callStateMonitor
  | keepAlive
  | loggerSink
  | progressInterval (ms : Nat)
  | idleShutdownDelay (ms : Nat)
  | restartThreshold (ms : Nat)
  | prefetch (enabled : Bool)
  | subscriberCapacity (n : Nat)
  | chunkSize (bytes : Nat)
  | tuning (t : Tuning)
  deriving DecidableEq, Repr

namespace ConfigDraft

/-- The draft after one builder call: the call writes its own setting and leaves the others;
the whole tuning replaces every tuning value. -/
def set (d : ConfigDraft) : ConfigSetter → ConfigDraft
  | .stateFile path => { d with stateFile := some path }
  | .cacheDir path => { d with cacheDir := some path }
  | .cacheQuotaBytes bytes => { d with cacheQuotaBytes := some bytes }
  | .leaveFreeBytes bytes => { d with leaveFreeBytes := some bytes }
  | .catalog => { d with catalog := true }
  | .decoder => { d with decoder := true }
  | .transport => { d with transport := true }
  | .fileSystem => { d with fileSystem := true }
  | .networkMonitor => { d with networkMonitor := true }
  | .callStateMonitor => { d with callStateMonitor := true }
  | .keepAlive => { d with keepAlive := true }
  | .loggerSink => { d with loggerSink := true }
  | .progressInterval ms => { d with tuning := { d.tuning with progressIntervalMs := ms } }
  | .idleShutdownDelay ms => { d with tuning := { d.tuning with idleShutdownDelayMs := ms } }
  | .restartThreshold ms => { d with tuning := { d.tuning with restartThresholdMs := ms } }
  | .prefetch enabled => { d with tuning := { d.tuning with prefetch := enabled } }
  | .subscriberCapacity n => { d with tuning := { d.tuning with subscriberCapacity := n } }
  | .chunkSize bytes => { d with tuning := { d.tuning with chunkSize := bytes } }
  | .tuning t => { d with tuning := t }

/-- The draft a sequence of builder calls fills, starting from the builder's empty draft. -/
def ofSetters (calls : List ConfigSetter) : ConfigDraft := calls.foldl set {}

end ConfigDraft

/-- The fault of a capability that was not injected. -/
def missingCapability (name : String) : SetupError :=
  match name with
  | "Catalog" => .capabilityMissing "Catalog"
      "Catalog implementation is required for track lookup. Inject the host content database adapter with .catalog()."
  | "Decoder" => .capabilityMissing "Decoder"
      "Decoder implementation is required for audio output. Inject the platform media player adapter with .decoder()."
  | "Transport" => .capabilityMissing "Transport"
      "Transport implementation is required for downloads. Desktop: ensure the 'desktop-shims' feature is enabled to use the default ReqwestTransport. Mobile: inject the platform HTTP stack."
  | "FileSystemAccess" => .capabilityMissing "FileSystemAccess"
      "FileSystemAccess implementation is required for the cache and state file. Desktop: ensure the 'desktop-shims' feature is enabled to use the default TokioFileSystem. Mobile: inject sandboxed storage access."
  | _ => .capabilityMissing "KeepAlive"
      "KeepAlive implementation is required to hold the process awake. Desktop: ensure the 'desktop-shims' feature is enabled. Mobile: inject a wake lock / background audio adapter."

/-- Requires a capability to have been injected. -/
def requireCapability (present : Bool) (name : String) : Except SetupError Unit :=
  if present then .ok () else .error (missingCapability name)

/-- Builds a configuration: the state file, the cache directory, the catalog, the decoder, the
transport, the file system and the keep-alive must be given, in that order; then the whole is
checked. -/
def ConfigDraft.build (d : ConfigDraft) : Except SetupError EngineConfig := do
  let some stateFile := d.stateFile
    | throw (.config "State file path is required. Use .state_file() to set it.")
  let some cacheDir := d.cacheDir
    | throw (.config "Cache directory is required. Use .cache_dir() to set it.")
  requireCapability d.catalog "Catalog"
  requireCapability d.decoder "Decoder"
  requireCapability d.transport "Transport"
  requireCapability d.fileSystem "FileSystemAccess"
  requireCapability d.keepAlive "KeepAlive"
  let config : EngineConfig :=
    { stateFile, cacheDir, cacheQuotaBytes := d.cacheQuotaBytes.getD defaultCacheQuotaBytes,
      leaveFreeBytes := d.leaveFreeBytes.getD defaultLeaveFreeBytes,
      networkMonitor := d.networkMonitor, callStateMonitor := d.callStateMonitor,
      loggerSink := d.loggerSink, tuning := d.tuning }
  config.check
  pure config

end PlaybackEngine
