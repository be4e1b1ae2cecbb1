import PlaybackEngine.Logging.Console
import PlaybackEngine.Logging.Stored
import PlaybackEngine.Text.Uuid
import PlaybackEngine.Host.KeepAlive
import PlaybackEngine.Script.Simple
import PlaybackEngine.Listeners.Hub

/-!
# Requests on the host bridge's small pieces

The clock's readings, decoder session ids, the process keep-alive, the console logger, and the
defaults of several host pieces.
-/

set_option autoImplicit false

namespace PlaybackEngine.Script

/-- The clock's reading number `k`, in milliseconds: it starts at 1000000 and moves on by 1000
at each reading. -/
def clockReading (k : Nat) : Int := 1000000 + 1000 * (k : Int)

/-- The answer to a `clock` request: each reading as the time, or whole seconds, or
milliseconds since the epoch. -/
def clockAnswer (req : Json) : Read Json := do
  let readings ← withDefault arrayValue req "readings" []
  let kinds ← readings.mapM fun
    | .str "now" => .ok 0
    | .str "secs" => .ok 1
    | .str "millis" => .ok 2
    | _ => .error (.invalid "readings must be now, secs or millis")
  let values := kinds.zipIdx.map fun (kind, k) =>
    let ms := clockReading k
    match kind with
    | 0 => Json.str (Text.rfc3339Millis ms)
    | 1 => Json.int (ms / 1000)
    | _ => Json.int ms
  pure (.obj [("readings", .arr values), ("system_sane", .bool true)])

/-- The answer to a `session_id` request: the id in canonical form. -/
def sessionIdAnswer (req : Json) : Read Json := do
  let text ← required stringValue req "uuid"
  match Text.uuidDigits text with
  | some digits => pure (.obj [("uuid", .str (Text.uuidText digits)), ("equal_to_default", .bool false)])
  | none => throw (.invalid "malformed uuid")

/-- The diagnostic form of the process keep-alive. -/
def keepAliveDebug (held : Bool) : String := s!"ProcessKeepAlive \x7b held: {held} \x7d"

/-- The answer to a `keep_alive` request: each step's result and whether the keep-alive is
held after it. -/
def keepAliveAnswer (req : Json) : Read Json := do
  let steps ← withDefault arrayValue req "steps" []
  let names ← steps.mapM fun
    | .str s => if s = "acquire" ∨ s = "release" ∨ s = "held" ∨ s = "debug" then .ok s
      else .error (.invalid "keep_alive steps are acquire, release, held or debug")
    | _ => .error (.invalid "keep_alive steps are acquire, release, held or debug")
  let step := fun (acc : List Json × Bool) (name : String) =>
    let (entries, held) := acc
    let (result, held) : Json × Bool := match name with
      | "acquire" => (.null, true)
      | "release" => (.null, false)
      | "held" => (.bool held, held)
      | _ => (.str (keepAliveDebug held), held)
    (entries ++ [.obj [("result", result), ("held", .bool held)]], held)
  pure (.obj [("steps", .arr (names.foldl step ([], false)).1)])

/-- A level named in lower case, or the fault `<k> must be a string`. -/
def lowerLevelOf (k : String) : Json → Read LogLevel
  | .str s =>
    match LogLevel.ofLowerName? s with
    | some l => .ok l
    | none => .error (.unknown "log level" s)
  | _ => .error (.invalid s!"{k} must be a string")

/-- An entry for a host logger described by JSON, built field by field. -/
def sinkEntryOf (j : Json) : Read SinkEntry := do
  let level ← lowerLevelOf "level" (← need j "level")
  let target ← required stringValue j "target"
  let message ← match ← need j "message" with
    | .str m => pure m
    | _ => throw (.invalid "message must be a string")
  let fields ← match j.given? "fields" with
    | none => pure []
    | some (.obj members) =>
      members.mapM fun
        | (k, .str v) => .ok (k, v)
        | _ => .error (.invalid "field values must be strings")
    | some _ => throw (.invalid "fields must be an object")
  let spanId ← match j.given? "span_id" with
    | none => pure none
    | some (.str s) => pure (some s)
    | some _ => throw (.invalid "span_id must be a string")
  let e : SinkEntry := { level, target, message, spanId }
  pure (fields.foldl (fun e (k, v) => e.withField k v) e)

/-- The characters after the first `n` bytes of their encoding. -/
def dropBytes : Nat → List Char → List Char
  | 0, cs => cs
  | _, [] => []
  | n + 1, c :: cs => dropBytes (n + 1 - c.utf8Size) cs

/-- A printed line with the time that opens it hidden: a line whose first byte is `[`, whose
25th byte is `]` and whose 26th byte is a space has those 25 bytes replaced by `[TIMESTAMP]`. -/
def hideStamp (line : String) : String :=
  let bytes := line.toUTF8
  if bytes[0]? == some 91 && bytes[24]? == some 93 && bytes[25]? == some 32 then
    "[TIMESTAMP]" ++ String.ofList (dropBytes 25 line.toList)
  else line

/-- The answer to a `console_log` request: what the console logger prints for the entry. -/
def consoleLogAnswer (req : Json) : Read Json := do
  let minLevel ← match req.given? "min_level" with
    | none => pure LogLevel.info
    | some v => lowerLevelOf "min_level" v
  let entry ← sinkEntryOf (← need req "entry")
  if entry.fields.length > 1 then throw (.invalid "console_log takes at most one field")
  let stamp := (entry.timestamp.getD ⟨0, 0⟩).consoleForm
  let lines := (printedLines (consoleText minLevel stamp entry)).map hideStamp
  pure (.obj [("min_level", .str minLevel.name), ("ok", .bool true), ("lines", .arr (lines.map Json.str))])

/-- An entry in the form the scenario shows it. -/
def entryFormJson (e : SinkEntry) : Json :=
  .obj [("level", .str e.level.name), ("target", .str e.target), ("message", .str e.message),
    ("fields", .obj (e.fields.map fun (k, v) => (k, .str v))), ("span", Json.opt Json.str e.spanId)]

/-- The answer to a `log_entry` request: an entry built from fields, or read from its stored
JSON text, shown with its stored form. -/
def logEntryAnswer (req : Json) : Read Json := do
  let entry ← match req.given? "json" with
    | some (.str text) =>
      match Logging.readStoredEntry text with
      | .ok e => pure e
      | .error m => return failure "Deserialize" m
    | some _ => throw (.invalid "json must be a string")
    | none => sinkEntryOf (← need req "entry")
  pure (.obj [("entry", entryFormJson entry), ("serialized", Logging.storedJson entry)])

/-- The answer to a `defaults` request: the defaults of several host pieces. -/
def defaultsAnswer : Json :=
  .obj [("console_logger", .str "Info"), ("default_quota", Json.nat defaultCacheQuotaBytes),
    ("fake_transport_supports_resume", .bool true), ("fs_quota", Json.nat defaultCacheQuotaBytes),
    ("fs_root_name", .str "cacheplay"),
    ("hub", .str ((Hub.create Hub.defaultCapacity).subscribe .moves).2.debugText),
    ("keep_alive", .str (keepAliveDebug false)),
    ("network_info_disconnected", .obj [("is_metered", .bool false), ("network_type", .null),
      ("status", .str "disconnected")]),
    ("network_monitor", .str "DesktopNetworkMonitor \x7b probe_addr: \"8.8.8.8:53\", poll_interval: 5s \x7d"),
    ("plain_sink", .obj [("flush_ok", .bool true), ("min_level", .str "Info")])]

end PlaybackEngine.Script
