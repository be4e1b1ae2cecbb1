import PlaybackEngine.Logging.Capture
import PlaybackEngine.Logging.Setup
import PlaybackEngine.Script.Bridge
import PlaybackEngine.Script.Engine

/-!
# Logging requests

`log_emit` emits events through the engine's logging, with the engine's own filter, to a host
logger with a given minimum level (or one that refuses every entry), and answers the entries
the logger got. `logging_init` builds a logging configuration and sets logging up again.
-/

set_option autoImplicit false

namespace PlaybackEngine.Script

open Logging

/-- The name of the events a request emits. -/
def emittedEventName : String := "oracle_event"

/-- The targets events may be emitted for. -/
def emitTargets : List String :=
  ["cacheplay", "core_runtime", "core_playback", "core_playback::cache", "core_playbackx",
   "core_service", "bridge_desktop", "reqwest", "hyper", "h2", "oracle"]

/-- The spans events may be emitted in. -/
def spanOf? (name : String) : Option SpanInfo :=
  match name with
  | "session" => some ⟨"session", "cacheplay", .info⟩
  | "jump" => some ⟨"jump", "core_playback", .debug⟩
  | "fetch" => some ⟨"fetch", "reqwest", .warn⟩
  | "quiet" => some ⟨"quiet", "reqwest", .info⟩
  | "hidden" => some ⟨"hidden", "oracle", .info⟩
  | _ => none

/-- The fault of a field given the wrong kind of value. -/
def wrongFieldType (k : String) : RequestFault := .invalid s!"field {k} has the wrong type"

/-- A field value of an event, by the field's name. -/
def fieldValueOf (k : String) (v : Json) : Read FieldValue :=
  match k, v with
  | "track_id", v => match asUnsigned? v with
    | some n => .ok (.unsigned n)
    | none => .error (wrongFieldType k)
  | "offset", v => match asSigned? v with
    | some i => .ok (.signed i)
    | none => .error (wrongFieldType k)
  | "label", .str s => .ok (.text s)
  | "flag", .bool b => .ok (.flag b)
  | "ratio", .num n => .ok (.real n.machine)
  | "detail", .str s => .ok (.quoted s)
  | "error", .str s => .ok (.error s)
  | "label", _ | "flag", _ | "ratio", _ | "detail", _ | "error", _ => .error (wrongFieldType k)
  | other, _ => .error (.invalid s!"unknown log field {other}")

/-- An event a request describes, with the names of its spans. -/
def emittedEventOf (j : Json) : Read (Event × List String) := do
  let level ← lowerLevelOf "level" (← need j "level")
  let target ← required stringValue j "target"
  if !emitTargets.contains target then throw (.invalid s!"unknown target {target}")
  let message ← match j.given? "message" with
    | none => pure none
    | some (.str m) => pure (some m)
    | some _ => throw (.invalid "message must be a string")
  let fields ← match j.given? "fields" with
    | none => pure []
    | some (.obj members) => members.mapM fun (k, v) => do pure (k, ← fieldValueOf k v)
    | some _ => throw (.invalid "fields must be an object")
  let spanNames ← match j.given? "spans" with
    | none => pure []
    | some (.arr items) =>
      items.mapM fun
        | .str s => .ok s
        | _ => .error (.invalid "spans must be strings")
    | some _ => throw (.invalid "spans must be strings")
  discard (withDefault boolValue j "in_runtime" false)
  pure ({ level, target, name := emittedEventName, message, fields, spans := [] }, spanNames)

/-- The spans of an event by their names. -/
def spansOf (names : List String) : Read (List SpanInfo) :=
  names.mapM fun n => match spanOf? n with
    | some s => .ok s
    | none => .error (.invalid s!"unknown span {n}")

/-- The answer to a `log_emit` request: the entries the logger got. -/
def logEmitAnswer (req : Json) : Read Json := do
  let minLevel ← match req.given? "min_level" with
    | none => pure LogLevel.trace
    | some v => lowerLevelOf "min_level" v
  let refuse ← withDefault boolValue req "fail" false
  let events ← withDefault arrayValue req "events" []
  let described ← events.mapM emittedEventOf
  let directives := engineFilter .trace
  let entries ← described.filterMapM fun (e, names) => do
    let spans ← spansOf names
    pure (if refuse then none else capture directives minLevel { e with spans })
  pure (.obj [("entries", .arr (entries.map logJson))])

/-- A format by its lower-case name. -/
def logFormatOf : Json → Read LogFormat
  | .str "pretty" => .ok .pretty
  | .str "json" => .ok .json
  | .str "compact" => .ok .compact
  | _ => .error (.invalid "format must be pretty, json or compact")

/-- A switch of the logging configuration. -/
def switchOf (k : String) : Json → Read Bool
  | .bool b => .ok b
  | _ => .error (.invalid s!"{k} must be a boolean")

/-- The answer to a `logging_init` request: the configuration, and the outcome of setting
logging up with it. -/
def loggingInitAnswer (req : Json) : Read Json := do
  let c : LoggingConfig := {}
  let c ← match req.given? "format" with
    | some v => do pure { c with format := ← logFormatOf v }
    | none => pure c
  let c ← match req.given? "level" with
    | some v => do pure { c with level := ← lowerLevelOf "level" v }
    | none => pure c
  let c ← match req.given? "filter" with
    | some (.str f) => pure { c with filter := some f }
    | some _ => throw (.invalid "filter must be a string")
    | none => pure c
  let c ← match req.given? "spans" with
    | some v => do pure { c with enableSpans := ← switchOf "spans" v }
    | none => pure c
  let c ← match req.given? "target" with
    | some v => do pure { c with displayTarget := ← switchOf "target" v }
    | none => pure c
  let c ← match req.given? "thread_info" with
    | some v => do pure { c with displayThreadInfo := ← switchOf "thread_info" v }
    | none => pure c
  let c := { c with hasSink := ← withDefault boolValue req "sink" false }
  let config : Json := .obj [("format", .str c.format.name), ("level", .str c.level.name),
    ("filter", Json.opt Json.str c.filter), ("has_sink", .bool c.hasSink),
    ("enable_spans", .bool c.enableSpans), ("display_target", .bool c.displayTarget),
    ("display_thread_info", .bool c.displayThreadInfo)]
  match c.filter.map parseFilter with
  | some (.error (.cutInsideChar message)) => pure (failure "Panic" message)
  | _ => pure (.obj [("config", config), ("result", setupFailure c.initAgain)])

end PlaybackEngine.Script
