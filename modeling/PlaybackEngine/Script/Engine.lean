import PlaybackEngine.World
import PlaybackEngine.Script.Step
import PlaybackEngine.Script.Simple

/-!
# Engine steps

Steps of the engine's scenarios act on its world. The engine's own faults are the step's
result; the log the engine wrote is answered, when a request asks for it, from a level up.
-/

set_option autoImplicit false

namespace PlaybackEngine.Script

/-- Runs an operation on the world as a step. -/
def perform {α : Type} (a : Act α) : Step World α := fun w => .ok (a.run w)

/-- Runs a fallible operation: its value, or its fault as the answer. -/
def attempt (a : Attempt Json) : Step World Json := do
  match ← perform a.run with
  | .ok v => pure v
  | .error e => pure (playbackFailure e)

/-- A log entry as JSON, its fields sorted by name. -/
def logJson (r : LogRecord) : Json :=
  let fields := r.fields.mergeSort fun a b => decide (a.1 ≤ b.1)
  .obj [("level", .str r.level.name), ("target", .str r.target), ("message", .str r.message),
    ("fields", .obj (fields.map fun (k, v) => (k, .str v))), ("span", Json.opt Json.str r.span)]

/-- An answer, with the log entries the engine wrote while it was found. -/
structure Logged where
  answer : Json
  logs : List LogRecord

/-- An answer found without the engine writing to its log. -/
def Logged.quiet (answer : Json) : Logged := ⟨answer, []⟩

/-- The lowest level of entries a request wants answered, if it asks for any. Unlike the
optional fields of an operation, a `logs` given as `null` is not absent but a wrong level. -/
def logLevelOf (req : Json) : Read (Option LogLevel) :=
  match req.field? "logs" with
  | none => .ok none
  | some (.str "info") => .ok (some .info)
  | some (.str "warn") => .ok (some .warn)
  | some (.str "error") => .ok (some .error)
  | some _ => .error (.invalid "logs must be info, warn or error")

/-- Adds the entries at or above a level to an answer, when one is asked for. -/
def withLogs (level : Option LogLevel) (logs : List LogRecord) (answer : Json) : Json :=
  match level, answer with
  | some l, .obj fields =>
    .obj (fields ++ [("logs", .arr ((logs.filter (·.level.atLeast l)).map logJson))])
  | _, other => other

end PlaybackEngine.Script
