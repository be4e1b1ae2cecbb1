/-!
# Log entries

What the engine reports about its work: a level, the part of the engine that speaks (its
target), a message, named fields rendered as text, and the innermost span of work it happened
in, if any. Levels are ordered from trace, the most detailed, to error.
-/

set_option autoImplicit false

namespace PlaybackEngine

/-- How much a log entry matters. -/
inductive LogLevel where
  | trace
  | debug
  | info
  | warn
  | error
  deriving DecidableEq, Repr, Inhabited

namespace LogLevel

/-- The rank of a level: trace lowest. -/
def rank : LogLevel → Nat
  | .trace => 0
  | .debug => 1
  | .info => 2
  | .warn => 3
  | .error => 4

/-- Whether a level is at least another. -/
def atLeast (l m : LogLevel) : Bool := m.rank ≤ l.rank

/-- The name of a level, as entries write it. -/
def name : LogLevel → String
  | .trace => "Trace"
  | .debug => "Debug"
  | .info => "Info"
  | .warn => "Warn"
  | .error => "Error"

/-- The name of a level as a console line writes it. -/
def upperName : LogLevel → String
  | .trace => "TRACE"
  | .debug => "DEBUG"
  | .info => "INFO"
  | .warn => "WARN"
  | .error => "ERROR"

/-- A level by its lower-case name. -/
def ofLowerName? : String → Option LogLevel
  | "trace" => some .trace
  | "debug" => some .debug
  | "info" => some .info
  | "warn" => some .warn
  | "error" => some .error
  | _ => none

/-- A level by its name as entries write it. -/
def ofName? : String → Option LogLevel
  | "Trace" => some .trace
  | "Debug" => some .debug
  | "Info" => some .info
  | "Warn" => some .warn
  | "Error" => some .error
  | _ => none

/-- Every level, lowest first. -/
def all : List LogLevel := [.trace, .debug, .info, .warn, .error]

end LogLevel

/-- A log entry. -/
structure LogRecord where
  level : LogLevel
  target : String
  message : String
  fields : List (String × String)
  span : Option String
  deriving DecidableEq, Repr, Inhabited

end PlaybackEngine
