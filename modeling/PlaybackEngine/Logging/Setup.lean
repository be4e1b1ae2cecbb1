import PlaybackEngine.Logging.Filter
import PlaybackEngine.Error

/-!
# Setting up logging

The logging configuration: the output format, the base level, an optional custom filter, an
optional host logger, and whether spans, targets and thread information are shown. Setting it
up builds the filter (the custom one, or the engine's own at the base level) and then installs
the process-wide subscriber. The filter text must parse; installing fails when a subscriber is
already installed, which is always the case once the engine's own logging runs.
-/

set_option autoImplicit false

namespace PlaybackEngine.Logging

/-- How log lines are printed. -/
inductive LogFormat where
  | pretty
  | json
  | compact
  deriving DecidableEq, Repr, Inhabited

/-- The name of a format. -/
def LogFormat.name : LogFormat → String
  | .pretty => "Pretty"
  | .json => "Json"
  | .compact => "Compact"

/-- A logging configuration. -/
structure LoggingConfig where
  format : LogFormat := .json
  level : LogLevel := .info
  filter : Option String := none
  hasSink : Bool := false
  enableSpans : Bool := true
  displayTarget : Bool := true
  displayThreadInfo : Bool := false
  deriving DecidableEq, Repr, Inhabited

/-- The filter a configuration builds, or why its custom filter does not parse. -/
def LoggingConfig.buildFilter (c : LoggingConfig) : Except SetupError (List Directive) :=
  match c.filter with
  | some text =>
    match parseFilter text with
    | .ok ds => .ok ds
    | .error f => .error (.config s!"Invalid log filter: {f.message}")
  | none => .ok (engineFilter c.level)

/-- Sets logging up once logging already runs: the filter is built, and installing the
subscriber then fails. -/
def LoggingConfig.initAgain (c : LoggingConfig) : SetupError :=
  match c.buildFilter with
  | .error e => e
  | .ok _ => .config "Failed to initialize logging: a global default trace dispatcher has already been set"

end PlaybackEngine.Logging
