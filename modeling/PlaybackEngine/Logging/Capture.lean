import PlaybackEngine.Logging.Filter
import PlaybackEngine.Text.Debug
import PlaybackEngine.Text.Float

/-!
# Capturing events as log entries

An event has a level, a target, a name, an optional message, typed fields, and the spans it
was emitted in (outermost first). The engine hands an event to the host's logger when the
filter enables it and its level reaches the logger's minimum. The entry then holds the message
(the event's name when it has none), every field as text, and the name of the innermost span
the filter enables, if any.

Field values become text by their kind: integers in decimal, flags as `true`/`false`,
floating-point numbers in their shortest plain decimal form, strings and errors as they are,
and values recorded through their diagnostic form quoted and escaped. A later field of a name
replaces an earlier one.
-/

set_option autoImplicit false

namespace PlaybackEngine.Logging

/-- The value of a field, by how it is recorded. -/
inductive FieldValue where
  | unsigned (n : Nat)
  | signed (i : Int)
  | text (s : String)
  | flag (b : Bool)
  | real (x : Text.Binary64)
  | quoted (s : String)
  | error (s : String)
  deriving DecidableEq, Repr, Inhabited

/-- The text of a field value. -/
def FieldValue.render : FieldValue → String
  | .unsigned n => toString n
  | .signed i => toString i
  | .text s => s
  | .flag b => toString b
  | .real x => x.display
  | .quoted s => Text.debugQuote s
  | .error s => s

/-- A span: its name, target and level. -/
structure SpanInfo where
  name : String
  target : String
  level : LogLevel
  deriving DecidableEq, Repr, Inhabited

/-- An event. -/
structure Event where
  level : LogLevel
  target : String
  name : String
  message : Option String
  fields : List (String × FieldValue)
  spans : List SpanInfo
  deriving Repr, Inhabited

/-- Fields with a later field of a name replacing an earlier one. -/
def latestFields (fields : List (String × String)) : List (String × String) :=
  fields.foldl (fun acc (k, v) =>
    if acc.any (·.1 == k) then acc.map fun (k', v') => if k' == k then (k', v) else (k', v')
    else acc ++ [(k, v)]) []

/-- The innermost span of a list (outermost first) that the filter enables. -/
def innermostEnabled (directives : List Directive) (spans : List SpanInfo) : Option String :=
  ((spans.filter fun s => enabled directives s.target s.level).getLast?).map (·.name)

/-- The entry a logger with minimum `minLevel` gets for an event under a filter, if any. -/
def capture (directives : List Directive) (minLevel : LogLevel) (e : Event) : Option LogRecord :=
  if !enabled directives e.target e.level || !e.level.atLeast minLevel then none
  else
    some { level := e.level, target := e.target, message := e.message.getD e.name,
           fields := latestFields (e.fields.map fun (k, v) => (k, v.render)),
           span := innermostEnabled directives e.spans }

end PlaybackEngine.Logging
