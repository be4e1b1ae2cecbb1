import PlaybackEngine.Logging.Entry
import PlaybackEngine.Text.Debug
import PlaybackEngine.Text.Time

/-!
# Entries for a host logger, and the console logger

The engine can hand log entries to a logger the host supplies. Such an entry has a level, the
time it was made, a target, a message, text fields by name (a later field of a name replaces
an earlier one) and an optional span id.

The console logger prints an entry of at least its minimum level (info by default) as one line
`[time] LEVEL target: message`, followed, when there are fields, by a line
`  Fields: {...}` listing them in their diagnostic (quoted) form.
-/

set_option autoImplicit false

namespace PlaybackEngine

/-- A log entry as a host logger takes it; `timestamp` is absent for an entry stamped when it
was made. -/
structure SinkEntry where
  level : LogLevel
  timestamp : Option Text.Instant := none
  target : String
  message : String
  fields : List (String × String) := []
  spanId : Option String := none
  deriving DecidableEq, Repr, Inhabited

namespace SinkEntry

/-- Adds a field, replacing one of the same name. -/
def withField (e : SinkEntry) (k v : String) : SinkEntry :=
  if e.fields.any (·.1 == k) then
    { e with fields := e.fields.map fun (k', v') => if k' == k then (k', v) else (k', v') }
  else { e with fields := e.fields ++ [(k, v)] }

end SinkEntry

/-- The diagnostic form of a text map with the given pairs, in their order. -/
def mapDebugText (pairs : List (String × String)) : String :=
  "\x7b" ++ ", ".intercalate (pairs.map fun (k, v) => Text.debugQuote k ++ ": " ++ Text.debugQuote v) ++ "\x7d"

/-- What the console logger prints for an entry, with `stamp` standing for the time: nothing
below the minimum level. -/
def consoleText (minLevel : LogLevel) (stamp : String) (e : SinkEntry) : String :=
  if !e.level.atLeast minLevel then ""
  else
    let head := s!"[{stamp}] {e.level.upperName} {e.target}: {e.message}\n"
    if e.fields.isEmpty then head else head ++ "  Fields: " ++ mapDebugText e.fields ++ "\n"

/-- A line without the carriage return that ended it, if one did. -/
def dropCarriageReturn (line : String) : String :=
  match line.toList.reverse with
  | '\r' :: rest => String.ofList rest.reverse
  | _ => line

/-- Printed text as lines: split at line feeds, without the empty piece after the last one; a
line ended by a carriage return and a line feed loses both. -/
def printedLines (text : String) : List String :=
  match (text.splitOn "\n").reverse with
  | "" :: rest => rest.reverse.map dropCarriageReturn
  | last :: rest => (rest.reverse.map dropCarriageReturn) ++ [last]
  | [] => []

end PlaybackEngine
