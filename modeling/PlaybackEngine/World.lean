import PlaybackEngine.Host.Volume
import PlaybackEngine.Host.Catalog
import PlaybackEngine.Host.Transport
import PlaybackEngine.Host.Decoder
import PlaybackEngine.Listeners.Hub
import PlaybackEngine.Cache.Provisional
import PlaybackEngine.Download.Record
import PlaybackEngine.Player.Session
import PlaybackEngine.Logging.Entry

/-!
# The engine's world

Everything the engine acts on in one record: the host's capabilities (volume, catalog,
transport, decoder, clock), the listener hub, the engine's own parts (cache store, download
manager and its notices, player), and the log it writes. Engine operations are state
transformers of this record, `Act`, and those that can fail return their fault, `Attempt`.

The player publishes its play state; every value published is also kept, in order, until the
watchers of the state have seen it.

Work can run inside named spans; a log entry records the innermost span it was made in. Work
on a task of its own starts outside every span.
-/

set_option autoImplicit false

namespace PlaybackEngine

/-- Download notices in the order they were sent: those to read first, and after them, newest
first, those sent since. Sending and reading each take constant time on average. -/
structure Notices where
  front : List DownloadEvent := []
  back : List DownloadEvent := []
  deriving Inhabited

namespace Notices

/-- The notices in the order they were sent. -/
def toList (q : Notices) : List DownloadEvent := q.front ++ q.back.reverse

/-- Adds a notice after the others. -/
def push (q : Notices) (e : DownloadEvent) : Notices := { q with back := e :: q.back }

/-- The first notice sent, and the others. -/
def pop? (q : Notices) : Option (DownloadEvent × Notices) :=
  match q.front with
  | e :: rest => some (e, { q with front := rest })
  | [] =>
    match q.back.reverse with
    | e :: rest => some (e, { front := rest, back := [] })
    | [] => none

end Notices

/-- The world an engine runs in. -/
structure World where
  volume : Volume := {}
  catalog : Catalog := []
  transport : Transport := {}
  decoder : Decoder := {}
  clockReadings : Nat := 0
  hub : Hub := Hub.create Hub.defaultCapacity
  store : CacheStore := { settings := {} }
  manager : Manager := {}
  notices : Notices := {}
  controller : Controller := {}
  running : Bool := false
  published : PlayState := .stopped
  stateChanges : List PlayState := []
  nextSession : Nat := 1
  decoderEvents : List DecoderEvent := []
  logs : List LogRecord := []
  spans : List String := []
  deriving Inhabited

/-- An operation on the world. -/
abbrev Act := StateM World

/-- An operation on the world that can fail with a playback fault. -/
abbrev Attempt := ExceptT PlaybackError Act

namespace World

/-- Writes a log entry in the innermost span. Entries below `info` are not kept. -/
def log (level : LogLevel) (target message : String) (fields : List (String × String)) : Act Unit :=
  if level.atLeast .info then
    modify fun w => { w with logs := w.logs ++ [⟨level, target, message, fields, w.spans.head?⟩] }
  else pure ()

/-- Runs work inside a span. -/
def inSpan {α : Type} (name : String) (a : Act α) : Act α := do
  modify fun w => { w with spans := name :: w.spans }
  let r ← a
  modify fun w => { w with spans := w.spans.drop 1 }
  pure r

/-- Runs fallible work inside a span. -/
def attemptInSpan {α : Type} (name : String) (a : Attempt α) : Attempt α :=
  ExceptT.mk (inSpan name a.run)

/-- Runs work as a task of its own, outside every span. -/
def detached {α : Type} (a : Act α) : Act α := do
  let saved := (← get).spans
  modify fun w => { w with spans := [] }
  let r ← a
  modify fun w => { w with spans := saved }
  pure r

/-- Lifts a host outcome into a fallible operation. -/
def host {α : Type} (r : Except HostError α) : Attempt α :=
  match r with
  | .ok v => pure v
  | .error e => throw (.host e)

/-- Reads the volume. -/
def onVolume {α : Type} (f : Volume → α) : Act α := do pure (f (← get).volume)

/-- Changes the volume by a host operation that can fail. -/
def changeVolume (f : Volume → Except HostError Volume) : Attempt Unit := do
  let v ← host (f (← get).volume)
  modify fun w => { w with volume := v }

/-- The length of what is at a path. -/
def fileLen (p : String) : Attempt (Option Nat) := do host ((← get).volume.fileLen p)

/-- Takes a clock reading in milliseconds: 1000000, 1001000, and so on. -/
def readClock : Act Int := do
  let w ← get
  set { w with clockReadings := w.clockReadings + 1 }
  pure (1000000 + 1000 * (w.clockReadings : Int))

/-- Publishes the player's play state. -/
def publish (s : PlayState) : Act Unit :=
  modify fun w => { w with published := s, stateChanges := w.stateChanges ++ [s] }

/-- Announces a buffered share. -/
def emitBuffer (track : TrackId) (percent : Nat) : Act Unit :=
  modify fun w => { w with hub := (w.hub.emitBuffer track percent).2 }

/-- Announces a move. -/
def emitMove (e : MoveEvent) : Act Unit :=
  modify fun w => { w with hub := (w.hub.emitMove e).2 }

/-- Announces a queue change. -/
def emitChange (e : ChangeEvent) : Act Unit :=
  modify fun w => { w with hub := (w.hub.emitChange e).2 }

/-- Announces a download event. -/
def emitDownload (e : DownloadEvent) : Act Unit :=
  modify fun w => { w with hub := (w.hub.emitDownload e).2 }

/-- Sends a notice from the download manager. -/
def notify (e : DownloadEvent) : Act Unit :=
  modify fun w => { w with notices := w.notices.push e }

/-- Calls the decoder. -/
def decoderCall (f : Decoder → Except HostError Unit × Decoder) : Act (Except HostError Unit) := do
  let w ← get
  let (r, d) := f w.decoder
  set { w with decoder := d }
  pure r

end World

end PlaybackEngine
