import PlaybackEngine.Host.Telephony
import PlaybackEngine.Host.Network

/-!
# Change streams and their watchers

A host monitor reports changes (call states, network reports) on a stream. The host writes to
it; the reading end stays with the monitor until a watcher subscribes and takes it over. A
value sent while someone holds the reading end is queued; once the reading end is dropped,
sends fail. The host can also close the stream, after which sends fail and the watcher, having
read what was queued, sees the stream end.

A watcher starts by subscribing. If subscribing fails the watcher ends at once: the call
monitor keeps the reading end for good, so sends still succeed though nobody reads them, while
the network monitor drops it. A watcher that ends otherwise drops the reading end.
-/

set_option autoImplicit false

namespace PlaybackEngine.Service

/-- Who holds a stream's reading end. -/
inductive Reader where
  /-- The monitor, until a watcher subscribes. -/
  | monitor
  /-- A watcher that runs. -/
  | watcher
  /-- Nobody: the reading end was dropped. -/
  | gone
  deriving DecidableEq, Repr, Inhabited

/-- A change stream: whether the host's end is still open, who holds the reading end, and the
values sent and not yet read. -/
structure Feed (α : Type) where
  writable : Bool := true
  reader : Reader := .monitor
  queued : List α := []
  deriving Repr, Inhabited

namespace Feed

variable {α : Type}

/-- Sends a value; whether it was taken. -/
def send (f : Feed α) (v : α) : Bool × Feed α :=
  if f.writable && f.reader != .gone then (true, { f with queued := f.queued ++ [v] })
  else (false, f)

/-- Closes the host's end; whether it was open. -/
def close (f : Feed α) : Bool × Feed α := (f.writable, { f with writable := false })

/-- Drops the reading end. -/
def drop (f : Feed α) : Feed α := { f with reader := .gone, queued := [] }

end Feed

/-- How far a watcher is. -/
inductive Phase where
  /-- Started, not yet subscribed. -/
  | starting
  /-- Subscribed and reading. -/
  | running
  /-- Ended. -/
  | ended
  deriving DecidableEq, Repr, Inhabited

/-- The call-state monitor, its stream, and the watcher that forwards call states to the
player. -/
structure CallWatch where
  feed : Feed CallState := {}
  failSubscribe : Bool := false
  phase : Phase := .starting
  deriving Repr, Inhabited

/-- The network monitor, its stream, and the watcher that tells the player when connectivity
comes back: the first report (`none` if probing fails), and whether the watcher last saw the
host connected. -/
structure NetworkWatch where
  feed : Feed NetworkInfo := {}
  failSubscribe : Bool := false
  initial : Option NetworkStatus := some .connected
  connected : Bool := false
  phase : Phase := .starting
  deriving Repr, Inhabited

/-- A watcher that stops: it drops the reading end if it held it. -/
def stopFeed {α : Type} (f : Feed α) : Feed α :=
  if f.reader = .watcher then f.drop else f

/-- Ends the call watcher. -/
def CallWatch.stop (c : CallWatch) : CallWatch :=
  { c with phase := .ended, feed := stopFeed c.feed }

/-- Ends the network watcher. -/
def NetworkWatch.stop (n : NetworkWatch) : NetworkWatch :=
  { n with phase := .ended, feed := stopFeed n.feed }

end PlaybackEngine.Service
