import PlaybackEngine.Table
import PlaybackEngine.Listeners.Event

/-!
# The listener hub

The hub fans events out to listeners on four channels. Each listener has a mailbox of bounded
capacity; delivering to a mailbox that is full, or whose reader has gone, fails, and the hub
then forgets that listener. Every listener gets an id `sub-N`, numbered from 1 across all
channels.

The hub remembers two things for listeners that come late:

- the buffered share last announced, which a new buffer listener receives first; announcing the
  same share again reaches no one;
- a table of the transfers under way, by track, which a new download listener receives as a
  `begin`, a `progress`, and an `error` that may pass if the transfer is paused. A transfer
  enters the table when it begins or progresses, is marked paused by an error that may pass,
  and leaves it when it finishes, is cancelled, or fails for good.

A late listener that cannot take everything it is owed is not added.
-/

set_option autoImplicit false

namespace PlaybackEngine

-- Powers by core's `Nat.pow` and `Int.pow`, also where an algebra library is loaded, so that
-- each definition means the same wherever it is built.
attribute [local instance (high)] instPowNat

/-- The id of a listener. -/
abbrev SubscriberId := Nat

/-- A listener's mailbox: its capacity, the events waiting in it (oldest first), and whether
its reader has gone. -/
structure Mailbox (E : Type) where
  capacity : Nat
  queued : List E := []
  closed : Bool := false
  deriving Repr, Inhabited

namespace Mailbox

variable {E : Type}

/-- The mailbox with `e` added, unless it is full or its reader has gone. -/
def deliver (b : Mailbox E) (e : E) : Option (Mailbox E) :=
  if b.closed || b.queued.length ≥ b.capacity then none
  else some { b with queued := b.queued ++ [e] }

/-- Delivers events in order until one fails: the mailbox after the events that went in,
and whether all did. -/
def deliverAll (b : Mailbox E) : List E → Mailbox E × Bool
  | [] => (b, true)
  | e :: es =>
    match b.deliver e with
    | some b' => deliverAll b' es
    | none => (b, false)

/-- Takes every waiting event. -/
def drain (b : Mailbox E) : List E × Mailbox E := (b.queued, { b with queued := [] })

end Mailbox

/-- The listeners of one channel, in the order they were added, with the mailbox each
delivers to; `boxes` holds every mailbox opened on the channel, by number. -/
structure Channel (E : Type) where
  boxes : List (Mailbox E) := []
  listeners : List (SubscriberId × Nat) := []
  deriving Repr, Inhabited

namespace Channel

variable {E : Type}

/-- Opens a mailbox, giving its number. -/
def openBox (c : Channel E) (capacity : Nat) (closed : Bool) : Nat × Channel E :=
  (c.boxes.length, { c with boxes := c.boxes ++ [{ capacity, closed }] })

/-- Adds a listener that delivers to mailbox `k`. -/
def add (c : Channel E) (id : SubscriberId) (k : Nat) : Channel E :=
  { c with listeners := c.listeners ++ [(id, k)] }

/-- Forgets every listener with id `id`; whether there was one. -/
def remove (c : Channel E) (id : SubscriberId) : Bool × Channel E :=
  let kept := c.listeners.filter (·.1 != id)
  (kept.length != c.listeners.length, { c with listeners := kept })

/-- Sends `e` to every listener, forgetting those whose delivery fails. -/
def broadcast (c : Channel E) (e : E) : Channel E :=
  let step := fun (acc : List (SubscriberId × Nat) × List (Mailbox E)) (l : SubscriberId × Nat) =>
    match acc.2[l.2]? with
    | some b =>
      match b.deliver e with
      | some b' => (acc.1 ++ [l], acc.2.set l.2 b')
      | none => acc
    | none => acc
  let (kept, boxes) := c.listeners.foldl step ([], c.boxes)
  { boxes, listeners := kept }

/-- The number of listeners. -/
def count (c : Channel E) : Nat := c.listeners.length

/-- Takes every event waiting in mailbox `k`. -/
def drain (c : Channel E) (k : Nat) : List E × Channel E :=
  match c.boxes[k]? with
  | some b => let (es, b') := b.drain; (es, { c with boxes := c.boxes.set k b' })
  | none => ([], c)

/-- Closes mailbox `k`: its reader has gone. -/
def close (c : Channel E) (k : Nat) : Channel E :=
  { c with boxes := c.boxes.modify k fun b => { b with closed := true, queued := [] } }

/-- Delivers replayed events to mailbox `k` and adds listener `id` if all went in. -/
def addReplaying (c : Channel E) (id : SubscriberId) (k : Nat) (replay : List E) : Channel E :=
  match c.boxes[k]? with
  | some b =>
    let (b', ok) := b.deliverAll replay
    let c' := { c with boxes := c.boxes.set k b' }
    if ok then c'.add id k else c'
  | none => c

end Channel

/-- What the hub knows of a transfer under way. -/
structure TransferProgress where
  totalBytes : Nat
  downloadedBytes : Nat
  paused : Option String
  deriving DecidableEq, Repr, Inhabited

/-- The hub: its channels, the capacity of the mailboxes it opens, the next listener id, the
last buffered share announced, and the transfers under way. -/
structure Hub where
  capacity : Nat
  nextId : Nat := 1
  moves : Channel MoveEvent := {}
  changes : Channel ChangeEvent := {}
  buffers : Channel BufferEvent := {}
  downloads : Channel DownloadEvent := {}
  buffer : Option BufferEvent := none
  transfers : Table TransferProgress := []
  deriving Repr, Inhabited

namespace Hub

/-- The largest capacity a mailbox can be opened with; asking for more is a broken invariant
that stops the run. -/
def maxMailbox : Nat := 2 ^ (61 : Nat) - 1

/-- The message of a mailbox asked to be larger than the largest one. -/
def oversizedMailboxMessage : String :=
  s!"a semaphore may not have more than MAX_PERMITS permits ({maxMailbox})"

/-- A hub whose mailboxes hold `capacity` events, at least one. -/
def create (capacity : Nat) : Hub := { capacity := max capacity 1 }

/-- The mailbox capacity of a hub made without one. -/
def defaultCapacity : Nat := 64

/-- The events that bring a late download listener up to date, by track. -/
def replayTransfers (h : Hub) : List DownloadEvent :=
  h.transfers.flatMap fun (t, p) =>
    [.begin t p.totalBytes, .progress t p.downloadedBytes p.totalBytes] ++
      (match p.paused with
       | some m => [.error t m true]
       | none => [])

/-- The transfer table after a download event. -/
def trackTransfer (transfers : Table TransferProgress) : DownloadEvent → Table TransferProgress
  | .begin t total =>
    let downloaded := match transfers.get? t with
      | some p => p.downloadedBytes
      | none => 0
    transfers.insert t ⟨total, downloaded, none⟩
  | .progress t downloaded total => transfers.insert t ⟨total, downloaded, none⟩
  | .error t m true => transfers.modify t fun p => { p with paused := some m }
  | .error t _ false => transfers.erase t
  | .finish t => transfers.erase t
  | .cancel t => transfers.erase t

/-- Takes the next listener id. -/
def takeId (h : Hub) : SubscriberId × Hub := (h.nextId, { h with nextId := h.nextId + 1 })

/-- Sends a move to its listeners; how many remain. -/
def emitMove (h : Hub) (e : MoveEvent) : Nat × Hub :=
  let c := h.moves.broadcast e
  (c.count, { h with moves := c })

/-- Sends a queue change to its listeners; how many remain. -/
def emitChange (h : Hub) (e : ChangeEvent) : Nat × Hub :=
  let c := h.changes.broadcast e
  (c.count, { h with changes := c })

/-- Announces a buffered share, at most 100; the same share as the last one reaches no one.
How many listeners remain. -/
def emitBuffer (h : Hub) (track : TrackId) (percent : Nat) : Nat × Hub :=
  let e : BufferEvent := ⟨track, min percent 100⟩
  if h.buffer = some e then (h.buffers.count, h)
  else
    let c := h.buffers.broadcast e
    (c.count, { h with buffer := some e, buffers := c })

/-- Forgets the buffered share. -/
def clearBuffer (h : Hub) : Hub := { h with buffer := none }

/-- Records and sends a download event; how many listeners remain. -/
def emitDownload (h : Hub) (e : DownloadEvent) : Nat × Hub :=
  let c := h.downloads.broadcast e
  (c.count, { h with transfers := trackTransfer h.transfers e, downloads := c })

/-- The tracks of the transfers under way, ascending. -/
def trackedTransfers (h : Hub) : List TrackId := h.transfers.keys

/-- The number of listeners on a channel. -/
def subscriberCount (h : Hub) : ListenerChannel → Nat
  | .moves => h.moves.count
  | .changes => h.changes.count
  | .buffers => h.buffers.count
  | .downloads => h.downloads.count

/-- Forgets a listener of a channel; whether it was there. -/
def unregister (h : Hub) (ch : ListenerChannel) (id : SubscriberId) : Bool × Hub :=
  match ch with
  | .moves => let (b, c) := h.moves.remove id; (b, { h with moves := c })
  | .changes => let (b, c) := h.changes.remove id; (b, { h with changes := c })
  | .buffers => let (b, c) := h.buffers.remove id; (b, { h with buffers := c })
  | .downloads => let (b, c) := h.downloads.remove id; (b, { h with downloads := c })

/-- Opens a mailbox on a channel and adds a listener to it, first delivering what a late
listener is owed. Gives the listener's id and the mailbox's number. -/
def register (h : Hub) (ch : ListenerChannel) (capacity : Nat) (closed : Bool) :
    (SubscriberId × Nat) × Hub :=
  let (id, h) := h.takeId
  match ch with
  | .moves =>
    let (k, c) := h.moves.openBox capacity closed
    ((id, k), { h with moves := c.add id k })
  | .changes =>
    let (k, c) := h.changes.openBox capacity closed
    ((id, k), { h with changes := c.add id k })
  | .buffers =>
    let (k, c) := h.buffers.openBox capacity closed
    let replay := match h.buffer with
      | some e => [e]
      | none => []
    ((id, k), { h with buffers := c.addReplaying id k replay })
  | .downloads =>
    let (k, c) := h.downloads.openBox capacity closed
    ((id, k), { h with downloads := c.addReplaying id k h.replayTransfers })

/-- Adds a listener whose mailbox has the hub's capacity. -/
def subscribe (h : Hub) (ch : ListenerChannel) : (SubscriberId × Nat) × Hub :=
  h.register ch h.capacity false

/-- The diagnostic form of a hub: its listener counts and tracked transfers. -/
def debugText (h : Hub) : String :=
  s!"ListenerHub \x7b move_subscribers: {h.moves.count}, change_subscribers: {h.changes.count}, " ++
  s!"buffer_subscribers: {h.buffers.count}, download_subscribers: {h.downloads.count}, " ++
  s!"tracked_transfers: {h.transfers.length} \x7d"

end Hub

end PlaybackEngine
