import PlaybackEngine.Listeners.Hub
import PlaybackEngine.Script.Events
import PlaybackEngine.Script.Step
import PlaybackEngine.Script.Engine

/-!
# Hub scenarios

A hub scenario makes a hub and runs steps on it. The scenario keeps its own list of
subscriptions, numbered from 0, each a channel and a mailbox; a subscription whose reader was
dropped can no longer be used. Every step answers its result with the channels' listener counts
and the tracked transfers after it.
-/

set_option autoImplicit false

namespace PlaybackEngine.Script

/-- A subscription the scenario holds: its channel, listener id and mailbox number, and
whether its reader has been dropped. -/
structure HeldSubscription where
  channel : ListenerChannel
  id : SubscriberId
  box : Nat
  dropped : Bool := false

/-- The hub and the subscriptions of a hub scenario. -/
structure HubBench where
  hub : Hub
  subs : List HeldSubscription := []

/-- A subscription still held, by its number. -/
def heldSubscription (b : HubBench) (i : Nat) : Except StepFault HeldSubscription :=
  match b.subs[i]? with
  | some s => if s.dropped then .error (.other "NoSuchSubscription" s!"no subscription {i}") else .ok s
  | none => .error (.other "NoSuchSubscription" s!"no subscription {i}")

/-- Takes every event waiting for a subscription, as JSON. -/
def drainSubscription (h : Hub) (s : HeldSubscription) : List Json × Hub :=
  match s.channel with
  | .moves => let (es, c) := h.moves.drain s.box; (es.map moveJson, { h with moves := c })
  | .changes => let (es, c) := h.changes.drain s.box; (es.map changeJson, { h with changes := c })
  | .buffers => let (es, c) := h.buffers.drain s.box; (es.map bufferJson, { h with buffers := c })
  | .downloads =>
    let (es, c) := h.downloads.drain s.box; (es.map downloadJson, { h with downloads := c })

/-- Closes a subscription's mailbox. -/
def closeSubscription (h : Hub) (s : HeldSubscription) : Hub :=
  match s.channel with
  | .moves => { h with moves := h.moves.close s.box }
  | .changes => { h with changes := h.changes.close s.box }
  | .buffers => { h with buffers := h.buffers.close s.box }
  | .downloads => { h with downloads := h.downloads.close s.box }

/-- Adds a subscription to the scenario's list and answers it. -/
def holdSubscription (ch : ListenerChannel) (r : (SubscriberId × Nat) × Hub) : Step HubBench Json := do
  let ((id, box), h) := r
  let b ← get
  let held : HeldSubscription := { channel := ch, id, box }
  set { b with hub := h, subs := b.subs ++ [held] }
  pure (.obj [("sub", Json.nat b.subs.length), ("id", .str s!"sub-{id}")])

/-- One step of a hub scenario. -/
def hubStep (step : Json) : Step HubBench Json := do
  let name ← readStep (required stringValue step "do")
  let b ← get
  let h := b.hub
  match name with
  | "subscribe" =>
    let ch ← readStep (channelOf (← readStep (required stringValue step "channel")))
    if h.capacity > Hub.maxMailbox then throw (.halt Hub.oversizedMailboxMessage)
    holdSubscription ch (h.subscribe ch)
  | "register" =>
    let ch ← readStep (channelOf (← readStep (required stringValue step "channel")))
    let capacity ← readStep (required unsignedValue step "capacity")
    if capacity = 0 then throw (.request (.invalid "capacity must be positive"))
    let closed ← readStep (withDefault boolValue step "closed" false)
    if capacity > Hub.maxMailbox then throw (.halt Hub.oversizedMailboxMessage)
    holdSubscription ch (h.register ch capacity closed)
  | "recv" =>
    let i ← readStep (required unsignedValue step "sub")
    let s ← liftM (heldSubscription b i)
    let (events, h') := drainSubscription h s
    set { b with hub := h' }
    pure (.arr events)
  | "drop" =>
    let i ← readStep (required unsignedValue step "sub")
    let s ← liftM (heldSubscription b i)
    set { b with hub := closeSubscription h s,
                 subs := b.subs.set i { s with dropped := true } }
    pure .null
  | "unregister" =>
    let ch ← readStep (channelOf (← readStep (required stringValue step "channel")))
    let i ← readStep (required unsignedValue step "sub")
    let s ← liftM (heldSubscription b i)
    let (removed, h') := h.unregister ch s.id
    set { b with hub := h' }
    pure (.bool removed)
  | "emit_move" =>
    let e ← readStep (moveOf (← readStep (need step "event")))
    let (n, h') := h.emitMove e
    set { b with hub := h' }
    pure (Json.nat n)
  | "emit_change" =>
    let e ← readStep (changeOf (← readStep (need step "event")))
    let (n, h') := h.emitChange e
    set { b with hub := h' }
    pure (Json.nat n)
  | "emit_download" =>
    let e ← readStep (downloadOf (← readStep (need step "event")))
    let (n, h') := h.emitDownload e
    set { b with hub := h' }
    pure (Json.nat n)
  | "emit_buffer" =>
    let t ← readStep (required signedValue step "track")
    let p ← readStep (required u8Value step "percent")
    let (n, h') := h.emitBuffer t p
    set { b with hub := h' }
    pure (Json.nat n)
  | "clear_buffer" =>
    set { b with hub := h.clearBuffer }
    pure .null
  | "current_buffer" => pure (Json.opt bufferJson h.buffer)
  | "tracked_transfers" => pure (.arr (h.trackedTransfers.map Json.int))
  | "subscriber_count" =>
    let ch ← readStep (channelOf (← readStep (required stringValue step "channel")))
    pure (Json.nat (h.subscriberCount ch))
  | "describe_move" =>
    let e ← readStep (moveOf (← readStep (need step "event")))
    pure (.str e.description)
  | "download_track_id" =>
    let e ← readStep (downloadOf (← readStep (need step "event")))
    pure (Json.int e.track)
  | "debug" => pure (.str h.debugText)
  | other => throw (.request (.unknown "hub step" other))
where
  liftM {α : Type} (r : Except StepFault α) : Step HubBench α :=
    match r with
    | .ok v => pure v
    | .error e => throw e

/-- The listener counts of the four channels. -/
def hubCounts (h : Hub) : Json :=
  .arr [Json.nat h.moves.count, Json.nat h.changes.count, Json.nat h.buffers.count,
    Json.nat h.downloads.count]

/-- Runs the steps in order; a failed step leaves the scenario as it was, and a halted one ends
the run with the panic's message. -/
def hubSteps (b : HubBench) : List Json → Except String (List Json)
  | [] => .ok []
  | step :: rest => do
    let (result, b') ← runStepOrHalt b (hubStep step)
    let entry := Json.obj [("result", result), ("counts", hubCounts b'.hub),
      ("tracked", .arr (b'.hub.trackedTransfers.map Json.int))]
    pure (entry :: (← hubSteps b' rest))

/-- The answer to a hub scenario. -/
def hubAnswer (req : Json) : Read Logged := do
  let useDefault ← withDefault boolValue req "default" false
  let capacity ← withDefault unsignedValue req "capacity" Hub.defaultCapacity
  let steps ← withDefault arrayValue req "steps" []
  let hub := Hub.create (if useDefault then Hub.defaultCapacity else capacity)
  match hubSteps { hub } steps with
  | .ok entries => pure (.quiet (.obj [("steps", .arr entries)]))
  | .error m => pure (.quiet (failure "Panic" m))

end PlaybackEngine.Script
