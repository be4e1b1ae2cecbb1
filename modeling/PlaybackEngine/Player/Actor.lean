import PlaybackEngine.Player.Controls
import PlaybackEngine.Download.Transfer

/-!
# The player task

The player runs as one task that takes messages one at a time: commands and queries from the
handles, signals (calls, connectivity), decoder callbacks and download notices. After each
message it saves the state file if anything changed. So the queue and play state have one
writer, and listeners see every change in the order it was made.

Transfers run when the player is idle: once every pending message is handled, the first ready
transfer runs to its end or its stall, and the notices it sends are handled in turn.

A stopped player takes no more messages: requests fail as stopped, and callbacks and notices
sent to it are lost.
-/

set_option autoImplicit false

namespace PlaybackEngine.Player

open World

/-- A command that changes the queue or the play state. -/
inductive Command where
  | play
  | pause
  | unpause
  | stop
  | seek (ms : Nat)
  | next
  | previous
  | jump (position : Int)
  | insert (track : TrackId) (position : Int)
  | prepend (track : TrackId)
  | append (track : TrackId)
  | insertNext (track : TrackId)
  | remove (position : Int)
  | move (src dst : Int)
  | clear
  deriving DecidableEq, Repr, Inhabited

/-- A question about the player. -/
inductive Query where
  | playlist
  | position
  | tell
  | duration
  | state
  | songAt (position : Int)
  | positionOf (track : TrackId)
  | peekNext
  | downloads
  deriving DecidableEq, Repr, Inhabited

/-- The answer to a query. -/
inductive Reply where
  | tracks (ids : List TrackId)
  | number (n : Int)
  | state (s : PlayState)
  | song (id : Option TrackId)
  | downloads (records : List Download)
  deriving Inhabited

/-- A signal from the host, sent without waiting for an answer. -/
inductive Signal where
  | call (s : CallState)
  | connectivityRestored
  deriving DecidableEq, Repr, Inhabited

/-- Who the player's start is logged by. -/
def controllerTarget : String := "core_playback::controller"

/-- Carries out a command. -/
def apply : Command → Act Unit
  | .play => play
  | .pause => pause
  | .unpause => unpause
  | .stop => stop
  | .seek ms => seek ms
  | .next => next
  | .previous => previous
  | .jump p => jump p
  | .insert t p => insert t p
  | .prepend t => insert t 0
  | .append t => do insert t (← queue).length
  | .insertNext t => do insert t ((← queue).position + 1)
  | .remove p => remove p
  | .move src dst => moveSong src dst
  | .clear => clear

/-- Answers a query. -/
def answer : Query → Act Reply
  | .playlist => do pure (.tracks (← queue).tracks)
  | .position => do pure (.number (← queue).position)
  | .tell => do pure (.number (← tell))
  | .duration => do pure (.number (← duration))
  | .state => do pure (.state (← controller).state)
  | .songAt p => do pure (.song ((← queue).songAt p))
  | .positionOf t => do pure (.number ((← queue).positionOf t))
  | .peekNext => do pure (.number (← queue).peekNext)
  | .downloads => do pure (.downloads (Downloads.tracked (← get).manager))

/-- Acts on a signal. -/
def onSignal : Signal → Act Unit
  | .call s => onCallState s
  | .connectivityRestored => discard Downloads.resume

/-- Handles one message on the player's task, then saves if anything changed. -/
def handle {α : Type} (a : Act α) : Act α :=
  detached do
    let r ← a
    saveIfDirty
    pure r

/-- Sends a message to the player and waits for it to be handled; a stopped player refuses. -/
def request {α : Type} (a : Act α) : Act (Except PlaybackError α) := do
  if !(← get).running then return .error .engineStopped
  pure (.ok (← handle a))

/-- Sends a command. -/
def command (c : Command) : Act (Except PlaybackError Unit) := request (apply c)

/-- Asks a query. -/
def query (q : Query) : Act (Except PlaybackError Reply) := request (answer q)

/-- Sends a signal. -/
def signal (s : Signal) : Act (Except PlaybackError Unit) := request (onSignal s)

/-- Ends the player's task: it shuts the player down and stops taking messages; what was
sent to it and not handled, such as the cancels of its own shutdown, is lost. -/
def halt : Act Unit := do
  detached do
    shutdown
    log .info actorTarget "Player controller stopped" []
  modify fun w => { w with running := false, notices := {}, decoderEvents := [] }

/-- Asks the player to shut down and waits for its task to end; a stopped player refuses. -/
def requestShutdown : Act (Except PlaybackError Unit) := do
  if !(← get).running then return .error .engineStopped
  halt
  pure (.ok ())

/-- Does one piece of pending work: takes up the recovered state when the task first runs,
handles the oldest decoder callback or download notice (lost if the player has stopped), or
else runs the first ready transfer. Whether there was any. -/
def settleOnce : Act Bool := do
  let w ← get
  match w.controller.recovered with
  | some snap =>
    set { w with controller := { w.controller with recovered := none } }
    if w.running then detached (restore snap)
    return true
  | none => pure ()
  match w.decoderEvents, w.notices.pop? with
  | e :: rest, _ =>
    set { w with decoderEvents := rest }
    if w.running then handle (onDecoderEvent e)
    pure true
  | [], some (e, rest) =>
    set { w with notices := rest }
    if w.running then handle (onDownloadEvent e)
    pure true
  | [], none =>
    match ← Downloads.nextReadyTask with
    | some t =>
      Downloads.runTask t
      pure true
    | none => pure false

/-- Does pending work until there is none, for at most `fuel` pieces. -/
def settleFor : Nat → Act Unit
  | 0 => pure ()
  | fuel + 1 => do
    if ← settleOnce then settleFor fuel

/-- More pieces of work than any run to idle takes: each piece handles one message or runs one
transfer, and every chain of them moves along the queue. -/
def settleBound : Nat := 1000000

/-- Does pending work until the player and its transfers are idle. -/
def settle : Act Unit := settleFor settleBound

/-- What a player is started with. -/
structure Setup where
  playback : PlaybackSettings
  download : DownloadSettings
  cache : CacheSettings
  stateFile : String
  deriving Repr, Inhabited

/-- Starts a player: a fresh cache store and download manager, the state recovered from the
state file, and the task started; the task takes up the recovered state when it first runs.
Fails if recovery fails. -/
def spawn (s : Setup) : Act (Except PlaybackError Unit) := do
  modify fun w => { w with store := { settings := s.cache }, manager := { settings := s.download } }
  match ← (Persistence.recover s.stateFile).run with
  | .error e => pure (.error e)
  | .ok recovered =>
    modify fun w => { w with controller := { settings := s.playback, stateFile := s.stateFile },
                             published := .stopped, running := true, decoderEvents := [] }
    log .info controllerTarget "Player controller started" []
    modifyController fun c => { c with recovered }
    pure (.ok ())

end PlaybackEngine.Player
