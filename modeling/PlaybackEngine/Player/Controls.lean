import PlaybackEngine.Player.Playback
import PlaybackEngine.Player.Persistence
import PlaybackEngine.Host.Telephony

/-!
# The player's controls

What the player does for each command, decoder callback, download notice and signal.

* Jumping selects a position and loads its song, keeping a pause paused; `-1` stops and selects
  nothing. Moving to the next song jumps there, or stops at the end of the queue. Moving back
  restarts the song instead when it has played for less than the restart threshold.
* Playing loads the selected song, or the first one when nothing is selected; unpausing starts
  the prepared decoder, keeps waiting for an unprepared one, and loads a recovered pause from
  its start.
* Queue edits announce the change. Inserting into a stopped player plays the inserted song;
  inserting right after the selection, or moving songs so that another one comes next,
  prefetches the new next song. Removing the song in output stops it first.
* A prepared callback starts playback if the player was preparing; a completion or a decode
  error skips to the next song. Callbacks of a session that is no longer loaded are ignored.
* Download notices are passed on to listeners; they drive the buffered share of the song in
  output, prefetch after a finished download, release the storage of failed and superseded
  transfers, and skip the song in output when its download failed for good.
* A call that rings audibly or is answered pauses playback, and the call's end resumes it.

The play state and queue are saved after every message that changed them; a save that fails is
tried again after the next message.
-/

set_option autoImplicit false

namespace PlaybackEngine.Player

-- Powers by core's `Nat.pow` and `Int.pow`, also where an algebra library is loaded, so that
-- each definition means the same wherever it is built.
attribute [local instance (high)] instPowNat

open World

/-- Selects a position and loads its song, keeping a pause paused; `-1` stops and selects
nothing. Positions outside the queue are ignored. -/
def jump (position : Int) : Act Unit :=
  inSpan "jump" do
    let q ← queue
    if position < -1 || position ≥ q.length then return
    if position = -1 then
      if (← controller).state.isOutputting then stop
      selectPosition (-1)
      return
    selectPosition position
    match (← queue).current with
    | some t => emitMove (.jump position t)
    | none => pure ()
    let was := (← controller).state
    let loaded ← startPlayback (was = .paused)
    if !loaded && was = .stopped then emitMove .stop
    prefetch

/-- Jumps to the next song, or stops with nothing selected at the end of the queue. -/
def next : Act Unit := do
  let n := (← queue).peekNext
  if n ≥ 0 then jump n
  else
    stop
    selectPosition (-1)

/-- Drops the song in output and moves to the next one. -/
def skipCurrent : Act Unit := do
  match (← controller).session with
  | some s =>
    modifyController fun c => { c with session := none }
    match ← decoderCall (·.reset) with
    | .ok () => pure ()
    | .error e =>
      log .warn actorTarget "Decoder reset failed" [("track_id", toString s.track), ("error", e.message)]
  | none => pure ()
  next

/-- Resumes a pause: starts a prepared decoder, waits for an unprepared one, and loads a
recovered pause's song from its start. -/
def unpause : Act Unit := do
  let c ← controller
  if c.state ≠ .paused then return
  match c.session.map (·.prepared) with
  | some true =>
    match ← decoderCall (·.call .start "start") with
    | .error e =>
      log .warn actorTarget "Decoder refused to start" [("error", e.message)]
      skipCurrent
      return
    | .ok () => setState .playing
  | some false => setState .preparing
  | none => if !(← startPlayback false) then return
  modifyController fun c => { c with pausedOffsetMs := none }
  emitMove .unpause

/-- Plays: resumes a pause, or loads the selected song (the first one if none is selected). -/
def play : Act Unit := do
  match (← controller).state with
  | .paused => unpause
  | .playing | .preparing => pure ()
  | .stopped =>
    let q ← queue
    if q.position < 0 then
      if q.tracks.isEmpty then return
      selectPosition 0
    if ← startPlayback false then emitPlay

/-- Pauses playback, or a song still preparing, announcing the position it paused at. -/
def pause : Act Unit := do
  match (← controller).state with
  | .playing =>
    match ← decoderCall (·.call .pause "pause") with
    | .error e => log .warn actorTarget "Decoder refused to pause" [("error", e.message)]
    | .ok () => pure ()
    let position ← tell
    setState .paused
    emitMove (.pause position)
  | .preparing =>
    setState .paused
    emitMove (.pause 0)
  | .paused | .stopped => pure ()

/-- Seeks the prepared song, if it plays or is paused. -/
def seek (ms : Nat) : Act Unit := do
  let c ← controller
  if !c.prepared || !(c.state = .playing || c.state = .paused) then return
  match ← decoderCall (·.seekTo ms) with
  | .ok () => emitMove (.seek ms)
  | .error e =>
    log .warn actorTarget "Seek failed" [("position_ms", toString ms), ("error", e.message)]

/-- Moves back: restarts a song that has played for less than the restart threshold, and
otherwise jumps to the previous song, from the first to the last. An empty queue stops. -/
def previous : Act Unit := do
  let q ← queue
  if q.tracks.isEmpty then
    stop
    selectPosition (-1)
    return
  let c ← controller
  if c.state.isPlaying then
    let elapsed := max (← tell) 0
    if elapsed < c.settings.restartThresholdMs then
      if c.prepared then seek 0
      return
  let target := if q.position ≤ 0 then (q.length : Int) - 1 else q.position - 1
  jump target

/-- Inserts a song; a stopped player plays it, and one inserted right after the selection is
prefetched. -/
def insert (track : TrackId) (position : Int) : Act Unit := do
  match (← queue).insert track position with
  | none => pure ()
  | some q =>
    setQueue q
    emitChange (.insert position track)
    if (← controller).state = .stopped then
      selectPosition position
      play
    else if position = q.position + 1 then prefetch

/-- Removes a song, stopping it first if it is in output. -/
def remove (position : Int) : Act Unit := do
  let q ← queue
  match q.songAt position with
  | none => pure ()
  | some track =>
    if position = q.position && (← controller).state.isOutputting then stop
    match (← queue).remove position with
    | some (_, q') =>
      setQueue q'
      emitChange (.remove position track q'.position)
    | none => pure ()

/-- Moves a song, prefetching when another song comes next. -/
def moveSong (src dst : Int) : Act Unit := do
  let q ← queue
  let nextBefore := q.songAt q.peekNext
  match q.move src dst with
  | none => pure ()
  | some q' =>
    setQueue q'
    emitChange (.move src dst)
    if q'.songAt q'.peekNext ≠ nextBefore then prefetch

/-- Stops and empties the queue. -/
def clear : Act Unit := do
  stop
  setQueue (← queue).clear
  emitChange .clear

/-- Pauses for a call that rings audibly or is answered, and resumes when a call that paused
playback ends. -/
def onCallState (s : CallState) : Act Unit := do
  let c ← controller
  if s.interruptsPlayback then
    if c.state.isPlaying then
      log .info actorTarget "Pausing for call" [("state", s.debugText)]
      pause
      modifyController fun c => { c with resumeAfterCall := true }
  else if s = .idle && c.resumeAfterCall then
    log .info actorTarget "Call ended, resuming" []
    modifyController fun c => { c with resumeAfterCall := false }
    unpause

/-- Handles a decoder callback about the loaded session. -/
def onDecoderEvent (e : DecoderEvent) : Act Unit := do
  let c ← controller
  match c.session with
  | none => pure ()
  | some s =>
    if s.id ≠ e.session then return
    let track := s.track
    match e.kind with
    | .prepared =>
      modifyController fun c => { c with session := some { s with prepared := true } }
      if c.state = .preparing then
        match ← decoderCall (·.call .start "start") with
        | .error err =>
          log .warn actorTarget "Decoder refused to start"
            [("track_id", toString track), ("error", err.message)]
          skipCurrent
        | .ok () => setState .playing
    | .completion =>
      log .info actorTarget "Track completed" [("track_id", toString track)]
      skipCurrent
    | .error code message =>
      log .warn actorTarget "Decode error, skipping track"
        [("track_id", toString track), ("code", toString code), ("error", message)]
      match Downloads.snapshot (← get).manager track with
      | some d =>
        if d.state.isPaused || d.state.isPermanentFailure then
          let cause := d.lastError.getD ""
          emitDownload (.error track s!"playback failed ({message}): {cause}" d.state.isPaused)
      | none => pure ()
      skipCurrent
    | .buffering percent => emitBuffer track percent

/-- Releases the storage of a content, noting a failure. -/
def releaseQuietly (track : TrackId) (key : CacheKey) (path : String) : Act Unit := do
  match ← (Cache.releaseStorage key path).run with
  | .ok () => pure ()
  | .error e =>
    log .warn actorTarget "Failed to release cache storage"
      [("track_id", toString track), ("error", e.message)]

/-- Releases the storage of a cancelled transfer, unless its file is still written or played. -/
def releaseSuperseded (track : TrackId) : Act Unit := do
  let w ← get
  match Downloads.requestFor w.manager track with
  | none => pure ()
  | some req =>
    let written := (Downloads.activeRecord w.manager).any (Path.same ·.destination req.destination)
    let played := w.controller.session.any (Path.same ·.path req.destination)
    if written || played then return
    releaseQuietly track req.key req.destination

/-- Releases the storage of a track whose download failed for good: the loaded song's, if it is
that track, else the track's transfer's. -/
def releaseFailed (track : TrackId) : Act Unit := do
  let w ← get
  let target := match w.controller.session.filter (·.track == track) with
    | some s => some (s.key, s.path)
    | none => (Downloads.requestFor w.manager track).map fun r => (r.key, r.destination)
  match target with
  | some (key, path) => releaseQuietly track key path
  | none => pure ()

/-- Passes a download notice on to listeners and acts on it. -/
def onDownloadEvent (e : DownloadEvent) : Act Unit := do
  emitDownload e
  let current := (← controller).session.map (·.track)
  match e with
  | .progress track downloaded total =>
    if current = some track && total > 0 then emitBuffer track (progressPercent total downloaded)
  | .finish track =>
    if current = some track then emitBuffer track 100
    prefetch
  | .error track _ false =>
    releaseFailed track
    if current = some track then
      log .info actorTarget "Download failed permanently, skipping track" [("track_id", toString track)]
      skipCurrent
  | .cancel track => releaseSuperseded track
  | _ => pure ()

/-- The largest paused offset a snapshot holds. -/
def maxOffsetMs : Int := 2 ^ (31 : Nat) - 1

/-- What the player saves, with the offset a pause stands at. -/
def snapshotOf (c : Controller) (offset : Int) : Snapshot :=
  { tracks := c.queue.tracks, position := c.queue.position, playing := c.state.isOutputting,
    paused := c.state = .paused, pausedOffsetMs := max 0 (min offset maxOffsetMs) }

/-- Saves the queue and play state; the state stays marked as changed if the save fails. -/
def save : Act Unit := do
  let c ← controller
  let offset ← if c.state = .paused then tell else pure 0
  match ← (Persistence.save c.stateFile (snapshotOf c offset)).run with
  | .ok () => modifyController fun c => { c with dirty := false }
  | .error e => log .warn actorTarget "Failed to save playback state" [("error", e.message)]

/-- Saves if anything changed since the last save. -/
def saveIfDirty : Act Unit := do
  if (← controller).dirty then save

/-- Takes up a recovered snapshot: its queue, and a session that was in output, paused (to be
loaded on unpause) or loaded again to play. -/
def restore (s : Snapshot) : Act Unit := do
  modifyController fun c => { c with queue := PlayQueue.ofParts s.tracks s.position }
  let q ← queue
  if !s.playing || q.position < 0 then return
  if s.paused then
    modifyController fun c => { c with state := .paused, pausedOffsetMs := some (max s.pausedOffsetMs 0).toNat }
    publish .paused
    log .info actorTarget "Restored paused session"
      [("position", toString q.position), ("offset_ms", toString s.pausedOffsetMs)]
  else if ← startPlayback false then emitPlay

/-- Shuts the player down: saves, stops the transfers and unloads the decoder. -/
def shutdown : Act Unit := do
  save
  Downloads.stopAll
  teardown
  modify fun w => { w with hub := w.hub.clearBuffer }
  log .info actorTarget "Player controller shut down" []

end PlaybackEngine.Player
