import PlaybackEngine.Download.Manager
import PlaybackEngine.Cache.Store
import PlaybackEngine.Snapshot

/-!
# Loading songs into the decoder

The player's plumbing: publishing the play state, unloading the decoder, stopping, and loading
the selected song.

Loading a song makes its content playable first. A content already committed to the cache is
played from its file, announced as fully buffered. Otherwise it is played from the file a
download is writing: the active download's, if that is the song's, or else a fresh one that
allocates the cache file and resumes from what the file already holds; the buffered share is
then what the file holds of the whole. The decoder gets the source for a new session and is
asked to prepare it.

A song that cannot be loaded is skipped: the next one is tried, until one loads or the queue
ends, which stops the player with nothing selected. Storage faults of a skipped song are also
announced on the download channel, since no transfer will announce them.

Prefetching starts the download of the song after the selected one, when prefetching is on, no
download is active and that content is not committed yet.
-/

set_option autoImplicit false

namespace PlaybackEngine.Player

open World

/-- Who the player's log entries come from. -/
def actorTarget : String := "core_playback::controller::actor"

/-- The player's own state. -/
def controller : Act Controller := do pure (← get).controller

/-- Changes the player's own state. -/
def modifyController (f : Controller → Controller) : Act Unit :=
  modify fun w => { w with controller := f w.controller }

/-- The queue. -/
def queue : Act PlayQueue := do pure (← controller).queue

/-- Replaces the queue and marks the state as changed. -/
def setQueue (q : PlayQueue) : Act Unit :=
  modifyController fun c => { c with queue := q, dirty := true }

/-- Selects a position, if the queue has it or it is `-1`, and marks the state as changed. -/
def selectPosition (p : Int) : Act Unit := do
  let q ← queue
  setQueue ((q.setPosition p).getD q)

/-- Moves to a play state, publishing it, if it is a new one. -/
def setState (s : PlayState) : Act Unit := do
  if (← controller).state ≠ s then
    modifyController fun c => { c with state := s, dirty := true }
    publish s

/-- Announces that the selected song plays. -/
def emitPlay : Act Unit := do
  let q ← queue
  match q.current with
  | some t => emitMove (.play q.position t)
  | none => pure ()

/-- A decoder number as a signed 64-bit value. -/
def signedWord (n : Nat) : Int := signedOfBits 64 n

/-- The playing position in milliseconds: `-1` when stopped, `0` while preparing, and otherwise
the decoder's position, or the recovered pause's offset when nothing is prepared. -/
def tell : Act Int := do
  let c ← controller
  match c.state with
  | .stopped => pure (-1)
  | .preparing => pure 0
  | .playing | .paused =>
    if c.prepared then pure (signedWord (← get).decoder.positionMs)
    else pure (c.pausedOffsetMs.getD 0)

/-- The length of the prepared song in milliseconds, `-1` if unknown or nothing is prepared. -/
def duration : Act Int := do
  if !(← controller).prepared then return -1
  pure (((← get).decoder.durationMs.map signedWord).getD (-1))

/-- Unloads the decoder's song, if one is loaded. -/
def teardown : Act Unit := do
  match (← controller).session with
  | none => pure ()
  | some s =>
    modifyController fun c => { c with session := none }
    discard (decoderCall (·.call .stop "stop"))
    match ← decoderCall (·.reset) with
    | .ok () => pure ()
    | .error e =>
      log .warn actorTarget "Decoder reset failed" [("track_id", toString s.track), ("error", e.message)]

/-- Stops playing: unloads the decoder, forgets the buffered share, and announces the stop if
the player was not stopped already. -/
def stop : Act Unit := do
  teardown
  let was := (← controller).state
  setState .stopped
  modifyController fun c => { c with pausedOffsetMs := none }
  modify fun w => { w with hub := w.hub.clearBuffer }
  if was ≠ .stopped then emitMove .stop

/-- The catalog entry of a track. -/
def lookupTrack (track : TrackId) : Attempt TrackInfo := do
  match (← get).catalog.lookup track with
  | some t => pure t
  | none => throw (.trackNotFound track)

/-- The request that downloads a track's content into a file, from an offset. -/
def downloadRequest (t : TrackInfo) (path : String) (offset : Nat) : DownloadRequest :=
  { track := t.id, url := t.url, destination := path, expectedLength := t.size,
    resumeOffset := offset, key := t.key }

/-- The playable source of a track: its committed file, or the file a download writes. -/
def materialize (track : TrackId) : Attempt (TrackInfo × DecoderSource) := do
  let t ← lookupTrack track
  match ← Cache.committedPath t with
  | some path =>
    emitBuffer track 100
    pure (t, .file path)
  | none =>
    let active := (Downloads.activeRecord (← get).manager).filter (·.track = track)
    let (path, percent) ← match active with
      | some d => pure (d.destination, d.progressPercent)
      | none => do
        let path ← Cache.requestStorage t
        let offset ← Cache.partialLength path
        discard (Downloads.start (downloadRequest t path offset))
        pure (path, progressPercent t.size offset)
    emitBuffer track percent
    pure (t, .growing path t.size)

/-- A session number never used before. -/
def freshSession : Act Nat := do
  let w ← get
  set { w with nextSession := w.nextSession + 1 }
  pure w.nextSession

/-- Loads a track into the decoder for a new session and asks it to prepare. -/
def openTrack (track : TrackId) : Attempt Session := do
  let (t, source) ← materialize track
  let id ← freshSession
  match ← decoderCall (·.setSource id source) with
  | .ok () => pure ()
  | .error e => throw (.decode e.message)
  match ← decoderCall (·.call .prepare "prepare") with
  | .ok () => pure ()
  | .error e => throw (.decode e.message)
  pure { id, track, key := t.key, path := source.path, prepared := false }

/-- Takes the session opened for the selected song of `q` as the song in output, paused or
preparing to play. -/
def adoptSession (paused : Bool) (q : PlayQueue) (track : TrackId) (s : Session) : Act Unit := do
  log .info actorTarget "Preparing track"
    [("track_id", toString track), ("position", toString q.position)]
  modifyController fun c => { c with session := some s, pausedOffsetMs := none }
  setState (if paused then .paused else .preparing)

/-- Gives up the selected song of `q`, which could not be opened: reports why (a storage fault
also on the download channel, since no transfer will), and selects the next song, or stops
with nothing selected at the end of the queue. Whether a song is selected. -/
def skipUnopenable (q : PlayQueue) (track : TrackId) (e : PlaybackError) : Act Bool := do
  log .warn actorTarget "Skipping track that could not be opened"
    [("track_id", toString track), ("error", e.message)]
  if e.isStorageError then emitDownload (.error track e.message false)
  let next := q.peekNext
  if next < 0 then
    stop
    selectPosition (-1)
    pure false
  else
    selectPosition next
    pure true

/-- Tries the selected song and, while songs fail to load, the ones after it; `fuel` bounds the
songs tried. Whether one loaded. -/
def loadFromSelected (paused : Bool) : Nat → Act Bool
  | 0 => do stop; pure false
  | fuel + 1 => do
    let q ← queue
    match q.current with
    | none => stop; pure false
    | some track =>
      match ← (openTrack track).run with
      | .ok s =>
        adoptSession paused q track s
        pure true
      | .error e =>
        if ← skipUnopenable q track e then loadFromSelected paused fuel
        else pure false

/-- Unloads the decoder and loads the selected song, or the first after it that loads, paused
or preparing to play. Whether one loaded; if none did, the player is stopped. -/
def startPlayback (paused : Bool) : Act Bool := do
  teardown
  loadFromSelected paused ((← queue).length + 1)

/-- Starts the download of a track's content unless it is committed already. -/
def prefetchTrack (track : TrackId) : Attempt Unit := do
  let t ← lookupTrack track
  if (← Cache.committedPath t).isSome then return
  let path ← Cache.requestStorage t
  let offset ← Cache.partialLength path
  discard (Downloads.start (downloadRequest t path offset))

/-- Starts the download of the song after the selected one, when prefetching is on and no
download is active. -/
def prefetch : Act Unit := do
  let c ← controller
  if !c.settings.prefetch || (← get).manager.active.isSome then return
  match c.queue.songAt c.queue.peekNext with
  | some track => discard (prefetchTrack track).run
  | none => pure ()

end PlaybackEngine.Player
