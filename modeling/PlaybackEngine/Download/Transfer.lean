import PlaybackEngine.Download.Manager
import PlaybackEngine.Cache.Store

/-!
# Transfers

A transfer fetches a request's content into its destination file and commits it to the cache.

1. It resumes from the requested offset only if the transport can resume and the file already
   holds exactly that many bytes; otherwise it starts from zero. A file that already holds the
   whole content is committed at once.
2. It asks the transport for the content from that offset. If the answer starts elsewhere, it
   starts over from zero, asking again unless the answer already started at zero; an answer
   from zero that still starts elsewhere is a remote failure.
3. It writes the body chunk by chunk, appending when resuming and rewriting otherwise, never
   past the expected length, and announces progress after each chunk when the progress interval
   is zero.
4. A body shorter than expected is a remote failure; a full one is committed.

Failures end in a state: an HTTP error and file faults fail for good; a remote fault, or a
write fault on an unmounted volume, pauses the transfer so that it can be resumed.

A finished or failed transfer updates its record, if it still owns it, frees the active slot
and announces its end; a transfer whose record was aborted or replaced ends silently.
-/

set_option autoImplicit false

namespace PlaybackEngine.Downloads

open World

/-- Who the transfers' log entries come from. -/
def workerTarget : String := "core_playback::download::worker"

/-- Why a transfer stopped: the state it ends in and the message. -/
structure TransferFailure where
  state : DownloadState
  message : String
  deriving DecidableEq, Repr

/-- A remote failure, which pauses the transfer. -/
def remoteFailure (m : String) : TransferFailure := ⟨.pausedRemoteFailure, m⟩

/-- A file failure, which ends the transfer for good. -/
def fileFailure (m : String) : TransferFailure := ⟨.fileError, m⟩

/-- How far a transfer got when it stopped running. -/
inductive Outcome where
  /-- It ended, well or with a failure. -/
  | ended (r : Except TransferFailure Unit)
  /-- It waits on a stalled body, with this many bytes in the file. -/
  | stalled (written : Nat)

/-- How reading a body stopped. -/
inductive BodyStop where
  /-- The body ended, with this many bytes in the file. -/
  | complete (written : Nat)
  /-- The body stalled, with this many bytes in the file. -/
  | stalled (written : Nat)

/-- Transfer work that can fail. -/
abbrev Work := ExceptT TransferFailure Act

/-- The failure of a write fault: it pauses the transfer if the volume is unmounted. -/
def writeFailure (m : String) : Act TransferFailure := do
  if (← get).volume.info.mounted then pure (fileFailure m)
  else pure ⟨.pausedLocalFailure, m⟩

/-- The offset the transfer can resume from. -/
def usableOffset (req : DownloadRequest) : Work Nat := do
  if req.resumeOffset = 0 then return 0
  let w ← get
  if !w.transport.supportsResume then return 0
  match w.volume.fileLen req.destination with
  | .error e => throw (fileFailure e.message)
  | .ok existing => pure (if existing = some req.resumeOffset then req.resumeOffset else 0)

/-- Asks the transport for the content from an offset. -/
def openBody (req : DownloadRequest) (offset : Nat) : Work Response := do
  let w ← get
  let (r, t) := w.transport.request req.url offset
  set { w with transport := t }
  match r with
  | .ok resp => pure resp
  | .error (.http status m) => throw ⟨.httpError, s!"HTTP {status}: {m}"⟩
  | .error e => throw (remoteFailure e.message)

/-- Commits the file to the cache. -/
def commit (req : DownloadRequest) : Work Unit := do
  match ← (Cache.commitStorage req.key req.destination req.expectedLength).run with
  | .ok () => pure ()
  | .error e => throw (fileFailure s!"commit failed: {e.message}")

/-- Opens the destination for writing: appending from a positive offset, else from the start. -/
def openWriter (req : DownloadRequest) (offset : Nat) : Work Unit := do
  let w ← get
  let opened := if offset > 0 then w.volume.openAppendStream req.destination
    else w.volume.openWriteStream req.destination
  match opened with
  | .ok v => set { w with volume := v }
  | .error e => throw (← writeFailure e.message)

/-- Writes the rest of a body in chunks: `remaining` bytes are left, the next is byte `source`
of the url's content, and `written` bytes are in the file. -/
def copyBody (n : Nat) (req : DownloadRequest) (chunk : Nat) (progress : Bool) (ending : BodyEnd) :
    Nat → Nat → Nat → Work BodyStop
  | 0, _, written => do
    match ending with
    | .complete => pure (.complete written)
    | .broken => throw (remoteFailure "read failed: connection reset by fake peer")
    | .stalled => pure (.stalled written)
  | remaining + 1, source, written => do
    let k := min (max chunk 1) (remaining + 1)
    if written + k > req.expectedLength then
      throw (fileFailure s!"body exceeds expected length of {req.expectedLength} bytes")
    let w ← get
    match w.volume.streamWrite req.destination (.served req.url source k) with
    | .error e => throw (← writeFailure e)
    | .ok v => set { w with volume := v }
    let written := written + k
    discard (update req.track n fun r => { r with bytesWritten := written })
    if progress then notify (.progress req.track written req.expectedLength)
    copyBody n req chunk progress ending (remaining + 1 - k) (source + k) written
termination_by remaining => remaining
decreasing_by omega

/-- The end of a body: short of the expected length it is a remote failure, else the file is
committed. -/
def finishBody (req : DownloadRequest) (written : Nat) : Work Unit := do
  if written < req.expectedLength then
    throw (remoteFailure s!"stream ended after {written} of {req.expectedLength} bytes")
  commit req

/-- Runs a transfer from its start until it ends or waits on a stalled body. -/
def runFromStart (n : Nat) (req : DownloadRequest) : Work Outcome := do
  let expected := req.expectedLength
  let offset ← usableOffset req
  if offset > 0 && offset = expected then
    commit req
    return .ended (.ok ())
  let resp ← openBody req offset
  let (resp, offset) ← do
    if resp.resumedFrom = offset then pure (resp, offset)
    else if resp.resumedFrom = 0 then pure (resp, 0)
    else
      let again ← openBody req 0
      if again.resumedFrom ≠ 0 then
        throw (remoteFailure s!"server resumed at byte {again.resumedFrom}")
      pure (again, 0)
  match resp.totalLength with
  | some total =>
    if total ≠ expected then
      log .warn workerTarget "Transport length disagrees with catalog size"
        [("track_id", toString req.track), ("expected", toString expected), ("total", toString total)]
  | none => pure ()
  openWriter req offset
  discard (update req.track n fun r =>
    { r with state := .downloading, bytesWritten := offset, resumeOffset := offset })
  let settings := (← get).manager.settings
  let stop ← copyBody n req (max settings.chunkSize 1) (settings.progressIntervalMs = 0)
    resp.ending resp.bodyBytes resp.resumedFrom offset
  match stop with
  | .complete written =>
    finishBody req written
    pure (.ended (.ok ()))
  | .stalled written => pure (.stalled written)

/-- Runs a transfer whose stalled body has ended, with `written` bytes in the file. -/
def runAfterStall (req : DownloadRequest) (written : Nat) : Work Outcome := do
  finishBody req written
  pure (.ended (.ok ()))

/-- Records a transfer's end, announcing it, if the transfer still owns its record. -/
def finish (n : Nat) (req : DownloadRequest) (r : Except TransferFailure Unit) : Act Unit := do
  let track := req.track
  let event? ← match r with
    | .ok () => do
      let applied ← update track n fun rec =>
        { rec with state := .finished, bytesWritten := req.expectedLength }
      if applied then
        log .info workerTarget "Download finished"
          [("track_id", toString track), ("file", Path.fileName req.destination)]
        pure (some (DownloadEvent.finish track))
      else pure none
    | .error f => do
      let applied ← update track n fun rec => { rec with state := f.state, lastError := some f.message }
      if applied then
        let fields := [("track_id", toString track), ("state", f.state.name), ("error", f.message)]
        if f.state.isPaused then log .warn workerTarget "Download paused" fields
        else log .error workerTarget "Download failed" fields
        pure (some (DownloadEvent.error track f.message f.state.isPaused))
      else pure none
  match event? with
  | some e =>
    modify fun w => { w with manager := prune (releaseSlot w.manager n) }
    notify e
  | none => pure ()

end PlaybackEngine.Downloads

namespace PlaybackEngine.Downloads

open World

/-- Runs a task until it ends or waits on a stalled body, on a task of its own. A task that
ends leaves the task list; a stalled one waits there. -/
def runTask (t : TransferTask) : Act Unit :=
  detached do
    let work := match t.phase with
      | .unstalled written => runAfterStall t.request written
      | _ => runFromStart t.transfer t.request
    let outcome ← match ← work.run with
      | .ok o => pure o
      | .error f => pure (.ended (.error f))
    match outcome with
    | .ended r =>
      modify fun w => { w with manager := { w.manager with
        tasks := w.manager.tasks.filter (·.transfer != t.transfer) } }
      finish t.transfer t.request r
    | .stalled written =>
      modify fun w => { w with manager := { w.manager with
        tasks := w.manager.tasks.map fun u =>
          if u.transfer = t.transfer then { u with phase := .stalled written } else u } }

/-- Whether a task can run: it has not run yet, or its stalled body has ended. -/
def isReady (t : TransferTask) : Bool :=
  match t.phase with
  | .stalled _ => false
  | _ => true

/-- The first task that can run. -/
def nextReadyTask : Act (Option TransferTask) := do
  pure ((← get).manager.tasks.find? isReady)

end PlaybackEngine.Downloads
