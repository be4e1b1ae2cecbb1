import PlaybackEngine.World

/-!
# The download manager

The manager runs at most one transfer at a time. Starting a download first stops the active
one, then records the new transfer as the track's record (replacing any earlier one), announces
its beginning and gives it the active slot. Stopping a track's download aborts it if it is the
active one, and otherwise forgets a paused record of that track. Resuming restarts the paused
record of the latest transfer, from the bytes it had written, when no transfer is active.

An aborted transfer's record is marked aborted and a cancel is announced; a transfer that never
ran leaves no other trace. Records of finished or aborted transfers are kept for the latest 16
such transfers only.

A transfer changes its record only while it owns the record and the record is not aborted.
-/

set_option autoImplicit false

namespace PlaybackEngine.Downloads

open World

/-- Who the manager's log entries come from. -/
def managerTarget : String := "core_playback::download::manager"

/-- The record of a track, if transfer `n` owns it and it is not aborted. -/
def owned? (m : Manager) (track : TrackId) (n : Nat) : Option Tracked :=
  match m.records.get? track with
  | some t => if t.transfer = n && t.record.state != .aborted then some t else none
  | none => none

/-- Changes a track's record by transfer `n`, if it owns it and it is not aborted; whether it
did. -/
def update (track : TrackId) (n : Nat) (f : Download → Download) : Act Bool := do
  let w ← get
  match owned? w.manager track n with
  | some t =>
    let records := w.manager.records.insert track { t with record := f t.record }
    set { w with manager := { w.manager with records } }
    pure true
  | none => pure false

/-- Whether a record is settled: finished or aborted. -/
def isSettled (t : Tracked) : Bool := t.record.state == .finished || t.record.state == .aborted

/-- Keeps the settled records of the latest `retainedRecords` transfers only. -/
def prune (m : Manager) : Manager :=
  let settled := (m.records.filter fun (_, t) => isSettled t).map fun (track, t) => (t.transfer, track)
  if settled.length ≤ retainedRecords then m
  else
    let ordered := settled.mergeSort fun a b => decide (a.1 < b.1 ∨ (a.1 = b.1 ∧ a.2 ≤ b.2))
    let gone := (ordered.take (settled.length - retainedRecords)).map (·.2)
    { m with records := m.records.filter fun (track, _) => !gone.contains track }

/-- Frees the active slot if transfer `n` holds it. -/
def releaseSlot (m : Manager) (n : Nat) : Manager :=
  match m.active with
  | some (_, k) => if k = n then { m with active := none } else m
  | none => m

/-- Aborts the transfer `n` of `track`: marks its record aborted if it was active, cancels its
task, and announces the cancel. -/
def abort (track : TrackId) (n : Nat) : Act Unit := do
  let aborted ← do
    let w ← get
    match owned? w.manager track n with
    | some t =>
      if t.record.state.isActive then
        discard (update track n fun r => { r with state := .aborted })
        pure true
      else pure false
    | none => pure false
  modify fun w => { w with manager := { w.manager with
    tasks := w.manager.tasks.filter (·.transfer != n) } }
  if aborted then
    log .info managerTarget "Download aborted"
      [("track_id", toString track), ("transfer", transferName n)]
    notify (.cancel track)

/-- Aborts the active transfer, if any. -/
def stopAll : Act Unit := do
  let w ← get
  match w.manager.active with
  | some (track, n) =>
    set { w with manager := { w.manager with active := none } }
    abort track n
  | none => pure ()

/-- Starts a download: stops the active one, records the new transfer, announces its begin,
spawns its task and gives it the active slot. Gives the transfer's number. -/
def start (req : DownloadRequest) : Act Nat :=
  inSpan "start_download" do
    stopAll
    let w ← get
    let n := w.manager.nextTransfer
    let record : Download :=
      { track := req.track, url := req.url, destination := req.destination,
        expectedLength := req.expectedLength, bytesWritten := req.resumeOffset,
        resumeOffset := req.resumeOffset, state := .connecting, lastError := none }
    let m := { w.manager with nextTransfer := n + 1,
                              records := w.manager.records.insert req.track ⟨n, record, req⟩ }
    set { w with manager := prune m }
    notify (.begin req.track req.expectedLength)
    modify fun w => { w with manager := { w.manager with
      tasks := w.manager.tasks ++ [⟨n, req, .waiting⟩], active := some (req.track, n) } }
    log .info managerTarget "Download started"
      [("transfer", transferName n), ("expected_length", toString req.expectedLength)]
    pure n

/-- Forgets a paused record of a track, announcing the cancel. -/
def abortPaused (track : TrackId) : Act Unit := do
  let w ← get
  match w.manager.records.get? track with
  | some t =>
    if t.record.state.isPaused then
      let records := w.manager.records.insert track
        { t with record := { t.record with state := .aborted } }
      set { w with manager := { w.manager with records } }
      notify (.cancel track)
  | none => pure ()

/-- Stops a track's download: aborts it if active, else forgets it if paused. -/
def stop (track : TrackId) : Act Unit :=
  inSpan "stop_download" do
    let w ← get
    match w.manager.active with
    | some (t, n) =>
      if t = track then
        set { w with manager := { w.manager with active := none } }
        abort t n
      else abortPaused track
    | none => abortPaused track

/-- The paused record of the latest transfer. -/
def latestPaused (m : Manager) : Option Tracked :=
  m.records.foldl (fun best (_, t) =>
    if !t.record.state.isPaused then best
    else match best with
      | some b => if t.transfer > b.transfer then some t else best
      | none => some t) none

/-- Restarts the paused download of the latest transfer, from the bytes it had written, when no
transfer is active; whether one was restarted. -/
def resume : Act Bool :=
  inSpan "resume_downloads" do
    let w ← get
    if w.manager.active.isSome then return false
    match latestPaused w.manager with
    | some t =>
      let req := { t.request with resumeOffset := t.record.bytesWritten }
      log .info managerTarget "Resuming paused download"
        [("track_id", toString req.track), ("offset", toString req.resumeOffset)]
      discard (start req)
      pure true
    | none => pure false

/-- The record of a track. -/
def snapshot (m : Manager) (track : TrackId) : Option Download :=
  (m.records.get? track).map (·.record)

/-- The request of a track's record. -/
def requestFor (m : Manager) (track : TrackId) : Option DownloadRequest :=
  (m.records.get? track).map (·.request)

/-- The record of the active transfer's track. -/
def activeRecord (m : Manager) : Option Download :=
  match m.active with
  | some (track, _) => snapshot m track
  | none => none

/-- Whether a transfer is active for the track. -/
def isActive (m : Manager) (track : TrackId) : Bool :=
  match m.active with
  | some (t, _) => t = track
  | none => false

/-- Every record, by track. -/
def tracked (m : Manager) : List Download := m.records.values.map (·.record)

end PlaybackEngine.Downloads
