import PlaybackEngine.Download.Transfer
import PlaybackEngine.Script.Cache
import PlaybackEngine.Script.Events

/-!
# Download scenarios

A download scenario runs a download manager on a described host, committing finished files to a
cache store on `/cache`. After each step every transfer that can run runs, in the order they
were started, until none can. Every step answers its result with the notices the manager sent
during it and the records after it.
-/

set_option autoImplicit false

namespace PlaybackEngine.Script

open Downloads

/-- Runs ready transfers until none is left; each run ends a task or parks it on a stalled
body, so `fuel` runs suffice for `fuel` tasks. -/
def runTransfers : Nat → Act Unit
  | 0 => pure ()
  | fuel + 1 => do
    match ← nextReadyTask with
    | some t => runTask t; runTransfers fuel
    | none => pure ()

/-- Runs every ready transfer to its end or its stall. -/
def settleTransfers : Act Unit := do
  runTransfers ((← get).manager.tasks.length + 1)

/-- A download record as JSON. -/
def downloadRecordJson (d : Download) : Json :=
  .obj [("track_id", Json.int d.track), ("url", .str d.url), ("destination", .str d.destination),
    ("expected_length", Json.nat d.expectedLength), ("bytes_written", Json.nat d.bytesWritten),
    ("resume_offset", Json.nat d.resumeOffset), ("state", .str d.state.name),
    ("last_error", Json.opt Json.str d.lastError), ("progress_percent", Json.nat d.progressPercent)]

/-- A download request as JSON. -/
def downloadRequestJson (r : DownloadRequest) : Json :=
  .obj [("track_id", Json.int r.track), ("url", .str r.url), ("destination", .str r.destination),
    ("expected_length", Json.nat r.expectedLength), ("resume_offset", Json.nat r.resumeOffset),
    ("cache_key", .str r.key.display)]

/-- The request a `start` step describes, with defaults from the catalog. -/
def startRequest (step : Json) : Step World DownloadRequest := do
  let id ← readStep (required signedValue step "track")
  let w ← get
  let t : TrackInfo := (w.catalog.lookup id).getD
    { id, sourceId := 1, contentId := s!"c{id}", mime := "audio/mpeg", url := defaultUrl id, size := 4096 }
  let url := (← readStep (optionalNamedString step "url")).getD t.url
  let destination ← readStep (optionalNamedString step "destination")
  let expected ← readStep (withDefault unsignedValue step "expected_length" t.size)
  let resume ← readStep (withDefault unsignedValue step "resume_offset" 0)
  let sourceId ← readStep (withDefault signedValue step "source_id" t.sourceId)
  let contentId ← readStep (withDefault stringValue step "content_id" t.contentId)
  let key : CacheKey := ⟨sourceId, contentId⟩
  let destination := destination.getD
    (cachePlace w.store.settings.baseDir key.sourceId key.contentId t.mime)
  pure { track := id, url, destination, expectedLength := expected, resumeOffset := resume, key }

/-- One step of a download scenario. -/
def downloadsStep (step : Json) : Step World Json := do
  let name ← readStep (required stringValue step "do")
  match name with
  | "start" =>
    let req ← startRequest step
    pure (.str (transferName (← perform (start req))))
  | "stop" =>
    let id ← readStep (required signedValue step "track")
    perform (stop id)
    pure .null
  | "stop_all" => perform stopAll; pure .null
  | "resume" => pure (.bool (← perform resume))
  | "snapshot" =>
    let id ← readStep (required signedValue step "track")
    pure (Json.opt downloadRecordJson (snapshot (← get).manager id))
  | "request_for" =>
    let id ← readStep (required signedValue step "track")
    pure (Json.opt downloadRequestJson (requestFor (← get).manager id))
  | "active" => pure (Json.opt downloadRecordJson (activeRecord (← get).manager))
  | "has_active" => pure (.bool (← get).manager.active.isSome)
  | "is_active" =>
    let id ← readStep (required signedValue step "track")
    pure (.bool (isActive (← get).manager id))
  | "stats" => pure (statsJson (← perform Cache.stats))
  | other =>
    match hostStep? other step with
    | some s => s
    | none => refuse (.unknown "downloads step" other)

/-- The records as `[track, state, bytes written]`, by track. -/
def trackedJson (w : World) : Json :=
  .arr ((tracked w.manager).map fun d =>
    .arr [Json.int d.track, .str d.state.name, Json.nat d.bytesWritten])

/-- Runs the steps in order, settling the transfers after each. -/
def downloadsSteps (w : World) : List Json → List Json × World
  | [] => ([], w)
  | step :: rest =>
    let (result, w) := runStep w (downloadsStep step)
    let ((), w) := settleTransfers.run w
    let entry : Json := .obj [("result", result), ("notices", .arr (w.notices.toList.map downloadJson)),
      ("tracked", trackedJson w)]
    let (more, w) := downloadsSteps { w with notices := {} } rest
    (entry :: more, w)

/-- The transfer settings a request gives: progress after every chunk or never, and the chunk
size. -/
def transferSettingsOf (req : Json) : Read DownloadSettings := do
  let progress ← withDefault boolValue req "progress" false
  let chunk ← withDefault unsignedValue req "chunk_size" 1024
  pure { progressIntervalMs := if progress then 0 else 3600000, chunkSize := chunk }

/-- The answer to a download scenario. -/
def downloadsAnswer (req : Json) : Read Logged := do
  let w ← hostOf req
  let settings ← transferSettingsOf req
  let w := { w with store := { settings := { baseDir := "/cache", leaveFreeBytes := 0 } },
                    manager := { settings } }
  let steps ← withDefault arrayValue req "steps" []
  let (entries, w') := downloadsSteps w steps
  pure ⟨.obj [("steps", .arr entries)], w'.logs⟩

end PlaybackEngine.Script
