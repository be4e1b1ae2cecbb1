import PlaybackEngine.Cache.Store
import PlaybackEngine.Script.Host
import PlaybackEngine.Script.Engine

/-!
# Cache scenarios

A cache scenario runs a cache store on a described host and applies its steps: allocating,
committing and releasing storage, and asking what the store holds. A step names a content by a
catalog track or by `source_id` and `content_id`, and a file by `path` or by the track's place
in the cache. Every step answers its result with the volume's files and the catalog's cache
entries after it.
-/

set_option autoImplicit false

namespace PlaybackEngine.Script

/-- The content a step names: its track's, or `source_id` with `content_id`. -/
def stepKey (step : Json) : Step World (CacheKey × Option TrackInfo) := do
  if (step.given? "track").isSome then
    let t ← namedTrack step
    pure (t.key, some t)
  else
    let s ← readStep (required signedValue step "source_id")
    let c ← readStep (required stringValue step "content_id")
    pure (⟨s, c⟩, none)

/-- The file a step names: `path`, or the cache's place for the step's track. -/
def stepPath (step : Json) (t : Option TrackInfo) : Step World (Except PlaybackError String) := do
  match step.given? "path" with
  | some (.str p) => pure (.ok p)
  | some _ => refuse (.invalid "path must be a string")
  | none =>
    match t with
    | some t => pure (Cache.pathFor (← get).store.settings.baseDir t.key t.mime)
    | none => refuse (.missingField "track")

/-- Cache statistics as JSON. -/
def statsJson (s : CacheStats) : Json :=
  .obj [("committed_entries", Json.nat s.committedEntries),
    ("committed_bytes", Json.nat s.committedBytes), ("provisional_entries", Json.nat s.provisionalEntries)]

/-- A commit step, directly or, when `hook` holds, through the transfers' commit hook. The
step's `expected` is read before its key and path; without it, a direct commit takes the size
of the step's `track`, which it then needs, and the hook fails. -/
def commitStep (hook : Bool) (step : Json) : Step World Json := do
  let given ← match step.given? "expected" with
    | some v => some <$> readStep (unsignedValue "expected" v)
    | none => if hook then refuse (.missingField "expected") else pure none
  let (k, t) ← stepKey step
  let path ← stepPath step t
  let expected ← match given, t with
    | some e, _ => pure e
    | none, some t => pure t.size
    | none, none => refuse (.missingField "track")
  match path with
  | .error e => pure (playbackFailure e)
  | .ok p => attempt do Cache.commitStorage k p expected; pure .null

/-- One step of a cache scenario. -/
def cacheStep (step : Json) : Step World Json := do
  let name ← readStep (required stringValue step "do")
  match name with
  | "request" =>
    let t ← namedTrack step
    attempt do pure (.str (← Cache.requestStorage t))
  | "commit" => commitStep false step
  | "commit_hook" => commitStep true step
  | "release" =>
    let (k, t) ← stepKey step
    match ← stepPath step t with
    | .error e => pure (playbackFailure e)
    | .ok p => attempt do Cache.releaseStorage k p; pure .null
  | "stats" => pure (statsJson (← perform Cache.stats))
  | "committed_path" =>
    let t ← namedTrack step
    attempt do pure (Json.opt Json.str (← Cache.committedPath t))
  | "partial_length" =>
    match step.given? "path" with
    | some (.str p) => attempt do pure (Json.nat (← Cache.partialLength p))
    | some _ => refuse (.invalid "path must be a string")
    | none =>
      let t ← namedTrack step
      match Cache.pathFor (← get).store.settings.baseDir t.key t.mime with
      | .error e => pure (playbackFailure e)
      | .ok p => attempt do pure (Json.nat (← Cache.partialLength p))
  | "provisional_size" =>
    let (k, _) ← stepKey step
    pure (Json.opt Json.nat (← perform (Cache.provisionalSize k)))
  | "path_for" =>
    let given ← readStep (optionalNamedString step "mime")
    let (k, t) ← stepKey step
    let mime ← match given, t with
      | some m, _ => pure m
      | none, some t => pure t.mime
      | none, none => refuse (.missingField "track")
    match Cache.pathFor (← get).store.settings.baseDir k mime with
    | .ok p => pure (.str p)
    | .error e => pure (playbackFailure e)
  | "config" =>
    let s := (← get).store.settings
    pure (.obj [("base_dir", .str s.baseDir), ("leave_free_bytes", Json.nat s.leaveFreeBytes)])
  | other =>
    match hostStep? other step with
    | some s => s
    | none => refuse (.unknown "cache step" other)

/-- Runs the steps in order. -/
def cacheSteps (w : World) : List Json → List Json × World
  | [] => ([], w)
  | step :: rest =>
    let (result, w') := runStep w (cacheStep step)
    let entry : Json := .obj [("result", result), ("files", filesJson w'), ("cached", cachedJson w')]
    let (more, w'') := cacheSteps w' rest
    (entry :: more, w'')

/-- The answer to a cache scenario. -/
def cacheAnswer (req : Json) : Read Logged := do
  let w ← hostOf req
  let baseDir ← withDefault stringValue req "base_dir" "/cache"
  let leaveFree ← withDefault unsignedValue req "leave_free" 0
  let w := { w with store := { settings := { baseDir, leaveFreeBytes := leaveFree } } }
  let steps ← withDefault arrayValue req "steps" []
  let (entries, w') := cacheSteps w steps
  pure ⟨.obj [("steps", .arr entries)], w'.logs⟩

end PlaybackEngine.Script
