import PlaybackEngine.World
import PlaybackEngine.Cache.Mime
import PlaybackEngine.Script.Step
import PlaybackEngine.Script.Hex
import PlaybackEngine.Script.Simple

/-!
# The host of a scenario

Scenarios on the cache, the downloads and the player run on a host described by the request:
the volume's capacity and whether it is mounted, the catalog's tracks, and files already on the
volume. A track is described by its id and, optionally, its size, content, media type, url,
cached file and transport route; whatever is not given takes a default made from the id.

The same scenarios share steps that change or show the host: adding tracks and files, setting
routes, mounting, refusing writes, changing the capacity, marking cache entries, ending stalled
bodies, and listing the files, the catalog's cache entries, the free space and the requests
made.
-/

set_option autoImplicit false

namespace PlaybackEngine.Script

-- Powers by core's `Nat.pow` and `Int.pow`, also where an algebra library is loaded, so that
-- each definition means the same wherever it is built.
attribute [local instance (high)] instPowNat

/-- The url a track is fetched from by default. -/
def defaultUrl (id : Int) : String := s!"http://media.test/{id}"

/-- A transport route described by JSON. Its `len`, read right after its kind whatever the kind,
defaults to `defaultLen`. -/
def routeOf (j : Json) (defaultLen : Nat) : Read Route := do
  let kind ← required stringValue j "kind"
  let len ← withDefault unsignedValue j "len" defaultLen
  match kind with
  | "body" => pure (.body len)
  | "truncated" =>
    let n ← required unsignedValue j "n"
    pure (.truncated n len)
  | "status" => pure (.status (← statusField j))
  | "network_down" => pure .networkDown
  | "stall" => pure .stall
  | "shifted" =>
    let at_ ← required unsignedValue j "at"
    pure (.shifted at_ len)
  | "broken" =>
    let n ← required unsignedValue j "n"
    pure (.broken n len)
  | "none" => pure .none
  | other => throw (.unknown "route kind" other)

/-- The file a content is kept at under a base directory: the source's directory, then the
content id with its media type's extension, or with none for a type outside the table. An
absolute content id stands for itself, as joining an absolute path does. -/
def cachePlace (base : String) (sourceId : Int) (contentId mime : String) : String :=
  Path.join (Path.join base (toString sourceId)) (contentId ++ (Cache.extensionFor mime).getD "")

/-- The file a track's content is cached at by default. -/
def defaultCachedPath (sourceId : Int) (contentId mime : String) : String :=
  cachePlace "/cache" sourceId contentId mime

/-- A track described by JSON: its catalog entry, a file to create, and its route. -/
structure TrackSpec where
  info : TrackInfo
  file : Option (String × Nat)
  route : Route

/-- Reads a track description. -/
def trackSpecOf (j : Json) : Read TrackSpec := do
  let id ← required signedValue j "id"
  let size ← withDefault unsignedValue j "size" 4096
  let sourceId ← withDefault signedValue j "source_id" 1
  let contentId ← withDefault stringValue j "content_id" s!"c{id}"
  let mime := (← optionalNamedString j "mime").getD "audio/mpeg"
  let url := (← optionalNamedString j "url").getD (defaultUrl id)
  let base : TrackInfo := { id, sourceId, contentId, mime, url, size }
  let (info, file) ← match j.given? "cached" with
    | none => pure (base, none)
    | some c => do
      let at_ ← required signedValue c "at"
      let path ← match c.given? "path" with
        | some (.str p) => pure p
        | some _ => throw (.invalid "cached.path must be a string")
        | none => pure (defaultCachedPath sourceId contentId mime)
      let fileLen ← match c.field? "file_len" with
        | none => pure (some size)
        | some .null => pure none
        | some v => some <$> unsignedValue "file_len" v
      pure ({ base with cachedPath := some path, cachedAt := some at_ },
        fileLen.map fun n => (path, n))
  let route ← match j.given? "route" with
    | some r => routeOf r size
    | none => pure (.body size)
  pure { info, file, route }

/-- Adds a described track: its catalog entry, its file, and its route. -/
def addTrack (w : World) (t : TrackSpec) : World :=
  let w := { w with catalog := w.catalog.insert t.info.id t.info,
                    transport := w.transport.setRoute t.info.url t.route }
  match t.file with
  | some (p, n) => { w with volume := w.volume.putFile p (.sized n) }
  | none => w

/-- A file described by JSON: `{path, len}` or `{path, hex}`. -/
def fileSpecOf (j : Json) : Read (String × FileEntry) := do
  let path ← namedString j "path"
  match j.given? "hex" with
  | some (.str h) =>
    match bytesOfHex h with
    | some b => pure (path, .whole b)
    | none => throw (.invalid "hex must be an even number of hex digits")
  | some _ => throw (.invalid "hex must be a string")
  | none => pure (path, .sized (← withDefault unsignedValue j "len" 0))

/-- The host a request describes: tracks first, then files, then whether it is mounted. -/
def hostOf (req : Json) : Read World := do
  let capacity ← withDefault unsignedValue req "capacity" (2 ^ (30 : Nat))
  let mounted ← withDefault boolValue req "mounted" true
  let honour ← withDefault boolValue req "honour_ranges" true
  let tracks ← withDefault arrayValue req "tracks" []
  let specs ← tracks.mapM trackSpecOf
  let files ← withDefault arrayValue req "files" []
  let fileSpecs ← files.mapM fileSpecOf
  let w : World := { volume := { capacity }, transport := { honourRanges := honour } }
  let w := specs.foldl addTrack w
  let w := fileSpecs.foldl (fun w (p, f) => { w with volume := w.volume.putFile p f }) w
  pure { w with volume := { w.volume with mounted } }

/-- The files of the volume, by path. -/
def filesJson (w : World) : Json :=
  .arr (w.volume.listing.map fun (p, f) => .obj [("path", .str p), ("len", Json.nat f.length)])

/-- The tracks with a cached path or time, in id order. -/
def cachedJson (w : World) : Json :=
  .arr (w.catalog.filterMap fun (_, t) =>
    if t.cachedPath.isSome || t.cachedAt.isSome then
      some (.obj [("track_id", Json.int t.id), ("cached_path", Json.opt Json.str t.cachedPath),
        ("cached_at", Json.opt Json.int t.cachedAt)])
    else none)

/-- The catalog track a step names by `track`. -/
def namedTrack (step : Json) : Step World TrackInfo := do
  let id ← readStep (required signedValue step "track")
  match (← get).catalog.lookup id with
  | some t => pure t
  | none => refuse (.invalid "unknown track")

/-- Ends every stalled body: stalled transfers see their bodies end. Gives how many stalled
bodies were opened since stalls last ended. -/
def endStalls (w : World) : Nat × World :=
  let wake := fun (t : TransferTask) => match t.phase with
    | .stalled n => { t with phase := .unstalled n }
    | _ => t
  (w.transport.stalls, { w with transport := { w.transport with stalls := 0 },
                                 manager := { w.manager with tasks := w.manager.tasks.map wake } })

/-- A step on the host, if the name is one. -/
def hostStep? (name : String) (step : Json) : Option (Step World Json) :=
  match name with
  | "add_track" => some do
    let spec ← readStep (trackSpecOf (← readStep (need step "track")))
    modify (addTrack · spec)
    pure .null
  | "route" => some do
    let url ← match step.given? "url" with
      | some (.str u) => pure u
      | some _ => refuse (.invalid "url must be a string")
      | none => pure (defaultUrl (← readStep (required signedValue step "track")))
    let len ← readStep (withDefault unsignedValue step "len" 4096)
    let r ← readStep (routeOf (← readStep (need step "route")) len)
    modify fun w => { w with transport := w.transport.setRoute url r }
    pure .null
  | "add_file" => some do
    let (p, f) ← readStep (fileSpecOf step)
    modify fun w => { w with volume := w.volume.putFile p f }
    pure .null
  | "delete_file" => some do
    let p ← readStep (namedString step "path")
    let w ← get
    match w.volume.deleteFile p with
    | .ok v => set { w with volume := v }; pure (.bool true)
    | .error _ => pure (.bool false)
  | "mount" => some do
    let m ← readStep (withDefault boolValue step "mounted" true)
    modify fun w => { w with volume := { w.volume with mounted := m } }
    pure .null
  | "fail_writes" => some do
    let f ← readStep (withDefault boolValue step "fail" true)
    modify fun w => { w with volume := { w.volume with failWrites := f } }
    pure .null
  | "set_capacity" => some do
    let c ← readStep (required unsignedValue step "capacity")
    modify fun w => { w with volume := { w.volume with capacity := c } }
    pure .null
  | "set_cached" => some do
    let t ← namedTrack step
    let path ← match step.given? "path" with
      | some (.str p) => pure p
      | some _ => refuse (.invalid "path must be a string")
      | none => pure (defaultCachedPath t.sourceId t.contentId t.mime)
    let at_ ← readStep (required signedValue step "at")
    let t' : TrackInfo := { t with cachedPath := some path, cachedAt := some at_ }
    modify fun w => { w with catalog := w.catalog.insert t.id t' }
    pure .null
  | "clear_cached" => some do
    let t ← namedTrack step
    modify fun w => { w with catalog := w.catalog.clearCached t.key }
    pure .null
  | "stall_end" => some do
    let (n, w) := endStalls (← get)
    set w
    pure (Json.nat n)
  | "files" => some do pure (filesJson (← get))
  | "catalog" => some do pure (cachedJson (← get))
  | "free" => some do pure (Json.nat (← get).volume.free)
  | "opened" => some do
    pure (.arr ((← get).transport.opened.map fun (u, o) => .arr [.str u, Json.nat o]))
  | _ => none

end PlaybackEngine.Script
