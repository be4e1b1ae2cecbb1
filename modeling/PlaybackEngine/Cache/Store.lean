import PlaybackEngine.World
import PlaybackEngine.Cache.Mime

/-!
# The cache store

The cache keeps one file per content, under `base/<source>/<content><extension>`, and moves it
through two stages: *provisional* while a transfer writes it, and *committed* once its length
matched the expected size and the catalog recorded its path and the time.

Allocating storage for a track keeps the store's leave-free margin free on the volume. When the
free space does not cover the margin plus the bytes still missing from the file, committed
entries are evicted, oldest first and skipping the content asked for and every provisional
one, re-measuring the free space after each, until the shortfall is covered; if it never is,
the allocation fails for lack of space.
-/

set_option autoImplicit false

namespace PlaybackEngine.Cache

-- Powers by core's `Nat.pow` and `Int.pow`, also where an algebra library is loaded, so that
-- each definition means the same wherever it is built.
attribute [local instance (high)] instPowNat

open World

/-- Who the store's log entries come from. -/
def storeTarget : String := "core_playback::cache::store"

/-- The file of a content of a media type under a base directory. -/
def pathFor (base : String) (k : CacheKey) (mime : String) : Except PlaybackError String :=
  match extensionFor mime with
  | none => .error (.unknownMimeType mime)
  | some ext => .ok (Path.join (Path.join base (toString k.sourceId)) (k.contentId ++ ext))

/-- The settings of the store. -/
def settings : Act CacheSettings := do pure (← get).store.settings

/-- A track's committed file: the catalog's path, when a file of the track's size is there. -/
def committedPath (t : TrackInfo) : Attempt (Option String) := do
  match t.cachedPath with
  | none => pure none
  | some p =>
    match ← fileLen p with
    | some len => pure (if len = t.size then some p else none)
    | none => pure none

/-- The free bytes of a mounted volume. -/
def availableBytes : Attempt Nat := do
  let info := (← get).volume.info
  if !info.mounted then throw .noStorageMedium
  pure info.availableBytes

/-- Deletes a committed entry's file, if it can, and forgets it in the catalog. -/
def evictEntry (e : CachedContent) : Attempt Unit := do
  match (← get).volume.deleteFile e.path with
  | .ok v => modify fun w => { w with volume := v }
  | .error err =>
    log .warn storeTarget "Failed to delete cache file"
      [("file", Path.fileName e.path), ("error", err.message)]
  modify fun w => { w with catalog := w.catalog.clearCached ⟨e.sourceId, e.contentId⟩ }

/-- Evicts candidates in order, after `evicted` evictions, until `needed` bytes are free. -/
def evictCandidates (k : CacheKey) (needed requested : Nat) (inFlight : List CacheKey) :
    List CachedContent → Nat → Nat → Attempt Unit
  | [], evicted, free => do
    log .warn storeTarget "Eviction could not cover shortfall"
      [("evicted", toString evicted), ("free", toString free), ("needed", toString needed)]
    throw (.outOfSpace requested free)
  | e :: es, evicted, free => do
    let ek : CacheKey := ⟨e.sourceId, e.contentId⟩
    if ek = k || inFlight.contains ek then evictCandidates k needed requested inFlight es evicted free
    else
      evictEntry e
      let free ← availableBytes
      if free ≥ needed then
        log .info storeTarget "Eviction complete"
          [("evicted", toString (evicted + 1)), ("free", toString free)]
      else evictCandidates k needed requested inFlight es (evicted + 1) free

/-- Makes room for `requested` more bytes of content `k` with `free` bytes free. -/
def evictFor (k : CacheKey) (requested free : Nat) : Attempt Unit := do
  let needed := min maxWord ((← settings).leaveFreeBytes + requested)
  if free ≥ needed then return
  log .info storeTarget "Evicting cache entries to free space"
    [("shortfall", toString (needed - free)), ("requested", toString requested)]
  let w ← get
  let candidates := w.catalog.cachedEntries.mergeSort fun a b => decide (a.cachedAt ≤ b.cachedAt)
  let inFlight := w.store.provisional.map (·.1)
  evictCandidates k needed requested inFlight candidates 0 free

/-- Allocates the file of a track: makes room for what the file still lacks, creates its
directory and records the allocation. Gives the file's path. -/
def requestStorage (t : TrackInfo) : Attempt String :=
  attemptInSpan "request_storage" do
    let key := t.key
    let path ← match pathFor (← settings).baseDir key t.mime with
      | .ok p => pure p
      | .error e => throw e
    let free ← availableBytes
    let existing := (← fileLen path).getD 0
    let requested := t.size - existing
    evictFor key requested free
    match Path.parent? path with
    | some parent => modify fun w => { w with volume := w.volume.createDirAll parent }
    | none => pure ()
    modify fun w => { w with store := w.store.allocate key ⟨path, t.size⟩ }
    pure path

/-- Commits a content's file: its length must be exactly the expected one. The catalog then
records the path and the time, and the allocation ends. -/
def commitStorage (k : CacheKey) (path : String) (expected : Nat) : Attempt Unit :=
  attemptInSpan "commit_storage" do
    let actual := (← fileLen path).getD 0
    if actual ≠ expected then
      log .warn storeTarget "Refusing to commit truncated cache file"
        [("entry", k.display), ("expected", toString expected), ("actual", toString actual)]
      throw (.sizeMismatch expected actual)
    let at_ ← readClock
    modify fun w => { w with catalog := w.catalog.markCached k path at_,
                             store := (w.store.endAllocation k).2 }
    log .info storeTarget "Committed cache entry" [("entry", k.display), ("bytes", toString actual)]

/-- Releases a content's storage: ends its allocation and deletes its file if one is there. -/
def releaseStorage (k : CacheKey) (path : String) : Attempt Unit :=
  attemptInSpan "release_storage" do
    modify fun w => { w with store := (w.store.endAllocation k).2 }
    if (← get).volume.exists_ path then changeVolume (·.deleteFile path)

/-- What the store holds: committed entries by the catalog, and allocations. The committed
bytes are a 64-bit sum, wrapping past the largest word. -/
def stats : Act CacheStats := do
  let w ← get
  let entries := w.catalog.cachedEntries
  pure ⟨entries.length, entries.foldl (fun acc e => (acc + e.size) % 2 ^ (64 : Nat)) 0,
    w.store.provisional.length⟩

/-- The length of a partly written file, `0` if there is none. -/
def partialLength (path : String) : Attempt Nat := do pure ((← fileLen path).getD 0)

/-- The size allocated for a content. -/
def provisionalSize (k : CacheKey) : Act (Option Nat) := do
  pure (((← get).store.allocation? k).map (·.size))

end PlaybackEngine.Cache
