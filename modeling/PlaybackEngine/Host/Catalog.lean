import PlaybackEngine.Table
import PlaybackEngine.Cache.Key
import PlaybackEngine.Queue

/-!
# The catalog

The host's content database: tracks by id, each with the content it plays (a source and a
content id), its media type, where to fetch it, its size, and where and when its content was
last cached. Tracks are visited in ascending id order.

Caching is recorded per content: marking or clearing a cached file applies to every track of
that content.
-/

set_option autoImplicit false

namespace PlaybackEngine

/-- What the catalog knows of a track. -/
structure TrackInfo where
  id : TrackId
  sourceId : Int
  contentId : String
  mime : String
  url : String
  size : Nat
  cachedPath : Option String := none
  cachedAt : Option Int := none
  deriving DecidableEq, Repr, Inhabited

/-- The content a track plays. -/
def TrackInfo.key (t : TrackInfo) : CacheKey := ⟨t.sourceId, t.contentId⟩

/-- A cached file as the catalog records it. -/
structure CachedContent where
  sourceId : Int
  contentId : String
  path : String
  size : Nat
  cachedAt : Int
  deriving DecidableEq, Repr, Inhabited

/-- The catalog: tracks by id. -/
abbrev Catalog := Table TrackInfo

namespace Catalog

/-- The track of an id. -/
def lookup (c : Catalog) (id : TrackId) : Option TrackInfo := Table.get? c id

/-- The cached file of every track that has both a path and a time, in id order. -/
def cachedEntries (c : Catalog) : List CachedContent :=
  c.filterMap fun (_, t) =>
    match t.cachedPath, t.cachedAt with
    | some p, some at_ => some ⟨t.sourceId, t.contentId, p, t.size, at_⟩
    | _, _ => none

/-- Records a cached file for every track of a content. -/
def markCached (c : Catalog) (key : CacheKey) (path : String) (at_ : Int) : Catalog :=
  c.map fun (id, t) =>
    if t.key = key then (id, { t with cachedPath := some path, cachedAt := some at_ }) else (id, t)

/-- Forgets the cached file of every track of a content. -/
def clearCached (c : Catalog) (key : CacheKey) : Catalog :=
  c.map fun (id, t) =>
    if t.key = key then (id, { t with cachedPath := none, cachedAt := none }) else (id, t)

end Catalog

end PlaybackEngine
