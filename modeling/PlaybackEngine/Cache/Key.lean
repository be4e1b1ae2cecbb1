/-!
# Cache keys and statistics

A cached file belongs to one piece of content of one source; the key writes as
`source/content`. Statistics count committed entries and their bytes, and provisional
allocations; the average size of a committed entry rounds down, and is `0` with none.
-/

set_option autoImplicit false

namespace PlaybackEngine

/-- The content a cached file holds. -/
structure CacheKey where
  sourceId : Int
  contentId : String
  deriving DecidableEq, Repr, Inhabited

/-- A key as `source/content`. -/
def CacheKey.display (k : CacheKey) : String := s!"{k.sourceId}/{k.contentId}"

/-- What the cache holds. -/
structure CacheStats where
  committedEntries : Nat
  committedBytes : Nat
  provisionalEntries : Nat
  deriving DecidableEq, Repr, Inhabited

namespace CacheStats

/-- Bytes per committed entry, rounded down; `0` with none. -/
def averageEntrySize (s : CacheStats) : Nat :=
  if s.committedEntries = 0 then 0 else s.committedBytes / s.committedEntries

/-- No entry, committed or provisional. -/
def isEmpty (s : CacheStats) : Bool := s.committedEntries == 0 && s.provisionalEntries == 0

end CacheStats

end PlaybackEngine
