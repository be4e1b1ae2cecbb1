import PlaybackEngine.Cache.Key
import PlaybackEngine.Config.Settings

/-!
# Cache allocations

The cache store's own state: its settings and its provisional allocations. An allocation is
storage handed to a transfer in flight, by the content it will hold: the file's path and the
expected size. Allocations are never evicted; committing or releasing an entry ends its
allocation.
-/

set_option autoImplicit false

namespace PlaybackEngine

/-- Storage handed to a transfer in flight. -/
structure Allocation where
  path : String
  size : Nat
  deriving DecidableEq, Repr, Inhabited

/-- The cache store's state. -/
structure CacheStore where
  settings : CacheSettings
  provisional : List (CacheKey × Allocation) := []
  deriving Repr, Inhabited

namespace CacheStore

/-- The allocation of a content. -/
def allocation? (s : CacheStore) (k : CacheKey) : Option Allocation :=
  (s.provisional.find? (·.1 == k)).map (·.2)

/-- Records an allocation, replacing one of the same content. -/
def allocate (s : CacheStore) (k : CacheKey) (a : Allocation) : CacheStore :=
  { s with provisional := s.provisional.filter (·.1 != k) ++ [(k, a)] }

/-- Ends the allocation of a content; whether there was one. -/
def endAllocation (s : CacheStore) (k : CacheKey) : Bool × CacheStore :=
  (s.provisional.any (·.1 == k), { s with provisional := s.provisional.filter (·.1 != k) })

end CacheStore

end PlaybackEngine
