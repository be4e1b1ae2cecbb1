/-!
# Settings of the cache, the transfers and the player

Each group of settings has its defaults and a check that names the first setting out of range.
Spans of time are whole milliseconds.
-/

set_option autoImplicit false

namespace PlaybackEngine

/-- How transfers report and how much they read at a time. -/
structure DownloadSettings where
  progressIntervalMs : Nat := 500
  chunkSize : Nat := 16384
  deriving DecidableEq, Repr, Inhabited

/-- The first setting of a transfer that is out of range. -/
def DownloadSettings.check (s : DownloadSettings) : Except String Unit :=
  if s.progressIntervalMs = 0 then .error "Progress interval must be greater than zero"
  else if s.chunkSize = 0 then .error "Chunk size must be greater than 0"
  else .ok ()

/-- When "previous" restarts the song instead of going back, and whether the next song is
fetched ahead. -/
structure PlaybackSettings where
  restartThresholdMs : Nat := 10000
  prefetch : Bool := true
  deriving DecidableEq, Repr, Inhabited

/-- The first setting of the player that is out of range. -/
def PlaybackSettings.check (s : PlaybackSettings) : Except String Unit :=
  if s.restartThresholdMs = 0 then .error "Restart threshold must be greater than zero" else .ok ()

/-- Bytes left free on the cache's volume by default: 100 MiB. -/
def defaultLeaveFreeBytes : Nat := 100 * 1024 * 1024

/-- Where the cache keeps its files and how much of the volume it leaves free. -/
structure CacheSettings where
  baseDir : String := "cache"
  leaveFreeBytes : Nat := defaultLeaveFreeBytes
  deriving DecidableEq, Repr, Inhabited

/-- The first setting of the cache that is out of range. -/
def CacheSettings.check (s : CacheSettings) : Except String Unit :=
  if s.baseDir.isEmpty then .error "Cache base directory cannot be empty" else .ok ()

end PlaybackEngine
