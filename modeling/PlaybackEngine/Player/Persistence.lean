import PlaybackEngine.World
import PlaybackEngine.Snapshot
import PlaybackEngine.Path

/-!
# The state file

The player keeps its queue and coarse play flags in one file. A save writes the snapshot's bytes
to a file beside it, named with `.tmp` added, and renames that over the live file, so a reader
never sees half a snapshot. Recovery reads the file back: an absent file is no saved state, and
a file that does not decode is deleted and also counts as no saved state.
-/

set_option autoImplicit false

namespace PlaybackEngine.Persistence

open World

/-- Who the state file's log entries come from. -/
def persistenceTarget : String := "core_playback::persistence"

/-- The file a snapshot is written to before it replaces the live one. -/
def tempPath (path : String) : String := path ++ ".tmp"

/-- Writes a snapshot to the state file through the file beside it. -/
def save (path : String) (s : Snapshot) : Attempt Unit :=
  attemptInSpan "save" do
    match Path.parent? path with
    | some parent =>
      if parent ≠ "" then modify fun w => { w with volume := w.volume.createDirAll parent }
    | none => pure ()
    changeVolume (·.writeFile (tempPath path) s.encode)
    changeVolume (·.rename (tempPath path) path)

/-- Deletes a state file that did not decode. -/
def discard (path : String) (fault : SnapshotFault) : Act Unit := do
  log .warn persistenceTarget "Discarding saved playback state"
    [("error", (PlaybackError.corruptState fault.message).message)]
  match (← get).volume.deleteFile path with
  | .ok v => modify fun w => { w with volume := v }
  | .error e => log .warn persistenceTarget "Failed to delete stale state file" [("error", e.message)]

/-- Reads the saved snapshot, if there is one that decodes. -/
def recover (path : String) : Attempt (Option Snapshot) :=
  attemptInSpan "recover" do
    if !(← get).volume.exists_ path then return none
    let data ← host ((← get).volume.readFile path)
    match Snapshot.decode data with
    | .ok s =>
      log .info persistenceTarget "Recovered playback state"
        [("tracks", toString s.tracks.length), ("position", toString s.position),
         ("playing", toString s.playing), ("paused", toString s.paused)]
      pure (some s)
    | .error fault =>
      discard path fault
      pure none

end PlaybackEngine.Persistence
