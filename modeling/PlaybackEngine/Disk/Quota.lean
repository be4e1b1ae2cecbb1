import PlaybackEngine.Disk.Calls

/-!
# A volume with a quota

A volume kept in a root directory of a tree, whose free space is a quota less the size of what
the root holds.

The volume is mounted when the root is a directory, or when it is missing and can be made;
anything else at the root (a file, a path through a file, a dangling link that cannot be made a
directory) leaves it unmounted, with no space. Measuring a mounted root can fail, as when a
dangling link is below it; that failure is the answer.
-/

set_option autoImplicit false

namespace PlaybackEngine.Disk

/-- A volume: its root directory and its quota in bytes. -/
structure QuotaVolume where
  root : List String
  quota : Nat
  deriving Repr, Inhabited

/-- Whether the root is a directory, making it if it is missing. -/
def QuotaVolume.rootAvailable (v : QuotaVolume) : DiskM Bool := do
  match (← get).stat v.root with
  | .ok .dir => pure true
  | .error .noEntry => tryCatch (do createDirAll v.root; pure true) fun _ => pure false
  | _ => pure false

/-- How deep a measurement may go: each level below the root adds a name, and a walk of more
than `maxLinks` links fails, so a tree with `n` nodes is never deeper than this. -/
def measureDepth (t : Tree) : Nat := (maxLinks + 1) * (t.nodes.length + 2)

/-- Whether the volume is mounted, and its free bytes. -/
def QuotaVolume.info (v : QuotaVolume) : DiskM (Bool × Nat) := do
  if !(← v.rootAvailable) then return (false, 0)
  let used ← directorySize (measureDepth (← get)) v.root
  pure (true, v.quota - used)

end PlaybackEngine.Disk
