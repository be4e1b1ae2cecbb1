import PlaybackEngine.Disk.Quota
import PlaybackEngine.Script.Step
import PlaybackEngine.Script.Content

/-!
# Disk scenarios

A disk scenario starts from an empty top directory and a volume with a root and a quota, and
runs steps on them: writing, reading, listing, renaming and removing, streams, links, and the
volume's free space. Paths are relative to the top, without `..`; `""` and `.` are the top.
A failure of the tree answers the step with its I/O fault and keeps what the step changed
before it.
-/

set_option autoImplicit false

namespace PlaybackEngine.Script

open Disk

/-- A path's names from the top, empty names and `.` kept, since a slash or `.` at the end
changes what a call does; `none` for an absolute path or one with `..`. The names of `""` are
`[""]`: the top, named with a slash after it. -/
def relativeNames? (p : String) : Option (List String) :=
  if p.startsWith "/" then none
  else
    let names := pathNames p
    if names.contains ".." then none else some names

/-- The fault of a path that is not relative. -/
def pathFault : RequestFault := .invalid "paths must be relative, without .."

/-- A path field of a request. -/
def pathField (j : Json) (k : String) : Read (List String) := do
  match relativeNames? (← required stringValue j k) with
  | some names => pure names
  | none => throw pathFault

/-- Drops the empty names and `.` at the start of a path. -/
def dropLeadingDots (names : List String) : List String :=
  names.dropWhile fun n => n = "" ∨ n = "."

/-- A path as answers show it, relative to the top: its text with the slashes and `.` at its
ends gone, and the rest as written. -/
def shownPath (names : List String) : String := "/".intercalate (dropDots (dropLeadingDots names))

/-- An entry of a listed directory as answers show it: the name after the path as it was
given, with a slash between unless the path is empty or ends in one. -/
def shownEntry (names : List String) (entry : String) : String :=
  match names.getLast? with
  | some "" => shownPath (names.dropLast ++ [entry])
  | _ => shownPath (names ++ [entry])

/-- The tree and the volume of a disk scenario. -/
structure DiskBench where
  tree : Tree := {}
  volume : QuotaVolume

/-- Runs work on the tree: a fault of the tree answers the step, keeping what it changed. -/
def onDisk (work : DiskM Json) : Step DiskBench Json := do
  let b ← get
  let (r, t) := work.run.run b.tree
  set { b with tree := t }
  match r with
  | .ok v => pure v
  | .error e => pure (hostErrorJson (.io e.fault))

/-- The chunks a stream writes. -/
def chunksOf (step : Json) : Read (List (List UInt8)) := do
  let chunks ← withDefault arrayValue step "chunks" []
  chunks.mapM fun
    | .str s => pure (Text.encodeUtf8 s)
    | _ => throw (.invalid "chunks must be strings")

/-- A node's description: its size (none for a directory), whether it is a directory, and
whether it has a time of change. -/
def metadataJson (n : Node) : Json :=
  .obj [("size", match n with
      | .dir => .null
      | _ => Json.nat n.size),
    ("is_directory", .bool (n == .dir)), ("has_modified", .bool true)]

/-- One step of a disk scenario. -/
def diskStep (step : Json) : Step DiskBench Json := do
  let name ← readStep (required stringValue step "do")
  let path : Step DiskBench (List String) := readStep (pathField step "path")
  match name with
  | "write" =>
    let names ← path
    let bytes ← readStep (contentOf step)
    onDisk do writeFile names bytes; pure .null
  | "read" =>
    let names ← path
    onDisk do pure (bytesJson (← query fun t => t.readFile names))
  | "exists" =>
    let names ← path
    onDisk do pure (.bool (← tryExists names))
  | "metadata" =>
    let names ← path
    onDisk do pure (metadataJson (← query fun t => t.stat names))
  | "mkdir" =>
    let names ← path
    onDisk do createDirAll names; pure .null
  | "delete" =>
    let names ← path
    onDisk do change fun t => t.unlink names; pure .null
  | "rename" =>
    let source ← readStep (pathField step "from")
    let target ← readStep (pathField step "to")
    onDisk do change fun t => t.rename source target; pure .null
  | "list" =>
    let names ← path
    onDisk do
      let entries ← query fun t => t.readDir names
      pure (.arr (entries.map fun e => .str (shownEntry names e)))
  | "stream" =>
    let names ← path
    let chunks ← readStep (chunksOf step)
    let append ← readStep (withDefault boolValue step "append" false)
    onDisk do
      let p ← openStream names append
      chunks.forM (writeChunk p)
      pure .null
  | "volume" =>
    if (step.given? "path").isSome then discard path
    let v := (← get).volume
    onDisk do
      let (mounted, available) ← v.info
      pure (.obj [("mounted", .bool mounted), ("available_bytes", Json.nat available)])
  | "file_len" =>
    let names ← path
    if (← get).tree.stat names matches .ok .dir then
      refuse (.invalid "file_len of a directory is not portable")
    onDisk do pure (Json.opt Json.nat (← fileLen names))
  | "dir_size" =>
    let names ← path
    onDisk do pure (Json.nat (← directorySize (measureDepth (← get)) names))
  | "symlink" =>
    let names ← path
    let target ← readStep (required stringValue step "target")
    onDisk do change fun t => t.symlink names target; pure .null
  | "root" =>
    let v := (← get).volume
    pure (.obj [("root", .str (shownPath v.root)), ("quota", Json.nat v.quota)])
  | other => refuse (.unknown "desktop_fs step" other)

/-- Runs the steps in order, each answering one entry. -/
def diskSteps (b : DiskBench) : List Json → List Json
  | [] => []
  | step :: rest =>
    let (result, b') := runStep b (diskStep step)
    result :: diskSteps b' rest

/-- The answer to a disk scenario. -/
def diskAnswer (req : Json) : Read Json := do
  let root ← match relativeNames? (← withDefault stringValue req "root" "cache") with
    | some names => pure names
    | none => throw pathFault
  let quota ← withDefault unsignedValue req "quota" 1000
  let steps ← withDefault arrayValue req "steps" []
  pure (.obj [("steps", .arr (diskSteps { volume := ⟨root, quota⟩ } steps))])

end PlaybackEngine.Script
