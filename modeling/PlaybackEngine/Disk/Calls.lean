import PlaybackEngine.Disk.Tree

/-!
# Calls on a directory tree

The system calls on a tree, each failing without a change or succeeding with the new tree, and
the library operations built from them, which keep what they changed before a failure.

* `stat` follows every link, and a slash after the last name asks for a directory; `mkdir`
  and `symlink` fail on any node at the last name, links included, and on a last `.`;
  `mkdir` allows a slash after the name and `symlink` does not. Opening a file to write
  follows the last link, creating a missing file where a dangling link points, and fails on
  a directory and on a slash after the last name; `unlink` removes a file or link, never a
  directory, and a slash after a name that is not a directory fails.
* `rename` finds both directories first, then refuses a last `.`, then finds the source; a
  source that is not a directory takes no slash at either end; it fails when the source holds
  the target's directory, or the target holds the source's; a name onto itself does nothing;
  a directory replaces only an empty directory, and a file only a file or link.
* `createDirAll` makes a directory and its missing ancestors, and accepts a directory already
  there; the size of a directory is the sum of the sizes of the files below it, links
  followed.
-/

set_option autoImplicit false

namespace PlaybackEngine.Disk

namespace Tree

/-- The node a path leads to, every link followed; a slash after a last name asks for a
directory. -/
def stat (t : Tree) (names : List String) : Except Errno Node :=
  match t.walk names .follow with
  | .ok (.node _ .dir _) => .ok .dir
  | .ok (.node _ n slash) => if slash then .error .notDirectory else .ok n
  | .ok (.absent _ _ _) => .error .noEntry
  | .ok (.dot _) => .ok .dir
  | .error e => .error e

/-- Makes a directory at a path where nothing is; a slash may follow its name. -/
def mkdir (t : Tree) (names : List String) : Except Errno Tree :=
  match t.walk names .keep with
  | .ok (.absent parent name _) => .ok (t.put (parent ++ [name]) .dir)
  | .ok _ => .error .alreadyExists
  | .error e => .error e

/-- Makes a link with a target at a path where nothing is; no slash may follow its name. The
target is taken first, and must be neither empty nor as long as a path can be. -/
def symlink (t : Tree) (names : List String) (target : String) : Except Errno Tree :=
  if Text.utf8Length target ≥ maxPathBytes then .error .nameTooLong
  else if target = "" then .error .noEntry
  else
    match t.walk names .keep with
    | .ok (.absent parent name slash) =>
      if slash then .error .noEntry else .ok (t.put (parent ++ [name]) (.link target))
    | .ok _ => .error .alreadyExists
    | .error e => .error e

/-- Opens a file to write, creating it if missing and emptying it if `truncate`: the path of
the file and the tree. A slash after the last name, before or after following a link, fails
as a directory would. -/
def openWrite (t : Tree) (names : List String) (truncate : Bool) :
    Except Errno (List String × Tree) :=
  match t.walk names .followUnslashed with
  | .ok (.node p (.file _) false) => .ok (p, if truncate then t.put p (.file []) else t)
  | .ok (.node _ (.link _) false) => .error .loop
  | .ok (.absent parent name false) => .ok (parent ++ [name], t.put (parent ++ [name]) (.file []))
  | .ok _ => .error .isDirectory
  | .error e => .error e

/-- Adds bytes at the end of the file at a path. -/
def appendTo (t : Tree) (p : List String) (bytes : List UInt8) : Tree :=
  match t.get? p with
  | some (.file d) => t.put p (.file (d ++ bytes))
  | _ => t

/-- The bytes of a file. -/
def readFile (t : Tree) (names : List String) : Except Errno (List UInt8) :=
  match t.stat names with
  | .ok (.file d) => .ok d
  | .ok _ => .error .isDirectory
  | .error e => .error e

/-- Removes a file or link. A directory, also one named by `.`, is refused; a slash after any
other name fails as not a directory. -/
def unlink (t : Tree) (names : List String) : Except Errno Tree :=
  match t.walk names .keep with
  | .ok (.node _ .dir _) => .error .isDirectory
  | .ok (.dot _) => .error .isDirectory
  | .ok (.node p _ slash) => if slash then .error .notDirectory else .ok (t.remove p)
  | .ok (.absent _ _ _) => .error .noEntry
  | .error e => .error e

/-- The names in a directory, in order. -/
def readDir (t : Tree) (names : List String) : Except Errno (List String) :=
  match t.walk names .follow with
  | .ok (.node p .dir _) => .ok (t.children p)
  | .ok (.dot p) => .ok (t.children p)
  | .ok (.node _ _ _) => .error .notDirectory
  | .ok (.absent _ _ _) => .error .noEntry
  | .error e => .error e

/-- Whether a directory has nothing in it. -/
def isEmptyDir (t : Tree) (p : List String) : Bool := (t.children p).isEmpty

/-- The place a path's last part names for a rename: the top itself, or a name in a directory
with whether a slash follows it. A `.` or `..` there is busy. -/
def renamePlace (dir : List String) : Last → Except Errno (Option (List String × String × Bool))
  | .here => .ok none
  | .name n slash => .ok (some (dir, n, slash))
  | _ => .error .busy

/-- The name of a place, which must fit a directory. -/
def placeName (n : String) : Except Errno Unit :=
  if Text.utf8Length n > maxNameBytes then .error .nameTooLong else .ok ()

/-- Moves the node at one path to another. Each path must fit a call, checked before its
directory is found. Both directories are found first, then a `.` or
`..` at either end is busy; then the source must exist, a source that is not a directory may
have no slash after either name, the source may not hold the target's directory nor the target
the source's, and a name onto itself does nothing. A directory replaces only an empty
directory, and anything else replaces anything but a directory. The top, which is always
named with a slash after it, holds every other place. -/
def rename (t : Tree) (source target : List String) : Except Errno Tree := do
  let (sourceDirs, sourceLast) := splitLast source
  let (targetDirs, targetLast) := splitLast target
  if !pathFits source then throw .nameTooLong
  let sourceDir ← t.walkDirs sourceDirs
  if !pathFits target then throw .nameTooLong
  let targetDir ← t.walkDirs targetDirs
  let from_ ← renamePlace sourceDir sourceLast
  let to_ ← renamePlace targetDir targetLast
  match from_, to_ with
  | none, none => pure t
  | none, some (_, tn, _) => placeName tn; throw .invalid
  | some (sd, sn, _), none =>
    placeName sn
    let some moving := t.get? (sd ++ [sn]) | throw .noEntry
    if moving ≠ .dir then throw .notDirectory
    throw .notEmpty
  | some (sd, sn, sslash), some (td, tn, tslash) =>
    placeName sn
    let src := sd ++ [sn]
    let dst := td ++ [tn]
    let some moving := t.get? src | throw .noEntry
    placeName tn
    if moving ≠ .dir ∧ (sslash ∨ tslash) then throw .notDirectory
    if sd ≠ td then
      if within src td then throw .invalid
      if within dst sd then throw .notEmpty
    if src = dst then return t
    match t.get? dst with
    | some existing =>
      match moving, existing with
      | .dir, .dir => if t.isEmptyDir dst then pure () else throw .notEmpty
      | .dir, _ => throw .notDirectory
      | _, .dir => throw .isDirectory
      | _, _ => pure ()
    | none => pure ()
    pure ((t.remove dst).move src dst)

end Tree

/-- Work on a tree that can fail; a failure keeps the changes made before it. -/
abbrev DiskM := ExceptT Errno (StateM Tree)

/-- Runs a call that fails without a change or gives the new tree. -/
def change (f : Tree → Except Errno Tree) : DiskM Unit := do
  match f (← get) with
  | .ok t => set t
  | .error e => throw e

/-- Runs a call that reads the tree. -/
def query {α : Type} (f : Tree → Except Errno α) : DiskM α := do
  match f (← get) with
  | .ok v => pure v
  | .error e => throw e

/-- Whether a path leads to a directory. -/
def isDir (names : List String) : DiskM Bool := do
  pure (match (← get).stat names with
    | .ok .dir => true
    | _ => false)

/-- Drops the empty names and `.` at the end of a path. -/
def dropDots (names : List String) : List String :=
  (names.reverse.dropWhile fun n => n = "" ∨ n = ".").reverse

/-- The path that holds a path's last name: that name gone, and with it the slashes and `.`
around it. -/
def parentNames (names : List String) : List String := dropDots (dropDots names).dropLast

/-- Makes a directory and its missing ancestors; a directory already there is fine. A missing
ancestor is made first and the directory tried again. `fuel` bounds the ancestors. -/
def createDirAllWith : Nat → List String → DiskM Unit
  | 0, _ => pure ()
  | fuel + 1, names => do
    match (← get).mkdir names with
    | .ok t => set t
    | .error .noEntry =>
      createDirAllWith fuel (parentNames names)
      match (← get).mkdir names with
      | .ok t => set t
      | .error e => if ← isDir names then pure () else throw e
    | .error e => if ← isDir names then pure () else throw e

/-- Makes a directory and its missing ancestors; a directory already there is fine. Each
ancestor has fewer names, so one try per name is enough. -/
def createDirAll (names : List String) : DiskM Unit := createDirAllWith (names.length + 1) names

/-- Makes the directories that hold a path; the top and what holds it are already there. -/
def ensureParent (names : List String) : DiskM Unit :=
  if realNames names = 0 then pure () else createDirAll (parentNames names)

/-- Opens a file to write after making its directories: the path of the file. -/
def openStream (names : List String) (append : Bool) : DiskM (List String) := do
  ensureParent names
  let (p, t) ← query fun t => t.openWrite names !append
  set t
  pure p

/-- Writes bytes at the end of an open file. -/
def writeChunk (p : List String) (bytes : List UInt8) : DiskM Unit :=
  modify fun t => t.appendTo p bytes

/-- Replaces a file's content, making the file and its directories as needed. -/
def writeFile (names : List String) (bytes : List UInt8) : DiskM Unit := do
  let p ← openStream names false
  writeChunk p bytes

/-- Whether a path leads to a node; a missing one is not an error, other faults are. -/
def tryExists (names : List String) : DiskM Bool := do
  match (← get).stat names with
  | .ok _ => pure true
  | .error .noEntry => pure false
  | .error e => throw e

/-- The size of a node: a file's length in bytes, and nothing for a directory. -/
def Node.size : Node → Nat
  | .file d => d.length
  | _ => 0

/-- The length of a file, or nothing if the path leads nowhere. -/
def fileLen (names : List String) : DiskM (Option Nat) := do
  if !(← tryExists names) then return none
  pure (some (← query fun t => t.stat names).size)

/-- The sum of the sizes of the files below a directory, links followed; `fuel` bounds the
depth. -/
def directorySize : Nat → List String → DiskM Nat
  | 0, _ => throw .loop
  | fuel + 1, names => do
    let entries ← query fun t => t.readDir names
    entries.foldlM (fun total name => do
      let node ← query fun t => t.stat (names ++ [name])
      match node with
      | .dir => pure (total + (← directorySize fuel (names ++ [name])))
      | n => pure (total + n.size)) 0

end PlaybackEngine.Disk
