import PlaybackEngine.Error
import PlaybackEngine.Path

/-!
# The storage volume

A volume of fixed capacity that holds files by path, and a set of directories. Paths are looked
up by their components, so `/a//b` finds the file stored as `/a/b`; a file keeps the spelling
of the path it was first stored under. A file has a length and, when it was written whole, its
bytes; streamed writes only grow the length, and a file that has only a length reads as zeros.
The space used is the sum of the file lengths, and the free space what the capacity leaves,
never below zero.

A file also records where its bytes come from, as pieces laid end to end: bytes written whole,
the zeros of a file made with a length only, and runs of the content a url serves, which a
stream write appends. Reads never show the pieces of a streamed file, but they are the bytes a
file system that keeps them would hold, and the entry carries the proof that they add up to its
length.

A volume can be unmounted, and it can be set to refuse writes. Whole-file writes and opening a
stream fail on an unmounted volume (the capability is not available) or a refusing one (an I/O
fault); a streamed write also fails when it does not fit in the free space. Reading, deleting
or renaming a path that holds no file is an I/O fault `<path> not found`.
-/

set_option autoImplicit false

namespace PlaybackEngine

-- Powers by core's `Nat.pow` and `Int.pow` and sums from core's zero, also where an algebra
-- library is loaded, so that each definition means the same wherever it is built.
attribute [local instance (high)] instPowNat Zero.ofOfNat0

/-- Where a run of a file's bytes comes from: bytes written whole, the zeros of a file made with
a length only, or the bytes `[start, start + length)` of the content a url serves. -/
inductive Piece where
  | bytes (b : List UInt8)
  | zeros (n : Nat)
  | served (url : String) (start length : Nat)
  deriving DecidableEq, Repr

namespace Piece

/-- How many bytes a piece holds. -/
def length : Piece → Nat
  | .bytes b => b.length
  | .zeros n => n
  | .served _ _ n => n

/-- How many bytes pieces laid end to end hold. -/
def total (ps : List Piece) : Nat := (ps.map length).sum

/-- A run of served content and the run that continues it, as one run. -/
def join? : Piece → Piece → Option Piece
  | .served u s n, .served u' s' n' =>
    if u = u' ∧ s + n = s' then some (.served u s (n + n')) else none
  | _, _ => none

/-- Pieces with one more at the end, joined to the last one when it continues it. -/
def push : List Piece → Piece → List Piece
  | [], c => [c]
  | [p], c =>
    match p.join? c with
    | some q => [q]
    | none => [p, c]
  | p :: ps, c => p :: push ps c

theorem length_of_join? {p c q : Piece} (h : p.join? c = some q) :
    q.length = p.length + c.length := by
  match p, c with
  | .served u s n, .served u' s' n' =>
    simp only [join?] at h
    split at h
    · cases h
      rfl
    · cases h

theorem total_push (ps : List Piece) (c : Piece) : total (push ps c) = total ps + c.length := by
  fun_induction push ps c with
  | case1 c => simp [total]
  | case2 p c q h => simp [total, length_of_join? h]
  | case3 p c _ => simp [total]
  | case4 p ps c _ ih =>
    simp only [total, List.map_cons, List.sum_cons] at ih ⊢
    rw [ih]
    omega

end Piece

/-- A file: its length, its bytes when they are known, and where its bytes come from. -/
structure FileEntry where
  length : Nat
  bytes : Option (List UInt8)
  pieces : List Piece
  total_pieces : Piece.total pieces = length
  deriving DecidableEq, Repr

namespace FileEntry

/-- A file written whole with these bytes. -/
def whole (b : List UInt8) : FileEntry :=
  ⟨b.length, some b, [.bytes b], by simp [Piece.total, Piece.length]⟩

/-- A file made with a length only. -/
def sized (n : Nat) : FileEntry := ⟨n, none, [.zeros n], by simp [Piece.total, Piece.length]⟩

/-- An empty file. -/
def empty : FileEntry := ⟨0, none, [], rfl⟩

instance : Inhabited FileEntry := ⟨empty⟩

/-- The file grown by a streamed piece: its stored bytes are gone. -/
def extend (f : FileEntry) (c : Piece) : FileEntry :=
  ⟨f.length + c.length, none, Piece.push f.pieces c, by rw [Piece.total_push, f.total_pieces]⟩

end FileEntry

/-- The largest byte count a 64-bit word holds. -/
def maxWord : Nat := 2 ^ (64 : Nat) - 1

/-- The size and kind of a path. -/
structure FileMetadata where
  size : Nat
  isDirectory : Bool
  deriving DecidableEq, Repr

/-- Whether a volume is there, and how many bytes it has free. -/
structure VolumeInfo where
  mounted : Bool
  availableBytes : Nat
  deriving DecidableEq, Repr

/-- A storage volume. -/
structure Volume where
  capacity : Nat := 2 ^ (30 : Nat)
  mounted : Bool := true
  failWrites : Bool := false
  files : List (String × FileEntry) := []
  dirs : List String := []
  deriving Repr, Inhabited

/-- The fault of a path that holds no file. -/
def notFound (path : String) : HostError := .io ⟨.notFound, s!"{path} not found"⟩

/-- How many bytes at most a file that has only a length reads as. -/
def readLimit : Nat := 1048576

namespace Volume

/-- The file at a path. -/
def file? (v : Volume) (p : String) : Option FileEntry :=
  (v.files.find? (Path.same ·.1 p)).map (·.2)

/-- The volume with the file at `p` set to `f`. -/
def putFile (v : Volume) (p : String) (f : FileEntry) : Volume :=
  if v.files.any (Path.same ·.1 p) then
    { v with files := v.files.map fun (q, g) => if Path.same q p then (q, f) else (q, g) }
  else { v with files := v.files ++ [(p, f)] }

/-- The volume without the file at `p`. -/
def dropFile (v : Volume) (p : String) : Volume :=
  { v with files := v.files.filter fun (q, _) => !Path.same q p }

/-- Bytes used: the sum of the file lengths, at most a word's largest value. -/
def used (v : Volume) : Nat := min maxWord (v.files.foldl (fun acc (_, f) => acc + f.length) 0)

/-- Bytes free: what the capacity leaves, never below zero. -/
def free (v : Volume) : Nat := v.capacity - v.used

/-- Whether a path is one of the directories. -/
def isDir (v : Volume) (p : String) : Bool := v.dirs.any (Path.same · p)

/-- Whether a path is a file or a directory. -/
def exists_ (v : Volume) (p : String) : Bool := v.files.any (Path.same ·.1 p) || v.isDir p

/-- The size and kind of a path. -/
def metadata (v : Volume) (p : String) : Except HostError FileMetadata :=
  match v.file? p with
  | some f => .ok ⟨f.length, false⟩
  | none => if v.isDir p then .ok ⟨0, true⟩ else .error (notFound p)

/-- The length of what is at a path, `none` when nothing is. -/
def fileLen (v : Volume) (p : String) : Except HostError (Option Nat) :=
  if v.exists_ p then (v.metadata p).map (some ·.size) else .ok none

/-- The bytes of a file: those stored, or zeros up to the read limit. -/
def readFile (v : Volume) (p : String) : Except HostError (List UInt8) :=
  match v.file? p with
  | some f => .ok (f.bytes.getD (List.replicate (min f.length readLimit) 0))
  | none => .error (notFound p)

/-- The checks before any write: mounted, and not refusing. -/
def writable (v : Volume) : Except HostError Unit :=
  if !v.mounted then .error (.notAvailable "volume unmounted")
  else if v.failWrites then .error (.io ⟨.other, "write refused"⟩)
  else .ok ()

/-- Replaces a file with bytes. -/
def writeFile (v : Volume) (p : String) (bytes : List UInt8) : Except HostError Volume := do
  v.writable
  pure (v.putFile p (.whole bytes))

/-- Deletes a file. -/
def deleteFile (v : Volume) (p : String) : Except HostError Volume :=
  if v.files.any (Path.same ·.1 p) then .ok (v.dropFile p) else .error (notFound p)

/-- Moves a file, bytes included, replacing what was at the target. -/
def rename (v : Volume) (src dst : String) : Except HostError Volume :=
  match v.file? src with
  | some f => .ok ((v.dropFile src).putFile dst f)
  | none => .error (notFound src)

/-- Every non-empty ancestor of a path, the path included. -/
def ancestors (p : String) : List String :=
  let rec go (fuel : Nat) (q : String) : List String :=
    match fuel with
    | 0 => []
    | fuel + 1 =>
      let rest := match Path.parent? q with
        | some r => go fuel r
        | none => []
      if q.isEmpty then rest else q :: rest
  go (p.length + 2) p

/-- Records a directory and all its ancestors. -/
def createDirAll (v : Volume) (p : String) : Volume :=
  let add (ds : List String) (d : String) : List String :=
    if ds.any (Path.same · d) then ds else ds ++ [d]
  { v with dirs := (ancestors p).foldl add v.dirs }

/-- Opens a stream that writes a file from the start: the file is emptied. -/
def openWriteStream (v : Volume) (p : String) : Except HostError Volume := do
  v.writable
  pure (v.putFile p .empty)

/-- Opens a stream that writes at the end of a file, creating it empty if absent. -/
def openAppendStream (v : Volume) (p : String) : Except HostError Volume := do
  v.writable
  match v.file? p with
  | some _ => pure v
  | none => pure (v.putFile p .empty)

/-- Writes a chunk to a stream on `p`: the file grows by the chunk and loses its stored bytes. A
failure is the text of the I/O fault. -/
def streamWrite (v : Volume) (p : String) (c : Piece) : Except String Volume :=
  if !v.mounted || v.failWrites then .error "write refused"
  else if c.length > v.free then .error "volume full"
  else .ok (v.putFile p (((v.file? p).getD .empty).extend c))

/-- Whether the volume is mounted, and its free bytes. -/
def info (v : Volume) : VolumeInfo :=
  if v.mounted then ⟨true, v.free⟩ else ⟨false, 0⟩

/-- The files by path, in byte order of the paths. -/
def listing (v : Volume) : List (String × FileEntry) :=
  v.files.mergeSort fun a b => decide (a.1 ≤ b.1)

end Volume

end PlaybackEngine
