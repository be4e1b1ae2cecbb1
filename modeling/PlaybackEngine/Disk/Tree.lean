import PlaybackEngine.Error
import PlaybackEngine.Text.Utf8

/-!
# A directory tree with symbolic links

A tree of directories, files and symbolic links below a top directory, each node named by its
path of names from the top, and the way a path is followed through it.

Following a path takes its names in order from a directory: `.` and empty names stay, `..`
goes up (not above the top). A name must be at most 255 bytes, and the whole path, as the
call is given it below the top's own path, less than 4096. Every name but the last must
lead to a directory: a missing one fails, and so does a file, even when only `.` or slashes come
after it. The last name is found as it is, with whether a slash follows it, and a path that ends
in `.` or `..` names a directory rather than an entry of one; the calls read these endings. A
symbolic link is followed by walking its target, from the link's directory (or from the top for
a target starting with `/`), before the names after it; a last link is followed only when asked.
At most 40 links are followed in one walk, and one more is a loop.

The system errors carry their Linux numbers and texts.
-/

set_option autoImplicit false

namespace PlaybackEngine.Disk

-- Sums from core's zero, also where an algebra library is loaded, so that each definition
-- means the same wherever it is built.
attribute [local instance (high)] Zero.ofOfNat0

/-- The system errors of tree operations. -/
inductive Errno where
  | noEntry
  | alreadyExists
  | notDirectory
  | isDirectory
  | nameTooLong
  | notEmpty
  | loop
  | invalid
  | busy
  deriving DecidableEq, Repr, Inhabited

namespace Errno

/-- The number of an error. -/
def number : Errno → Nat
  | .noEntry => 2
  | .alreadyExists => 17
  | .notDirectory => 20
  | .isDirectory => 21
  | .nameTooLong => 36
  | .notEmpty => 39
  | .loop => 40
  | .invalid => 22
  | .busy => 16

/-- The text of an error. -/
def text : Errno → String
  | .noEntry => "No such file or directory"
  | .alreadyExists => "File exists"
  | .notDirectory => "Not a directory"
  | .isDirectory => "Is a directory"
  | .nameTooLong => "File name too long"
  | .notEmpty => "Directory not empty"
  | .loop => "Too many levels of symbolic links"
  | .invalid => "Invalid argument"
  | .busy => "Device or resource busy"

/-- The kind of I/O fault of an error. -/
def kind : Errno → IoKind
  | .noEntry => .notFound
  | .alreadyExists => .alreadyExists
  | .notDirectory => .notADirectory
  | .isDirectory => .isADirectory
  | .nameTooLong => .invalidFilename
  | .notEmpty => .directoryNotEmpty
  | .loop => .filesystemLoop
  | .invalid => .invalidInput
  | .busy => .resourceBusy

/-- An error as an I/O fault: its kind, and its text with its number. -/
def fault (e : Errno) : IoFault :=
  ⟨e.kind, e.text ++ " (os error " ++ toString e.number ++ ")"⟩

end Errno

/-- What is at a path. -/
inductive Node where
  | file (data : List UInt8)
  | dir
  | link (target : String)
  deriving DecidableEq, Repr, Inhabited

/-- A tree below a top directory: every other node by its path of names from the top. -/
structure Tree where
  nodes : List (List String × Node) := []
  deriving Repr, Inhabited

/-- The names of a path written with `/` between them. -/
def pathNames (p : String) : List String := p.splitOn "/"

namespace Tree

/-- The node at a path; the top is a directory. -/
def get? (t : Tree) (p : List String) : Option Node :=
  if p = [] then some .dir else (t.nodes.find? (·.1 == p)).map (·.2)

/-- Puts a node at a path, replacing one there. -/
def put (t : Tree) (p : List String) (n : Node) : Tree :=
  if t.nodes.any (·.1 == p) then { nodes := t.nodes.map fun (q, m) => if q == p then (q, n) else (q, m) }
  else { nodes := t.nodes ++ [(p, n)] }

/-- Whether `q` is `p` or below it. -/
def within (p q : List String) : Bool := p.isPrefixOf q

/-- Removes the node at a path and everything below it. -/
def remove (t : Tree) (p : List String) : Tree :=
  { nodes := t.nodes.filter fun (q, _) => !within p q }

/-- Moves the node at `src` and everything below it to `dst`. -/
def move (t : Tree) (src dst : List String) : Tree :=
  { nodes := t.nodes.map fun (q, n) => if within src q then (dst ++ q.drop src.length, n) else (q, n) }

/-- The names in a directory, in order. -/
def children (t : Tree) (p : List String) : List String :=
  let names := t.nodes.filterMap fun (q, _) =>
    if q.length = p.length + 1 ∧ within p q then q.getLast? else none
  names.mergeSort fun a b => decide (a ≤ b)

/-- The most names any link's target has. -/
def longestTarget (t : Tree) : Nat :=
  t.nodes.foldl (fun m (_, n) => match n with
    | .link target => max m (pathNames target).length
    | _ => m) 0

end Tree

/-- How a path ends, read from its text: with no name at all (it names the directory it starts
from), with `.` or `..`, or with a name, which a slash may follow. -/
inductive Last where
  | here
  | dot
  | up
  | name (n : String) (slash : Bool)
  deriving DecidableEq, Repr

/-- The number of names of a path that are neither empty nor `.`. -/
def realNames (names : List String) : Nat := (names.filter fun n => n ≠ "" ∧ n ≠ ".").length

/-- Drops the empty names at the end of a path: the slashes after its last part. -/
def dropSlashes (names : List String) : List String :=
  (names.reverse.dropWhile (· = "")).reverse

/-- Splits a path into the names of the directories it passes through and how it ends. -/
def splitLast (names : List String) : List String × Last :=
  let trimmed := dropSlashes names
  match trimmed.getLast? with
  | none => ([], .here)
  | some "." => (trimmed.dropLast, .dot)
  | some ".." => (trimmed.dropLast, .up)
  | some n => (trimmed.dropLast, .name n (trimmed.length < names.length))

/-- Where a walk ends: at a node, with its path and whether a slash followed its name; at a
missing last name in a directory; or at a directory named by a last `.` or `..`. -/
inductive Found where
  | node (path : List String) (n : Node) (slash : Bool)
  | absent (parent : List String) (name : String) (slash : Bool)
  | dot (path : List String)
  deriving DecidableEq, Repr

/-- What a walk does with a link in the last place. -/
inductive LastLink where
  | keep
  | follow
  | followUnslashed
  deriving DecidableEq, Repr

/-- Whether a walk follows a last link, given whether a slash comes after it. -/
def LastLink.follows : LastLink → Bool → Bool
  | .keep, _ => false
  | .follow, _ => true
  | .followUnslashed, slash => !slash

/-- The longest name a directory holds, in bytes. -/
def maxNameBytes : Nat := 255

/-- The longest path a call takes, in bytes, the zero byte that ends it included. -/
def maxPathBytes : Nat := 4096

/-- The length in bytes of the top directory's own path, a fresh temporary directory such as
`/tmp/.tmpAbCdEf`. -/
def topPathBytes : Nat := 15

/-- The length in bytes of the path a call is given for names below the top: the top's path,
a slash, and the names joined by slashes. -/
def pathBytes (names : List String) : Nat :=
  topPathBytes + 1 + (names.map Text.utf8Length).sum + (names.length - 1)

/-- Whether a path, with the zero byte that ends it, fits a call. -/
def pathFits (names : List String) : Bool := pathBytes names + 1 ≤ maxPathBytes

/-- How many links one walk may follow. -/
def maxLinks : Nat := 40

/-- Walks names from the directory `here`, with `links` more links allowed. Empty names and `.`
stay, `..` goes up; every name but the last must lead to a directory, and the last one is
found as it is, its link followed as `mode` says. A followed link puts its target's names
before the rest, so slashes after the link now follow the target. `fuel` bounds the steps. -/
def Tree.walkFrom (t : Tree) (mode : LastLink) :
    Nat → Nat → List String → List String → Except Errno Found
  | 0, _, _, _ => .error .loop
  | fuel + 1, links, here, names =>
    match names with
    | [] => .ok (.node here .dir true)
    | name :: rest =>
      let last := rest.all (· = "")
      if name = "" then
        if last then .ok (.node here .dir true) else t.walkFrom mode fuel links here rest
      else if name = "." then
        if last then .ok (.dot here) else t.walkFrom mode fuel links here rest
      else if name = ".." then
        if last then .ok (.dot here.dropLast) else t.walkFrom mode fuel links here.dropLast rest
      else if Text.utf8Length name > maxNameBytes then .error .nameTooLong
      else
        let p := here ++ [name]
        let slash := !rest.isEmpty
        match t.get? p with
        | none => if last then .ok (.absent here name slash) else .error .noEntry
        | some .dir => if last then .ok (.node p .dir slash) else t.walkFrom mode fuel links p rest
        | some (.file d) => if last then .ok (.node p (.file d) slash) else .error .notDirectory
        | some (.link target) =>
          if last ∧ !mode.follows slash then .ok (.node p (.link target) slash)
          else
            match links with
            | 0 => .error .loop
            | links + 1 =>
              let start := if target.startsWith "/" then [] else here
              t.walkFrom mode fuel links start (pathNames target ++ rest)

/-- Walks a path from the top. A path too long for a call is refused before anything is looked
at. A path with no names but empty ones is the top, named as a directory with a slash after
it. -/
def Tree.walk (t : Tree) (names : List String) (mode : LastLink) : Except Errno Found :=
  if !pathFits names then .error .nameTooLong
  else t.walkFrom mode (names.length + (maxLinks + 1) * (t.longestTarget + 1) + 1) maxLinks [] names

/-- The directory a path's directory names lead to, every link on the way followed. -/
def Tree.walkDirs (t : Tree) (dirs : List String) : Except Errno (List String) :=
  match t.walk (dirs ++ ["."]) .keep with
  | .ok (.dot p) => .ok p
  | .ok (.node p _ _) => .ok p
  | .ok (.absent p _ _) => .ok p
  | .error e => .error e

end PlaybackEngine.Disk
