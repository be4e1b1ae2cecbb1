/-!
# File paths

Paths are texts whose components are separated by `/`. A path that starts with `/` is
absolute. Empty components and `.` components after the first stand for nothing; `..` names
the parent.

- The *file name* of a path is its last component, when that is a name: a path ending in
  `..`, the root, and the empty path have none.
- The *parent* of a path is the path without its last component and the separators before
  it; the root and the empty path have none.
- *Joining* a relative path appends it after one separator; joining an absolute path
  replaces the whole.
- Two paths are the *same* when they have the same components: both absolute or both not,
  both starting at `.` or both not, and the same names in order. So `/a//b/./c/` is `/a/b/c`,
  while `./a` and `a` differ.
-/

set_option autoImplicit false

namespace PlaybackEngine.Path

/-- The pieces of a path between its separators, in order, empty ones included: `/a//b` has
the pieces ``, `a`, `` and `b`, and the empty path has one empty piece. -/
def pieces (p : String) : List String :=
  let split := p.toList.foldr (fun c acc =>
    if c = '/' then [] :: acc
    else match acc with
      | piece :: rest => (c :: piece) :: rest
      | [] => [[c]]) [[]]
  split.map String.ofList

/-- The components of a path that name something, in order; the root and `.` components are
left out. -/
def names (p : String) : List String :=
  (pieces p).filter fun c => c ≠ "" ∧ c ≠ "."

/-- The components of a path: whether it is absolute, whether it starts at the current
directory, and its names in order. -/
def components (p : String) : Bool × Bool × List String :=
  let absolute := p.toList.head? = some '/'
  let here := !absolute && (match pieces p with
    | "." :: _ => true
    | _ => false)
  (absolute, here, names p)

/-- Whether two paths have the same components. -/
def same (p q : String) : Bool := components p == components q

/-- The last component of a path, when it is a name. -/
def fileName? (p : String) : Option String :=
  match (names p).getLast? with
  | some ".." => none
  | other => other

/-- The last component's name, or the empty text. -/
def fileName (p : String) : String := (fileName? p).getD ""

/-- Drops trailing separators and `.` components, keeping a leading `/` or `.`. -/
def trimEnd (cs : List Char) : List Char :=
  let rev := cs.reverse
  let rec go (fuel : Nat) (r : List Char) : List Char :=
    match fuel with
    | 0 => r
    | fuel + 1 =>
      match r with
      | '/' :: rest => if rest.isEmpty then r else go fuel rest
      | '.' :: '/' :: rest => go fuel ('/' :: rest)
      | _ => r
  (go (rev.length + 1) rev).reverse

/-- The parent of a path. -/
def parent? (p : String) : Option String :=
  let cs := trimEnd p.toList
  if cs.isEmpty || cs == ['/'] then none
  else
    -- the last component runs back to the last separator
    let rev := cs.reverse
    let afterLast := rev.dropWhile (· ≠ '/')
    match afterLast with
    | [] => some ""
    | _ =>
      let head := trimEnd afterLast.reverse
      if head.isEmpty then some "/" else some (String.ofList head)

/-- Joins `rel` onto `base`. -/
def join (base rel : String) : String :=
  if rel.startsWith "/" then rel
  else if base.isEmpty || base.endsWith "/" then base ++ rel
  else base ++ "/" ++ rel

end PlaybackEngine.Path
