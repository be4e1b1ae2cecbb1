import PlaybackEngine.Text.Alphanumeric
import PlaybackEngine.Text.Blank

/-!
# Checking the syntax of patterns

Whether a text is a pattern a matcher can be built from, and why not. A matcher is a
deterministic automaton over UTF-8 text, built without Unicode tables, so a pattern fails for
two reasons: its syntax is wrong or it needs a table, or it uses a word boundary in Unicode
mode, which such an automaton cannot decide.

The syntax read here:

* Groups: `(...)`, `(?:...)`, named `(?P<name>...)` and `(?<name>...)` (a name starts with `_` or
  a letter and goes on with letters, digits, `_`, `.`, `[` and `]`; no name twice), flag groups
  `(?flags:...)` and flag settings `(?flags)`. Flags are `i m s U u x R`, each at most once, with
  one `-` before those turned off, and not at the end; an empty setting `(?)` is refused.
  Look-around `(?=`, `(?!`, `(?<=`, `(?<!` is refused. Every group must close, and no `)` may
  close what is not open. Flags hold to the end of the group they are set in.
* Repetitions `?`, `*`, `+` and `{m}`, `{m,}`, `{m,n}` (numbers to 2^32 - 1, blanks around
  them allowed, `m ≤ n`), each optionally followed by `?`. They must follow something other
  than the start of a sequence, a `|`, an opening or a flag setting.
* Escapes: a digit is refused; `\x`, `\u`, `\U` take 2, 4 or 8 hexadecimal digits or any in
  braces, and must give a Unicode scalar value; `\d \s \w \D \S \W`; any ASCII character that
  is not a letter, digit, `<` or `>` stands for itself; `\a \f \t \n \r \v`; the assertions
  `\A \z \b \B \< \>`, and `\b{start}`, `\b{end}`, `\b{start-half}`, `\b{end-half}`.
  Anything else after `\`, and a `\` at the end, is refused; so are the Unicode classes `\p` and
  `\P`, which need tables.
* Classes `[...]`: `^` negates, leading `-` and a first `]` stand for themselves; nested
  classes, the ASCII classes `[:name:]` and `[:^name:]`, the operators `&&`, `--` and `~~`, and
  ranges `a-z` between two single characters in order. Assertions are refused inside. A class
  must close.
* With the flag `x`, blanks and comments from `#` to the end of the line are skipped between
  the parts of a pattern, also inside classes, braces and hexadecimal escapes.
* The syntax tree may nest at most 250 deep: a group, a repetition, a class, an alternation,
  a sequence of two or more items, and inside a class a union of two or more items and an
  operator each count one level.

In Unicode mode the shorthand classes and the case-insensitive matching of characters and
classes need tables, so they are refused. With Unicode off (flag `u` cleared) a pattern must
still match only UTF-8: `.`, negated classes, `\D \S \W`, `\B`, and `\x` bytes from `0x80` are
refused, and so are characters outside ASCII inside classes.
-/

set_option autoImplicit false

namespace PlaybackEngine.Pattern

-- Powers by core's `Nat.pow` and `Int.pow`, also where an algebra library is loaded, so that
-- each definition means the same wherever it is built.
attribute [local instance (high)] instPowNat

/-- Why a pattern cannot be used. -/
inductive PatternFault where
  /-- Its syntax is wrong, or it asks for what the automaton does not allow. -/
  | malformed
  /-- It uses a word boundary in Unicode mode. -/
  | unicodeWordBoundary
  deriving DecidableEq, Repr

/-- The words a matcher's builder gives for a fault. -/
def PatternFault.message : PatternFault → String
  | .malformed => "error building NFA"
  | .unicodeWordBoundary =>
    "unsupported regex feature for DFAs: cannot build DFAs for regexes with Unicode word " ++
      "boundaries; switch to ASCII word boundaries, or heuristically enable Unicode word " ++
      "boundaries or use a different regex engine"

/-- The flags in force where a pattern is read. -/
structure Mode where
  /-- Whether characters are Unicode scalar values rather than bytes. -/
  unicode : Bool := true
  /-- Whether letters match either case. -/
  caseless : Bool := false
  /-- Whether blanks and comments are skipped. -/
  verbose : Bool := false
  deriving DecidableEq, Repr

/-- Drops blanks and comments, a comment running from `#` through the end of its line;
`inComment` tells whether one is open. -/
def skipSpace : List Char → Bool → List Char
  | [], _ => []
  | c :: rest, true => skipSpace rest (c ≠ '\n')
  | c :: rest, false =>
    if Text.isBlank c then skipSpace rest false
    else if c = '#' then skipSpace rest true
    else c :: rest

/-- The input after the blanks and comments a mode skips. -/
def Mode.skip (m : Mode) (cs : List Char) : List Char :=
  if m.verbose then skipSpace cs false else cs

/-- The next character that counts, looking past blanks and, in verbose mode, past the first
`#` met; the rest of a comment is not skipped. -/
def Mode.peek (m : Mode) (cs : List Char) : Option Char :=
  if !m.verbose then cs.head?
  else
    match cs.dropWhile Text.isBlank with
    | '#' :: more => (more.dropWhile Text.isBlank).head?
    | rest => rest.head?

/-- The mode after one flag is turned on or off. -/
def Mode.set (m : Mode) (flag : Char) (on : Bool) : Mode :=
  if flag = 'u' then { m with unicode := on }
  else if flag = 'i' then { m with caseless := on }
  else if flag = 'x' then { m with verbose := on }
  else m

/-- What an assertion asks of the place it stands. -/
inductive Assertion where
  /-- The start or end of the text. -/
  | edge
  /-- A word boundary or a side of one. -/
  | word
  /-- No word boundary. -/
  | notWord
  deriving DecidableEq, Repr

/-- What an escape stands for. -/
inductive Escaped where
  /-- A character; `byte` when written as a `\x` escape of two digits, which is a byte with
  Unicode off. -/
  | literal (c : Char) (byte : Bool)
  /-- One of the shorthand classes `\d \s \w`, or a negated one. -/
  | shorthand (negated : Bool)
  /-- An assertion. -/
  | assertion (kind : Assertion)
  deriving DecidableEq, Repr

/-- Whether a character is a hexadecimal digit. -/
def isHex (c : Char) : Bool := c.isDigit || ('a' ≤ c && c ≤ 'f') || ('A' ≤ c && c ≤ 'F')

/-- The value of hexadecimal digits. -/
def hexValue (ds : List Char) : Nat :=
  ds.foldl (fun n d =>
    let digit := if d.isDigit then d.toNat - 48 else if d ≤ 'F' then d.toNat - 55 else d.toNat - 87
    n * 16 + digit) 0

/-- Whether a number is a Unicode scalar value: at most `0x10FFFF` and not a surrogate. -/
def isScalar (n : Nat) : Bool := n ≤ 0x10FFFF && !(0xD800 ≤ n && n ≤ 0xDFFF)

/-- The character of hexadecimal digits, when they give a scalar value. -/
def hexChar? (ds : List Char) : Option Char :=
  let v := hexValue ds
  if isScalar v then some (Char.ofNat v) else none

/-- The digits of a hexadecimal escape in braces, after its `{` or a digit: the digits so far,
last first, and the input after the current character. Gives the digits and the input after
the closing `}`. -/
def hexBraced (m : Mode) : Nat → List Char → List Char → Option (List Char × List Char)
  | 0, _, _ => none
  | fuel + 1, ds, cs =>
    match m.skip cs with
    | [] => none
    | '}' :: rest => if ds.isEmpty then none else some (ds.reverse, m.skip rest)
    | c :: rest => if isHex c then hexBraced m fuel (c :: ds) rest else none

/-- The digits of a hexadecimal escape of a fixed count, from its first digit: the digits so
far, last first. Gives the digits and the input after the last one. -/
def hexFixed (m : Mode) : Nat → List Char → List Char → Option (List Char × List Char)
  | 0, ds, cs => some (ds.reverse, cs)
  | n + 1, ds, c :: rest =>
    if !isHex c then none
    else if n = 0 then some ((c :: ds).reverse, m.skip rest)
    else
      match m.skip rest with
      | [] => none
      | more => hexFixed m n (c :: ds) more
  | _ + 1, _, [] => none

/-- A hexadecimal escape after its letter: exactly `count` digits, or any number in braces.
Gives the character, whether it was written with a fixed count, and the rest. -/
def hexEscape (m : Mode) (count : Nat) (cs : List Char) : Option (Char × Bool × List Char) :=
  match m.skip cs with
  | [] => none
  | '{' :: more => do
    let (ds, rest) ← hexBraced m (more.length + 1) [] more
    let c ← hexChar? ds
    pure (c, false, rest)
  | more => do
    let (ds, rest) ← hexFixed m count [] more
    let c ← hexChar? ds
    pure (c, true, rest)

/-- Whether a character may stand in the name of a special word boundary. -/
def isBoundaryNameChar (c : Char) : Bool := c.isAlpha || c = '-'

/-- The name of a special word boundary from its current character: the characters so far,
last first. Gives the name and the input at the first character that cannot stand in it. -/
def boundaryName (m : Mode) : Nat → List Char → List Char → List Char × List Char
  | 0, name, cs => (name.reverse, cs)
  | fuel + 1, name, c :: rest =>
    if isBoundaryNameChar c then boundaryName m fuel (c :: name) (m.skip rest)
    else (name.reverse, c :: rest)
  | _ + 1, name, [] => (name.reverse, [])

/-- What follows `\b`: a special word boundary in braces, or nothing more. Braces that do not
start with a name character are left for a counted repetition. -/
def afterWordBoundary (m : Mode) : List Char → Option (List Char)
  | '{' :: more =>
    match m.skip more with
    | [] => none
    | c :: rest =>
      if !isBoundaryNameChar c then some ('{' :: more)
      else
        match boundaryName m (rest.length + 1) [] (c :: rest) with
        | (name, '}' :: after) =>
          let name := String.ofList name
          if name = "start" || name = "end" || name = "start-half" || name = "end-half" then
            some after
          else none
        | _ => none
  | cs => some cs

/-- Reads an escape after its `\`: what it stands for and the rest. -/
def escape (m : Mode) : List Char → Option (Escaped × List Char)
  | [] => none
  | c :: rest =>
    if c.isDigit then none
    else if c = 'x' then (hexEscape m 2 rest).map fun (ch, fixed, r) => (.literal ch fixed, r)
    else if c = 'u' then (hexEscape m 4 rest).map fun (ch, _, r) => (.literal ch false, r)
    else if c = 'U' then (hexEscape m 8 rest).map fun (ch, _, r) => (.literal ch false, r)
    else if c = 'd' || c = 's' || c = 'w' then some (.shorthand false, rest)
    else if c = 'D' || c = 'S' || c = 'W' then some (.shorthand true, rest)
    else if c.toNat < 128 && !c.isAlphanum && c ≠ '<' && c ≠ '>' then
      some (.literal c false, rest)
    else if c = 'a' then some (.literal '\x07' false, rest)
    else if c = 'f' then some (.literal '\x0c' false, rest)
    else if c = 't' then some (.literal '\t' false, rest)
    else if c = 'n' then some (.literal '\n' false, rest)
    else if c = 'r' then some (.literal '\r' false, rest)
    else if c = 'v' then some (.literal '\x0b' false, rest)
    else if c = 'A' || c = 'z' then some (.assertion .edge, rest)
    else if c = 'B' then some (.assertion .notWord, rest)
    else if c = '<' || c = '>' then some (.assertion .word, rest)
    else if c = 'b' then (afterWordBoundary m rest).map fun r => (.assertion .word, r)
    else none

/-- Whether a character may stand outside a class: with Unicode on, only where case does not
matter. -/
def literalAllowed (m : Mode) : Bool := !(m.unicode && m.caseless)

/-- Whether an escape may stand outside a class in a mode. -/
def Escaped.allowedOutside (m : Mode) : Escaped → Bool
  | .literal c byte => if m.unicode then literalAllowed m else !byte || c.toNat < 128
  | .shorthand negated => !m.unicode && !negated
  | .assertion kind => m.unicode || kind ≠ .notWord

/-- Whether an escape is a word boundary that needs Unicode. -/
def Escaped.unicodeWord (m : Mode) : Escaped → Bool
  | .assertion kind => kind ≠ .edge && m.unicode
  | _ => false

/-- The names of the ASCII classes. -/
def asciiClassNames : List String :=
  ["alnum", "alpha", "ascii", "blank", "cntrl", "digit", "graph", "lower", "print", "punct",
    "space", "upper", "word", "xdigit"]

/-- An ASCII class after its `[`: `:name:]` or `:^name:]`. Gives whether it is negated and the
rest, or nothing when the text is not one. -/
def asciiClass : List Char → Option (Bool × List Char)
  | ':' :: more =>
    let (negated, body) := match more with
      | '^' :: b => (true, b)
      | b => (false, b)
    let name := String.ofList (body.takeWhile (· ≠ ':'))
    match body.dropWhile (· ≠ ':') with
    | ':' :: ']' :: rest => if asciiClassNames.contains name then some (negated, rest) else none
    | _ => none
  | _ => none

/-- The leading `-` of a class, each standing for itself: how many, and the rest, which may
not end there. -/
def leadingDashes (m : Mode) : Nat → Nat → List Char → Option (Nat × List Char)
  | fuel + 1, n, '-' :: rest =>
    match m.skip rest with
    | [] => none
    | more => leadingDashes m fuel (n + 1) more
  | _, n, cs => some (n, cs)

/-- The opening of a class after its `[`: whether it is negated, how many leading characters
stand for themselves (the `-`s, or a first `]`), and the rest. -/
def classOpening (m : Mode) (cs : List Char) : Option (Bool × Nat × List Char) := do
  let (negated, body) ← match m.skip cs with
    | [] => none
    | '^' :: b =>
      match m.skip b with
      | [] => none
      | more => some (true, more)
    | b => some (false, b)
  let (dashes, body) ← leadingDashes m (body.length + 1) 0 body
  if dashes = 0 then
    match body with
    | ']' :: rest =>
      match m.skip rest with
      | [] => none
      | more => some (negated, 1, more)
    | _ => some (negated, 0, body)
  else some (negated, dashes, body)

/-- One item of a class: a character or an escape. -/
def classItem (m : Mode) : List Char → Option (Escaped × List Char)
  | '\\' :: rest => escape m rest
  | c :: rest => some (.literal c false, rest)
  | [] => none

/-- Whether an item may stand in a class: no assertion; with Unicode on no shorthand class,
and with it off only ASCII characters and the plain shorthand classes. -/
def Escaped.allowedInClass (m : Mode) : Escaped → Bool
  | .literal c _ => m.unicode || c.toNat < 128
  | .shorthand negated => !m.unicode && !negated
  | .assertion _ => false

/-- The character an item stands for, when it is a single one. -/
def Escaped.char? : Escaped → Option Char
  | .literal c _ => some c
  | _ => none

/-- One item of a class, or a range of two: the rest after it, if it is allowed. A `-` starts a
range unless a `]` or another `-` follows it. -/
def classRange (m : Mode) (cs : List Char) : Option (List Char) := do
  let (first, rest) ← classItem m cs
  match m.skip rest with
  | [] => none
  | '-' :: after =>
    let next := m.peek after
    if next = some ']' || next = some '-' then
      if first.allowedInClass m then some ('-' :: after) else none
    else
      match m.skip after with
      | [] => none
      | more =>
        let (second, rest') ← classItem m more
        let a ← first.char?
        let b ← second.char?
        if a ≤ b && first.allowedInClass m && second.allowedInClass m then some rest'
        else none
  | more => if first.allowedInClass m then some more else none

/-- One class being read, as a node of the syntax tree: the depth of the operators read so far
with their operands (`none` before the first operator), and the union of items after them,
with how many there are and how deep the deepest is. -/
structure ClassLevel where
  chain : Option Nat := none
  items : Nat := 0
  deepest : Nat := 0
  deriving Repr

/-- The depth of the union being read: a union of two or more items is a node of its own. -/
def ClassLevel.unionDepth (l : ClassLevel) : Nat :=
  if l.items ≥ 2 then 1 + l.deepest else l.deepest

/-- The depth of what the class holds: each operator is a node over the operators before it
and the union after it. -/
def ClassLevel.setDepth (l : ClassLevel) : Nat :=
  match l.chain with
  | none => l.unionDepth
  | some d => 1 + max d l.unionDepth

/-- Adds an item of a depth to the union being read. -/
def ClassLevel.push (l : ClassLevel) (d : Nat) : ClassLevel :=
  { l with items := l.items + 1, deepest := max l.deepest d }

/-- An operator: what was read becomes its left side. -/
def ClassLevel.operator (l : ClassLevel) : ClassLevel := { chain := some l.setDepth }

/-- Reads the body of a class to the `]` that closes the outermost one, `levels` holding the
classes open around the point, innermost first: the depth of the outermost class in the syntax
tree and the rest after it. `fuel` bounds the steps. -/
def classBody (m : Mode) : Nat → List ClassLevel → List Char → Option (Nat × List Char)
  | 0, _, _ => none
  | _ + 1, [], _ => none
  | fuel + 1, level :: outer, cs =>
    match m.skip cs with
    | [] => none
    | '[' :: rest =>
      match asciiClass rest with
      | some (negated, after) =>
        if m.unicode || !negated then classBody m fuel (level.push 0 :: outer) after else none
      | none =>
        match classOpening m rest with
        | some (negated, lead, after) =>
          if m.unicode || !negated then classBody m fuel ({ items := lead } :: level :: outer) after
          else none
        | none => none
    | ']' :: rest =>
      let d := 1 + level.setDepth
      match outer with
      | [] => some (d, rest)
      | parent :: more => classBody m fuel (parent.push d :: more) rest
    | '&' :: '&' :: rest => classBody m fuel (level.operator :: outer) rest
    | '-' :: '-' :: rest => classBody m fuel (level.operator :: outer) rest
    | '~' :: '~' :: rest => classBody m fuel (level.operator :: outer) rest
    | more =>
      match classRange m more with
      | some after => classBody m fuel (level.push 0 :: outer) after
      | none => none

/-- A class after its `[`: its depth in the syntax tree and the rest after its closing `]`.
Case-insensitive matching of a class needs Unicode tables with Unicode on. -/
def classEnd (m : Mode) (cs : List Char) : Option (Nat × List Char) :=
  if !literalAllowed m then none
  else
    match classOpening m cs with
    | some (negated, lead, body) =>
      if m.unicode || !negated then classBody m (cs.length + 1) [{ items := lead }] body else none
    | none => none

/-- The digits of a decimal number from its current character, each followed by the blanks
and comments the mode skips: the digits so far, last first. -/
def decimalDigits (m : Mode) : Nat → List Char → List Char → List Char × List Char
  | 0, ds, cs => (ds.reverse, cs)
  | fuel + 1, ds, d :: rest =>
    if d.isDigit then decimalDigits m fuel (d :: ds) (m.skip rest) else (ds.reverse, d :: rest)
  | _ + 1, ds, [] => (ds.reverse, [])

/-- A decimal number with blanks around it: its value (nothing without digits) and the rest. -/
def decimal (m : Mode) (cs : List Char) : Option Nat × List Char :=
  let cs := cs.dropWhile Text.isBlank
  let (ds, rest) := decimalDigits m (cs.length + 1) [] cs
  let rest := rest.dropWhile Text.isBlank
  (if ds.isEmpty then none else some (ds.foldl (fun n d => n * 10 + (d.toNat - 48)) 0), rest)

/-- The largest count a repetition may give. -/
def maxCount : Nat := 2 ^ (32 : Nat) - 1

/-- The input after the `}` of a counted repetition, without the `?` that makes it lazy. -/
def afterCount (m : Mode) (cs : List Char) : List Char :=
  match m.skip cs with
  | '?' :: rest => rest
  | rest => rest

/-- A counted repetition after its `{`: `m}`, `m,}` or `m,n}` with `m ≤ n`, then an optional
`?`. Gives the rest. -/
def countedRepetition (m : Mode) (cs : List Char) : Option (List Char) :=
  let cs := m.skip cs
  if cs.isEmpty then none
  else
    let (low, rest) := decimal m cs
    let fits (n : Option Nat) : Bool := match n with
      | some v => v ≤ maxCount
      | none => false
    match rest with
    | ',' :: more =>
      match m.skip more with
      | [] => none
      | '}' :: after => if fits low then some (afterCount m after) else none
      | more =>
        let (high, rest') := decimal m more
        match rest', low, high with
        | '}' :: after, some l, some h =>
          if fits low && fits high && l ≤ h then some (afterCount m after) else none
        | _, _, _ => none
    | '}' :: after => if fits low then some (afterCount m after) else none
    | _ => none

/-- The sequence being read, as a node of the syntax tree: how many items it has and how deep
the deepest is. -/
structure Sequence where
  items : Nat := 0
  deepest : Nat := 0
  deriving Repr

/-- The depth of a sequence: a sequence of two or more items is a node of its own. -/
def Sequence.depth (s : Sequence) : Nat := if s.items ≥ 2 then 1 + s.deepest else s.deepest

/-- The alternatives being read: how many were closed by a `|`, the deepest of those, and the
sequence being read. -/
structure Alternatives where
  closed : Nat := 0
  deepest : Nat := 0
  current : Sequence := {}
  deriving Repr

/-- The depth of alternatives: two or more make a node of their own. -/
def Alternatives.depth (a : Alternatives) : Nat :=
  if a.closed ≥ 1 then 1 + max a.deepest a.current.depth else a.current.depth

/-- What a group keeps of the point it opens at: the mode and the alternatives around it. -/
structure Frame where
  mode : Mode
  around : Alternatives
  deriving Repr

/-- Where reading a pattern stands. -/
structure Reading where
  /-- The flags in force. -/
  mode : Mode := {}
  /-- The alternatives of the innermost open group, or of the whole pattern. -/
  alternatives : Alternatives := {}
  /-- The depth of the last item of the current sequence, when a repetition may follow it. -/
  last : Option Nat := none
  /-- The open groups, innermost first. -/
  groups : List Frame := []
  /-- The names of the named groups so far. -/
  names : List String := []
  /-- Whether a word boundary in Unicode mode was used. -/
  wordBoundary : Bool := false
  deriving Repr

/-- Adds an item of a depth to the current sequence; `repeatable` tells whether a repetition
may follow it. -/
def Reading.item (r : Reading) (d : Nat) (repeatable : Bool) : Reading :=
  let s := r.alternatives.current
  { r with alternatives := { r.alternatives with current := { items := s.items + 1, deepest := max s.deepest d } },
           last := if repeatable then some d else none }

/-- Repeats the last item, which becomes one level deeper. -/
def Reading.repeated (r : Reading) : Option Reading :=
  match r.last with
  | none => none
  | some d =>
    let s := r.alternatives.current
    some { r with alternatives := { r.alternatives with current := { s with deepest := max s.deepest (d + 1) } },
                  last := some (d + 1) }

/-- Closes the current alternative at a `|`. -/
def Reading.alternate (r : Reading) : Reading :=
  let a := r.alternatives
  { r with alternatives := { closed := a.closed + 1, deepest := max a.deepest a.current.depth },
           last := none }

/-- Opens a group with a mode inside it. -/
def Reading.enter (r : Reading) (inner : Mode) : Reading :=
  { r with groups := ⟨r.mode, r.alternatives⟩ :: r.groups, mode := inner, alternatives := {},
           last := none }

/-- Closes the innermost group, which becomes an item of the sequence around it. -/
def Reading.leave (r : Reading) : Option Reading :=
  match r.groups with
  | [] => none
  | f :: outer =>
    let d := 1 + r.alternatives.depth
    some ({ r with mode := f.mode, alternatives := f.around, groups := outer }.item d true)

/-- The flags of a group or setting after its `(?`: the mode after them, the character that
ends them (`:` or `)`), the rest, and whether any flag was given. -/
def flagsEnd : Mode → List Char → List Char → Bool → Bool → Option (Mode × Char × List Char × Bool)
  | _, [], _, _, _ => none
  | m, c :: rest, seen, negating, lastNegation =>
    if c = ':' || c = ')' then
      if lastNegation then none else some (m, c, rest, !seen.isEmpty)
    else if c = '-' then
      if seen.contains '-' then none else flagsEnd m rest (c :: seen) true true
    else if "imsUuxR".toList.contains c then
      if seen.contains c then none
      else flagsEnd (m.set c !negating) rest (c :: seen) negating false
    else none

/-- Whether a character may stand in a group's name, first or later. -/
def isNameChar (first : Bool) (c : Char) : Bool :=
  if first then c = '_' || Text.isAlphabetic c
  else c = '_' || c = '.' || c = '[' || c = ']' || Text.isAlphanumeric c

/-- A group's name after its `<`: the name and the rest after its `>`. -/
def groupName (cs : List Char) : Option (String × List Char) :=
  let name := cs.takeWhile (· ≠ '>')
  match cs.dropWhile (· ≠ '>') with
  | '>' :: rest =>
    match name with
    | [] => none
    | c :: more =>
      if isNameChar true c && more.all (isNameChar false) then some (String.ofList name, rest)
      else none
  | _ => none

/-- Opens a group or sets flags, after the `(`: the reading and the rest. -/
def openGroup (r : Reading) (cs : List Char) : Option (Reading × List Char) :=
  match r.mode.skip cs with
  | '?' :: '=' :: _ | '?' :: '!' :: _ | '?' :: '<' :: '=' :: _ | '?' :: '<' :: '!' :: _ => none
  | '?' :: 'P' :: '<' :: rest | '?' :: '<' :: rest =>
    match groupName rest with
    | some (n, after) =>
      if r.names.contains n then none
      else some ({ r.enter r.mode with names := n :: r.names }, after)
    | none => none
  | '?' :: rest =>
    if rest.isEmpty then none
    else
      match flagsEnd r.mode rest [] false false with
      | some (m, ')', after, given) =>
        if given then some ({ r with mode := m }.item 0 false, after) else none
      | some (m, _, after, _) => some (r.enter m, after)
      | none => none
  | rest => some (r.enter r.mode, rest)

/-- The depth the syntax tree may nest to. -/
def nestLimit : Nat := 250

/-- Reads a pattern from where `r` stands. `fuel` bounds the steps; each step reads at least one
character. -/
def scan : Nat → Reading → List Char → Option Reading
  | 0, _, _ => none
  | fuel + 1, r, cs =>
    match r.mode.skip cs with
    | [] => if r.groups.isEmpty then some r else none
    | c :: rest =>
      if c = '(' then
        match openGroup r rest with
        | some (r', after) => scan fuel r' after
        | none => none
      else if c = ')' then
        match r.leave with
        | some r' => scan fuel r' rest
        | none => none
      else if c = '|' then scan fuel r.alternate rest
      else if c = '[' then
        match classEnd r.mode rest with
        | some (d, after) => scan fuel (r.item d true) after
        | none => none
      else if c = '?' || c = '*' || c = '+' then
        match r.repeated with
        | some r' => scan fuel r' (dropLazy rest)
        | none => none
      else if c = '{' then
        match r.repeated, countedRepetition r.mode rest with
        | some r', some after => scan fuel r' after
        | _, _ => none
      else if c = '\\' then
        match escape r.mode rest with
        | some (e, after) =>
          if e.allowedOutside r.mode then
            let word := r.wordBoundary || e.unicodeWord r.mode
            scan fuel { r.item 0 true with wordBoundary := word } after
          else none
        | none => none
      else if c = '.' then
        if r.mode.unicode then scan fuel (r.item 0 true) rest else none
      else if c = '^' || c = '$' then scan fuel (r.item 0 true) rest
      else if literalAllowed r.mode then scan fuel (r.item 0 true) rest
      else none
where
  /-- Drops the `?` right after a repetition that makes it lazy. -/
  dropLazy : List Char → List Char
    | '?' :: rest => rest
    | cs => cs

/-- Why a pattern cannot be used, or nothing when it can. -/
def fault? (pattern : String) : Option PatternFault :=
  let cs := pattern.toList
  match scan (cs.length + 1) {} cs with
  | none => some .malformed
  | some r =>
    if r.alternatives.depth > nestLimit then some .malformed
    else if r.wordBoundary then some .unicodeWordBoundary
    else none

end PlaybackEngine.Pattern
