import PlaybackEngine.Logging.Entry
import PlaybackEngine.Text.Blank
import PlaybackEngine.Text.Debug
import PlaybackEngine.Text.PatternSyntax
import PlaybackEngine.Text.Utf8

/-!
# Log filters

A filter is a list of directives, written separated by commas; empty ones are skipped. A
directive that is a level as a whole is a bare level, which applies to every target. Levels are
`off`, `error`, `warn`, `info`, `debug`, `trace` (in any case) or a number 0 to 5, and the empty
level means `error`.

Any other directive is read character by character, without the blanks at its ends: a target
(starting with a letter or digit of any script, `-`, `:` or `_`, and going on with anything but
`=` and `[`), then optionally a span selector `[name]` or `[name{fields}]`, then optionally
`=level`. Nothing may follow a span selector but `=`, and nothing may follow the fields but
`]`; a directive that stops inside a selector is refused, and so are empty fields. A field is
`name` or `name=value`; a value that is not a boolean or a number must be a pattern. The parts
are cut from the directive as given at the offsets of the trimmed text, so blanks at the start
shift them (and a cut inside a character stops the program), and blanks at the end stay in the
level, which then does not parse.

An event or span is enabled by the most specific directive without a span selector whose target
its own target starts with (the longest such target); without one, by a bare level if there is
one, else it is off.

The engine's own filter enables its crates at the configured level and the HTTP stack from
`warn` on.
-/

set_option autoImplicit false

namespace PlaybackEngine.Logging

/-- A level filter: `none` lets nothing through, `some l` lets `l` and above through. -/
abbrev LevelFilter := Option LogLevel

/-- A field a directive asks of a span: its name, and the value it must have, if any. -/
structure FieldMatch where
  name : String
  value : Option String
  deriving DecidableEq, Repr, Inhabited

/-- A directive: the target it is for (`none` for every target), the span it applies inside
and the fields that span must have, and its level filter. -/
structure Directive where
  target : Option String
  span : Option String := none
  fields : List FieldMatch := []
  level : LevelFilter
  deriving DecidableEq, Repr, Inhabited

/-- Why a filter text does not parse. -/
inductive FilterFault where
  /-- A level that is not one. -/
  | badLevel
  /-- A directive of the wrong shape. -/
  | badDirective
  /-- A field value that is no pattern; the text says why. -/
  | badField (why : String)
  /-- Reading cut the directive's text inside a character, which stops the program; the text
  is what it says then. -/
  | cutInsideChar (message : String)
  deriving DecidableEq, Repr, Inhabited

/-- The wording of a filter fault. -/
def FilterFault.message : FilterFault → String
  | .badLevel =>
    "error parsing level filter: expected one of \"off\", \"error\", \"warn\", \"info\", " ++
      "\"debug\", \"trace\", or a number 0-5"
  | .badDirective => "invalid filter directive"
  | .badField why => "invalid field filter: " ++ why
  | .cutInsideChar message => message

/-- A level filter by its name, of any case. -/
def namedLevelFilter? (s : String) : Option LevelFilter :=
  match Text.lowerAscii s with
  | "off" => some none
  | "error" => some (some .error)
  | "warn" => some (some .warn)
  | "info" => some (some .info)
  | "debug" => some (some .debug)
  | "trace" => some (some .trace)
  | _ => none

/-- A level filter by number: 0 is off, 1 error, up to 5 trace. -/
def numberedLevelFilter? (n : Nat) : Option LevelFilter :=
  match n with
  | 0 => some none
  | 1 => some (some .error)
  | 2 => some (some .warn)
  | 3 => some (some .info)
  | 4 => some (some .debug)
  | 5 => some (some .trace)
  | _ => none

/-- The value of a decimal numeral with an optional leading `+`. -/
def numeral? (s : String) : Option Nat :=
  let digits := match s.toList with
    | '+' :: r => r
    | r => r
  if !digits.isEmpty && digits.all Char.isDigit then some (digits.foldl (fun n d => n * 10 + (d.toNat - 48)) 0)
  else none

/-- A level filter as a text gives it: a number 0 to 5, a name of any case, or nothing, which
means `error`. -/
def levelFilterOf? (s : String) : Option LevelFilter :=
  match (numeral? s).bind numberedLevelFilter? with
  | some l => some l
  | none => if s.isEmpty then some (some .error) else namedLevelFilter? s

/-- The characters of a text with the byte offset each starts at, from `n`. -/
def charOffsets : Nat → List Char → List (Nat × Char)
  | _, [] => []
  | n, c :: cs => (n, c) :: charOffsets (n + c.utf8Size) cs

/-- The character a byte offset falls inside, with the offset it starts at, if the offset is
not where a character starts or the text ends. -/
def insideChar? (s : String) (i : Nat) : Option (Nat × Char) :=
  (charOffsets 0 s.toList).find? fun (start, c) => start < i && i < start + c.utf8Size

/-- The words of cutting a text at a byte offset inside a character: which end of the cut it
is, the offset, and the character with its bytes. -/
def cutMessage (side : String) (i start : Nat) (c : Char) : String :=
  let quoted := Text.debugCharQuoted c
  let stop := start + c.utf8Size
  s!"{side} byte index {i} is not a char boundary; it is inside {quoted} (bytes {start}..{stop} of string)"

/-- The part of a text between two byte offsets, each of which must fall where a character
starts or at the end: the first that does not is the fault. -/
def cut (s : String) (a b : Nat) : Except FilterFault String :=
  match insideChar? s a, insideChar? s b with
  | some (start, c), _ => .error (.cutInsideChar (cutMessage "start" a start c))
  | none, some (start, c) => .error (.cutInsideChar (cutMessage "end" b start c))
  | none, none =>
    .ok (String.ofList ((charOffsets 0 s.toList).filterMap fun (o, c) =>
      if a ≤ o && o < b then some c else none))

/-- Whether a text is `true` or `false`. -/
def isBoolText (s : String) : Bool := s = "true" || s = "false"

/-- Whether a text is a floating-point number: an optional sign, then `inf`, `infinity` or `nan`
of any case, or digits with an optional fraction (at least one digit in all) and an optional
exponent. Every decimal integer is one. -/
def isFloatText (s : String) : Bool :=
  let cs := match s.toList with
    | '+' :: r | '-' :: r => r
    | r => r
  let word := String.ofList (cs.map Char.toLower)
  if word = "inf" || word = "infinity" || word = "nan" then true
  else
    let whole := cs.takeWhile Char.isDigit
    let rest := cs.dropWhile Char.isDigit
    let (fraction, rest) := match rest with
      | '.' :: r => (r.takeWhile Char.isDigit, r.dropWhile Char.isDigit)
      | r => ([], r)
    let exponentOk := match rest with
      | [] => true
      | e :: r =>
        if e = 'e' || e = 'E' then
          let ds := match r with
            | '+' :: d | '-' :: d => d
            | d => d
          !ds.isEmpty && ds.all Char.isDigit
        else false
    (!whole.isEmpty || !fraction.isEmpty) && exponentOk

/-- Reads one field of a span selector: a name, then after `=` the value it must have. A value
that is not a boolean or a number must be a pattern. -/
def fieldOf (text : String) : Except FilterFault FieldMatch :=
  match text.splitOn "=" with
  | name :: value :: _ =>
    if isBoolText value || isFloatText value then .ok ⟨name, some value⟩
    else
      match Pattern.fault? value with
      | some f => .error (.badField f.message)
      | none => .ok ⟨name, some value⟩
  | _ => .ok ⟨text, none⟩

/-- Where reading a directive stands: before anything, in its target, in its span name or its
fields (each from a byte offset), after the fields, after the span, or in its level (from a byte
offset). -/
inductive ReadState where
  | start
  | target
  | span (from_ : Nat)
  | fields (from_ : Nat)
  | afterFields
  | afterSpan
  | level (from_ : Nat)
  deriving DecidableEq, Repr

/-- Whether a character may start a target: a letter or digit of any script, `-`, `:` or `_`. -/
def isTargetStart (c : Char) : Bool := Text.isAlphanumeric c || c = '-' || c = ':' || c = '_'

/-- One step of reading a directive: the character at a byte offset moves the state, and the
parts it ends are cut from the directive's text. -/
def readStep (text : String) (acc : ReadState × Directive) (ic : Nat × Char) :
    Except FilterFault (ReadState × Directive) :=
  let (state, d) := acc
  let (i, c) := ic
  match state with
  | .start =>
    if c = '[' then .ok (.span (i + 1), d)
    else if isTargetStart c then .ok (.target, d)
    else .error .badDirective
  | .target =>
    if c = '=' then do pure (.level (i + 1), { d with target := some (← cut text 0 i) })
    else if c = '[' then do pure (.span (i + 1), { d with target := some (← cut text 0 i) })
    else .ok (.target, d)
  | .span s =>
    if c = ']' then do pure (.afterSpan, { d with span := some (← cut text s i) })
    else if c = '{' then do pure (.fields (i + 1), { d with span := some (← cut text s i) })
    else .ok (.span s, d)
  | .fields f =>
    if c = '}' then do
      let body ← cut text f i
      if body.isEmpty then throw .badDirective
      let fields ← (body.splitOn ",").mapM fieldOf
      pure (.afterFields, { d with fields })
    else .ok (.fields f, d)
  | .afterFields => if c = ']' then .ok (.afterSpan, d) else .error .badDirective
  | .afterSpan => if c = '=' then .ok (.level (i + 1), d) else .error .badDirective
  | .level l => .ok (.level l, d)

/-- Reads one directive. The characters of the directive without blanks at its ends are read
one by one: a target, a span selector `[name]` or `[name{fields}]`, and `=level`. The offsets
read are those of the trimmed text but cut the text as given, so blanks at the start shift
every part, and blanks at the end stay in the level. A directive that is a target alone is a
bare level when the whole text is one, and a target otherwise; so a level must also read as a
target, and `+3` is no directive. -/
def parseDirective (text : String) : Except FilterFault Directive := do
  let steps := charOffsets 0 (Text.trimBlank text).toList
  let initial : ReadState × Directive := (.start, { target := none, level := some .trace })
  let (state, d) ← steps.foldlM (readStep text) initial
  match state with
  | .target =>
    match levelFilterOf? text with
    | some l => pure { target := none, level := l }
    | none => pure { d with target := some text }
  | .afterSpan => pure d
  | .level l =>
    match levelFilterOf? (← cut text l (Text.utf8Length text)) with
    | some lv => pure { d with level := lv }
    | none => throw .badLevel
  | _ => throw .badDirective

/-- Reads a filter: its directives, separated by commas, skipping empty ones. -/
def parseFilter (s : String) : Except FilterFault (List Directive) :=
  ((s.splitOn ",").filter (· ≠ "")).mapM parseDirective

/-- The engine's crates. -/
def engineCrates : List String := ["cacheplay", "core_runtime", "core_playback", "core_service", "bridge_desktop"]

/-- The filter the engine builds: its crates at `base`, the HTTP stack at `warn`. -/
def engineFilter (base : LogLevel) : List Directive :=
  engineCrates.map (fun c => { target := some c, level := some base }) ++
    ["h2", "hyper", "reqwest"].map fun c => { target := some c, level := some .warn }

/-- The level filter that applies to a target outside spans: the longest directive target it
starts with, else a bare level, else off. Directives with a span selector are left out. -/
def levelFor (directives : List Directive) (target : String) : LevelFilter :=
  let directives := directives.filter fun d => d.span.isNone && d.fields.isEmpty
  let matching := directives.filter fun d =>
    match d.target with
    | some t => t.isPrefixOf target
    | none => false
  let best := matching.foldl (fun (acc : Option Directive) d =>
    match acc with
    | some b => if (d.target.getD "").length > (b.target.getD "").length then some d else acc
    | none => some d) none
  match best with
  | some d => d.level
  | none =>
    match directives.find? (·.target.isNone) with
    | some d => d.level
    | none => none

/-- Whether a filter lets an event or span of a level and target through. -/
def enabled (directives : List Directive) (target : String) (level : LogLevel) : Bool :=
  match levelFor directives target with
  | some l => level.atLeast l
  | none => false

end PlaybackEngine.Logging
