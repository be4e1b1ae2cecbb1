import PlaybackEngine.Logging.Console
import PlaybackEngine.Json.Decode
import PlaybackEngine.Text.Stamp

/-!
# Stored log entries

A host logger's entry is stored as a JSON object with the keys `level` (`"Trace"` to
`"Error"`), `timestamp` (an RFC 3339 timestamp, kept in UTC), `target`, `message`, `fields` (an
object of strings) and `span_id` (a string or `null`). Reading one takes either that object,
whose `span_id` may be missing and whose other keys are skipped, or an array of the six values
in that order.

A level may also be written as an object `{"Info": null}`, whose key must be a string (an
empty object has no value where the key belongs). A key given twice fails as a duplicate; a missing key fails after the object is read, naming the
first one missing in the order above. Failures inside a value are placed where they were found;
a failure of the whole object or array is placed after it.
-/

set_option autoImplicit false

namespace PlaybackEngine.Logging

open Json Text

/-- The message for a level name that is none of the five. -/
def unknownLevel (name : String) : String :=
  "unknown variant `" ++ name ++ "`, expected one of `Trace`, `Debug`, `Info`, `Warn`, `Error`"

/-- The level of a name, or a failure placed at `rest`. -/
def levelNamed (name : String) (rest : List Char) : Decoding LogLevel :=
  match LogLevel.all.find? (·.name == name) with
  | some l => .ok (l, rest)
  | none => failAt (unknownLevel name) rest

/-- A level: its name as a string, or an object with its name as the only key and `null`. -/
def levelValue (cs : List Char) : Decoding LogLevel :=
  match skipBlank cs with
  | [] => failAt "EOF while parsing a value" []
  | '"' :: r =>
    match fromReading (stringBody [] r) with
    | .ok (name, rest) => levelNamed name rest
    | .error e => .error e
  | '{' :: r =>
    let named : Decoding LogLevel :=
      match skipBlank r with
      | [] => failAt "EOF while parsing a value" []
      | '"' :: r' =>
        match fromReading (stringBody [] r') with
        | .ok (name, rest) => levelNamed name rest
        | .error e => .error e
      | '}' :: r' => failAt "expected value" r'
      | c :: r' => failOnChar "key must be a string" c r'
    match named with
    | .error e => .error e
    | .ok (level, rest) =>
      match memberColon rest with
      | .error e => .error e
      | .ok r' =>
        let unit : Except DecodeFailure (List Char) :=
          match skipBlank r' with
          | [] => failAt "EOF while parsing a value" []
          | 'n' :: r'' => (fromReading (literal ['u', 'l', 'l'] () r'')).map (·.2)
          | r'' => (mismatch "unit" r'' : Decoding Unit).map (·.2)
        match unit with
        | .error e => .error e
        | .ok r'' =>
          match skipBlank r'' with
          | '}' :: r3 => .ok (level, r3)
          | [] => failAt "EOF while parsing an object" []
          | r3 => failAt "expected value" r3
  | c :: r => failOnChar "expected value" c r

/-- The wording of what a timestamp should be. -/
def stampExpected : String := "an RFC 3339 formatted date and time string"

/-- A timestamp: a string read as RFC 3339, a failure of which is placed after the string. -/
def stampValue (cs : List Char) : Decoding Instant :=
  match textValue stampExpected cs with
  | .error e => .error e
  | .ok (s, rest) =>
    match readStamp s with
    | .ok t => .ok (t, rest)
    | .error f => failAt f.message rest

/-- The keys of a stored entry read so far. -/
structure EntryDraft where
  level : Option LogLevel := none
  timestamp : Option Instant := none
  target : Option String := none
  message : Option String := none
  fields : Option (List (String × String)) := none
  spanId : Option (Option String) := none

/-- The entry of a draft, or the message naming the first key missing. -/
def EntryDraft.complete (d : EntryDraft) : Except String SinkEntry :=
  match d.level, d.timestamp, d.target, d.message, d.fields with
  | none, _, _, _, _ => .error "missing field `level`"
  | _, none, _, _, _ => .error "missing field `timestamp`"
  | _, _, none, _, _ => .error "missing field `target`"
  | _, _, _, none, _ => .error "missing field `message`"
  | _, _, _, _, none => .error "missing field `fields`"
  | some level, some t, some target, some message, some fields =>
    .ok { level, timestamp := some t, target, message, fields, spanId := d.spanId.getD none }

/-- Reads the value of a known key into a draft: a key already given fails as a duplicate,
placed after the rest of the object's blanks and closing brace. -/
def readMember {α : Type} (name : String) (given : Option α) (read : List Char → Decoding α)
    (store : α → EntryDraft) (rest : List Char) : Decoding EntryDraft :=
  match given with
  | some _ => failAt ("duplicate field `" ++ name ++ "`") (pastObject rest)
  | none =>
    match memberColon rest with
    | .error e => .error e
    | .ok r =>
      match read r with
      | .ok (v, r') => .ok (store v, r')
      | .error e => .error e

/-- The members of a stored entry's object, from the next one on. -/
def entryMembers : Nat → Bool → EntryDraft → List Char → Decoding EntryDraft
  | 0, _, _, cs => failAt "recursion limit exceeded" cs
  | fuel + 1, first, d, cs =>
    match nextKey first cs with
    | .error e => .error e
    | .ok (none, rest) => .ok (d, rest)
    | .ok (some key, rest) =>
      let step : Decoding EntryDraft :=
        match key with
        | "level" => readMember key d.level levelValue (fun v => { d with level := some v }) rest
        | "timestamp" =>
          readMember key d.timestamp stampValue (fun v => { d with timestamp := some v }) rest
        | "target" =>
          readMember key d.target (textValue "a string") (fun v => { d with target := some v }) rest
        | "message" =>
          readMember key d.message (textValue "a string") (fun v => { d with message := some v }) rest
        | "fields" => readMember key d.fields textMap (fun v => { d with fields := some v }) rest
        | "span_id" => readMember key d.spanId optionalText (fun v => { d with spanId := some v }) rest
        | _ =>
          match memberColon rest with
          | .error e => .error e
          | .ok r => (skipValue r).map fun r' => (d, r')
      match step with
      | .ok (d', rest') => entryMembers fuel false d' rest'
      | .error e => .error e

/-- The next element of a stored entry's array, or a failure naming how many were read. -/
def nextEntryElement {α : Type} (index : Nat) (first : Bool) (read : List Char → Decoding α)
    (cs : List Char) : Decoding α :=
  match nextElement first cs with
  | .error e => .error e
  | .ok (false, rest) =>
    failAt ("invalid length " ++ toString index ++ ", expected struct LogEntry with 6 elements")
      (pastArray rest)
  | .ok (true, rest) => read rest

/-- The six values of a stored entry's array, after its opening bracket. -/
def entryElements (cs : List Char) : Except DecodeFailure (SinkEntry × List Char) := do
  let (level, r) ← nextEntryElement 0 true levelValue cs
  let (t, r) ← nextEntryElement 1 false stampValue r
  let (target, r) ← nextEntryElement 2 false (textValue "a string") r
  let (message, r) ← nextEntryElement 3 false (textValue "a string") r
  let (fields, r) ← nextEntryElement 4 false textMap r
  let (spanId, r) ← nextEntryElement 5 false optionalText r
  let r ← closeArray r
  pure ({ level, timestamp := some t, target, message, fields, spanId }, r)

/-- A stored entry: an object or an array. -/
def entryValue (cs : List Char) : Decoding SinkEntry :=
  match skipBlank cs with
  | [] => failAt "EOF while parsing a value" []
  | '{' :: r =>
    match entryMembers (r.length + 1) true {} r with
    | .error e => .error e
    | .ok (d, rest) =>
      match d.complete with
      | .error m => failAt m (pastObject rest)
      | .ok e =>
        match closeObject rest with
        | .ok r' => .ok (e, r')
        | .error f => .error f
  | '[' :: r => entryElements r
  | r => mismatch "struct LogEntry" r

/-- Reads a stored entry from the whole text, with nothing but blanks after it; a failure is
its message with its line and column. -/
def readStoredEntry (text : String) : Except String SinkEntry :=
  let cs := text.toList
  match entryValue cs with
  | .error f => .error (f.describe cs)
  | .ok (e, rest) =>
    match skipBlank rest with
    | [] => .ok e
    | c :: r => .error ((DecodeFailure.mk "trailing characters" r (c.utf8Size - 1)).describe cs)

/-- The stored form of an entry; the timestamp only when the entry has one. -/
def storedJson (e : SinkEntry) : Json :=
  let stamp := match e.timestamp with
    | some t => [("timestamp", Json.str t.zulu)]
    | none => []
  .obj ([("level", .str e.level.name)] ++ stamp ++
    [("target", .str e.target), ("message", .str e.message),
     ("fields", .obj (e.fields.map fun (k, v) => (k, .str v))),
     ("span_id", Json.opt Json.str e.spanId)])

end PlaybackEngine.Logging
