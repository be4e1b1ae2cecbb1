import PlaybackEngine.Json.Parse
import PlaybackEngine.Text.Debug

/-!
# Decoding typed values from JSON text

Typed values are read straight from the text rather than from a parsed document, so that a
failure can say where it was found: the line, counted from 1, and the column, counted in bytes
from 0 after the last line feed before that point. A failure found by looking at a character
counts that character as read.

A value of the wrong kind is described by what it is (`null`, ``boolean `true` ``,
``integer `5` ``, ``floating point `1.5` ``, `string "…"`, `sequence`, `map`) and by what was
expected; a scalar is read whole before the failure, an array or object is not read at all.

Numbers are read as machine numbers: an integer that fits 64 bits stays one, anything else
becomes a double computed as the integer of its first digits (at most what fits 64 bits),
multiplied or divided once by the nearest double of a power of ten. A value skipped over is
only checked for its syntax.
-/

set_option autoImplicit false

namespace PlaybackEngine.Json

-- Powers by core's `Nat.pow` and `Int.pow` and sums from core's zero, also where an algebra
-- library is loaded, so that each definition means the same wherever it is built.
attribute [local instance (high)] instPowNat Zero.ofOfNat0

open Text

/-- A decoding failure: its message, the input after the characters it looked at, and how many
bytes of the last of those were not read. -/
structure DecodeFailure where
  message : String
  rest : List Char
  unread : Nat

/-- The outcome of decoding a prefix of the input. -/
abbrev Decoding (α : Type) := Except DecodeFailure (α × List Char)

/-- A syntax failure as a decoding failure. -/
def DecodeFailure.ofSyntax (f : SyntaxFailure) : DecodeFailure := ⟨f.cause.message, f.rest, f.unread⟩

/-- Fails with a message at `rest`. -/
def failAt {α : Type} (message : String) (rest : List Char) : Except DecodeFailure α :=
  .error ⟨message, rest, 0⟩

/-- Fails with a message on looking at the character `c` before `rest`: its first byte is
read. -/
def failOnChar {α : Type} (message : String) (c : Char) (rest : List Char) : Except DecodeFailure α :=
  .error ⟨message, rest, c.utf8Size - 1⟩

/-- The line and column at which `rest` starts in `input`, less `unread` bytes of the character
before it. -/
def positionIn (input rest : List Char) (unread : Nat) : Nat × Nat :=
  let consumed := input.take (input.length - rest.length)
  let line := 1 + consumed.count '\n'
  let column := ((consumed.reverse.takeWhile (· ≠ '\n')).map Char.utf8Size).sum - unread
  (line, column)

/-- A failure's message with its place in `input`. -/
def DecodeFailure.describe (input : List Char) (f : DecodeFailure) : String :=
  let (line, column) := positionIn input f.rest f.unread
  f.message ++ " at line " ++ toString line ++ " column " ++ toString column

/-- Lifts a reading of the plain reader. -/
def fromReading {α : Type} (r : Reading α) : Decoding α :=
  match r with
  | .ok v => .ok v
  | .error f => .error (.ofSyntax f)

/-- What a value of the wrong kind turned out to be. -/
inductive Unexpected where
  | null
  | bool (b : Bool)
  | unsigned (n : Nat)
  | signed (n : Int)
  | float (x : Binary64)
  | str (s : String)
  | seq
  | map

/-- The wording of what a value turned out to be. -/
def Unexpected.text : Unexpected → String
  | .null => "null"
  | .bool b => "boolean `" ++ toString b ++ "`"
  | .unsigned n => "integer `" ++ toString n ++ "`"
  | .signed n => "integer `" ++ toString n ++ "`"
  | .float x => "floating point `" ++ x.compact ++ "`"
  | .str s => "string " ++ debugQuote s
  | .seq => "sequence"
  | .map => "map"

/-- The message of a value of the wrong kind. -/
def invalidType (u : Unexpected) (expected : String) : String :=
  "invalid type: " ++ u.text ++ ", expected " ++ expected

/-- The double of a number with a significand and exponent, signed, failing past the largest
double at `rest`. -/
def finishDouble (negative : Bool) (sig : Nat) (exponent : Int) (rest : List Char) :
    Decoding Binary64 :=
  match doubleOfParts sig exponent with
  | some f => .ok (if negative then f.negate else f, rest)
  | none => failAt "number out of range" rest

/-- The exponent part of a number after its mark, for a significand and the exponent so far. -/
def exponentTail (negative : Bool) (sig : Nat) (start : Int) (cs : List Char) : Decoding Binary64 :=
  let (positive, afterSign) := match cs with
    | '+' :: r => (true, r)
    | '-' :: r => (false, r)
    | r => (true, r)
  match afterSign with
  | [] => failAt "EOF while parsing a value" []
  | c :: r =>
    if !c.isDigit then failOnChar "invalid number" c r
    else
      match digitsPast maxExponent 0 0 (c :: r) with
      | some k =>
        let at_ := (c :: r).drop k
        if sig ≠ 0 ∧ positive then failAt "number out of range" at_
        else .ok (.zero negative, at_.dropWhile Char.isDigit)
      | none =>
        let (ds, rest) := frontDigits (c :: r)
        let value : Int := ds.foldl (fun n d => n * 10 + (d.toNat - '0'.toNat)) 0
        let e := if positive then start + value else start - value
        finishDouble negative sig (saturatedExponent e) rest

/-- The fraction part of a number after its point, for a significand and exponent so far. -/
def fractionTail (negative : Bool) (sig : Nat) (start : Int) (cs : List Char) : Decoding Binary64 :=
  let (sig', taken, rest) := absorbDigits sig 0 cs
  let overflowed := match rest with
    | d :: _ => d.isDigit
    | [] => false
  let rest := rest.dropWhile Char.isDigit
  if taken = 0 ∧ !overflowed then
    match cs with
    | c :: r => failOnChar "invalid number" c r
    | [] => failAt "EOF while parsing a value" []
  else
    let e := start - taken
    match rest with
    | 'e' :: r => exponentTail negative sig' e r
    | 'E' :: r => exponentTail negative sig' e r
    | _ => finishDouble negative sig' e rest

/-- A number after its optional minus sign, as a machine number. -/
def machineNumber (negative : Bool) (cs : List Char) : Decoding Unexpected :=
  let asFloat (r : Decoding Binary64) : Decoding Unexpected :=
    match r with
    | .ok (x, rest) => .ok (.float x, rest)
    | .error e => .error e
  let afterInteger (sig : Nat) (exponent : Int) (rest : List Char) (whole : Bool) :
      Decoding Unexpected :=
    match rest with
    | '.' :: r => asFloat (fractionTail negative sig exponent r)
    | 'e' :: r => asFloat (exponentTail negative sig exponent r)
    | 'E' :: r => asFloat (exponentTail negative sig exponent r)
    | _ =>
      if !whole then asFloat (finishDouble negative sig exponent rest)
      else if !negative then .ok (.unsigned sig, rest)
      else if sig = 0 ∨ sig > 2 ^ (63 : Nat) then
        .ok (.float (nearestOfRatio true sig 1), rest)
      else .ok (.signed (-(sig : Int)), rest)
  match cs with
  | [] => failAt "EOF while parsing a value" []
  | '0' :: r =>
    match r with
    | d :: r' => if d.isDigit then failAt "invalid number" r' else afterInteger 0 0 r true
    | [] => afterInteger 0 0 r true
  | c :: r =>
    if !c.isDigit then failOnChar "invalid number" c r
    else
      let (sig, _, rest) := absorbDigits 0 0 (c :: r)
      let (extra, rest) := frontDigits rest
      afterInteger sig extra.length rest extra.isEmpty

/-- Fails for a value of the wrong kind starting at `cs`: a scalar is read whole first, an
array or object is not read. -/
def mismatch {α : Type} (expected : String) (cs : List Char) : Decoding α :=
  let scalar (r : Decoding Unexpected) : Decoding α :=
    match r with
    | .ok (u, rest) => failAt (invalidType u expected) rest
    | .error e => .error e
  match cs with
  | 'n' :: r => scalar (fromReading (literal ['u', 'l', 'l'] Unexpected.null r))
  | 't' :: r => scalar (fromReading (literal ['r', 'u', 'e'] (Unexpected.bool true) r))
  | 'f' :: r => scalar (fromReading (literal ['a', 'l', 's', 'e'] (Unexpected.bool false) r))
  | '-' :: r => scalar (machineNumber true r)
  | '"' :: r => scalar (fromReading ((stringBody [] r).map fun (s, rest) => (Unexpected.str s, rest)))
  | '[' :: _ => failAt (invalidType .seq expected) cs
  | '{' :: _ => failAt (invalidType .map expected) cs
  | c :: r => if c.isDigit then scalar (machineNumber false (c :: r)) else failOnChar "expected value" c r
  | [] => failAt "EOF while parsing a value" []

/-- A string. -/
def textValue (expected : String) (cs : List Char) : Decoding String :=
  match skipBlank cs with
  | [] => failAt "EOF while parsing a value" []
  | '"' :: r => fromReading (stringBody [] r)
  | r => mismatch expected r

/-- A string or `null`. -/
def optionalText (cs : List Char) : Decoding (Option String) :=
  match skipBlank cs with
  | 'n' :: r => fromReading (literal ['u', 'l', 'l'] none r)
  | r =>
    match textValue "a string" r with
    | .ok (s, rest) => .ok (some s, rest)
    | .error e => .error e

/-- The next key of an object, or `none` at its closing brace, which is left unread; `first`
tells whether no member was read yet. -/
def nextKey (first : Bool) (cs : List Char) : Decoding (Option String) :=
  let keyAt : List Char → Decoding (Option String)
    | '"' :: r => (fromReading (stringBody [] r)).map fun (k, rest) => (some k, rest)
    | '}' :: r => failAt "trailing comma" r
    | c :: r => failOnChar "key must be a string" c r
    | [] => failAt "EOF while parsing a value" []
  match skipBlank cs with
  | [] => failAt "EOF while parsing an object" []
  | '}' :: r => .ok (none, '}' :: r)
  | ',' :: r => if first then keyAt (',' :: r) else keyAt (skipBlank r)
  | c :: r => if first then keyAt (c :: r) else failOnChar "expected `,` or `\x7d`" c r

/-- The colon after a key. -/
def memberColon (cs : List Char) : Except DecodeFailure (List Char) :=
  match skipBlank cs with
  | ':' :: r => .ok r
  | c :: r => failOnChar "expected `:`" c r
  | [] => failAt "EOF while parsing an object" []

/-- The closing brace of an object whose members were all read. -/
def closeObject (cs : List Char) : Except DecodeFailure (List Char) :=
  match skipBlank cs with
  | '}' :: r => .ok r
  | ',' :: r => failAt "trailing comma" r
  | c :: r => failOnChar "trailing characters" c r
  | [] => failAt "EOF while parsing an object" []

/-- Where a failure found inside an object is placed: after blanks and a closing brace. -/
def pastObject (cs : List Char) : List Char :=
  match skipBlank cs with
  | '}' :: r => r
  | r => r

/-- Whether an array has a next element; a `false` leaves its closing bracket unread. -/
def nextElement (first : Bool) (cs : List Char) : Decoding Bool :=
  match skipBlank cs with
  | [] => failAt "EOF while parsing a list" []
  | ']' :: r => .ok (false, ']' :: r)
  | ',' :: r =>
    if first then .ok (true, ',' :: r)
    else
      match skipBlank r with
      | ']' :: r' => failAt "trailing comma" r'
      | [] => failAt "EOF while parsing a value" []
      | r' => .ok (true, r')
  | c :: r => if first then .ok (true, c :: r) else failOnChar "expected `,` or `]`" c r

/-- The closing bracket of an array whose elements were all read. -/
def closeArray (cs : List Char) : Except DecodeFailure (List Char) :=
  match skipBlank cs with
  | ']' :: r => .ok r
  | ',' :: r =>
    match skipBlank r with
    | ']' :: r' => failAt "trailing comma" r'
    | c :: r' => failOnChar "trailing characters" c r'
    | [] => failAt "trailing characters" []
  | c :: r => failOnChar "trailing characters" c r
  | [] => failAt "EOF while parsing a list" []

/-- Where a failure found inside an array is placed: after blanks and a closing bracket. -/
def pastArray (cs : List Char) : List Char :=
  match skipBlank cs with
  | ']' :: r => r
  | r => r

/-- The members of a map from strings to strings, from the next one on; a repeated key keeps
its first place and its last value. -/
def textMembers : Nat → Bool → List (String × String) → List Char → Decoding (List (String × String))
  | 0, _, _, cs => failAt "recursion limit exceeded" cs
  | fuel + 1, first, acc, cs =>
    match nextKey first cs with
    | .error e => .error e
    | .ok (none, rest) => .ok (acc, rest)
    | .ok (some k, rest) =>
      match memberColon rest with
      | .error e => .error e
      | .ok r =>
        match textValue "a string" r with
        | .error e => .error e
        | .ok (v, rest') =>
          let acc := if acc.any (·.1 == k) then acc.map fun (k', v') => if k' == k then (k', v) else (k', v')
            else acc ++ [(k, v)]
          textMembers fuel false acc rest'

/-- A map from strings to strings. -/
def textMap (cs : List Char) : Decoding (List (String × String)) :=
  match skipBlank cs with
  | [] => failAt "EOF while parsing a value" []
  | '{' :: r =>
    match textMembers (r.length + 1) true [] r with
    | .error e => .error e
    | .ok (m, rest) =>
      match closeObject rest with
      | .ok r' => .ok (m, r')
      | .error e => .error e
  | r => mismatch "a map" r

/-- The rest of a string being skipped, after its opening quote: escapes are checked, but
surrogates are not paired, and a raw control character fails before it is read. -/
def skipString : List Char → Except DecodeFailure (List Char)
  | [] => failAt "EOF while parsing a string" []
  | '"' :: r => .ok r
  | '\\' :: r =>
    match r with
    | [] => failAt "EOF while parsing a string" []
    | 'u' :: a :: b :: c :: d :: r' =>
      match hexQuad? a b c d with
      | some _ => skipString r'
      | none => .error (.ofSyntax (hexFailure (a :: b :: c :: d :: r')))
    | 'u' :: r' => .error (.ofSyntax (hexFailure r'))
    | e :: r' =>
      if e = '"' ∨ e = '\\' ∨ e = '/' ∨ e = 'b' ∨ e = 'f' ∨ e = 'n' ∨ e = 'r' ∨ e = 't' then
        skipString r'
      else failOnChar "invalid escape" e r'
  | c :: r =>
    if c.toNat < 0x20 then failAt "control character (\\u0000-\\u001F) found while parsing a string" (c :: r)
    else skipString r
termination_by cs => cs.length

/-- The rest of a number being skipped, after its optional minus sign. -/
def skipNumber (cs : List Char) : Except DecodeFailure (List Char) :=
  let exponent (r : List Char) : Except DecodeFailure (List Char) :=
    let r := match r with
      | '+' :: r' => r'
      | '-' :: r' => r'
      | r' => r'
    match r with
    | d :: r' => if d.isDigit then .ok (r'.dropWhile Char.isDigit) else failOnChar "invalid number" d r'
    | [] => failAt "invalid number" []
  let tail (r : List Char) : Except DecodeFailure (List Char) :=
    match r with
    | '.' :: r' =>
      match r' with
      | d :: ds =>
        if d.isDigit then
          match ds.dropWhile Char.isDigit with
          | 'e' :: r'' => exponent r''
          | 'E' :: r'' => exponent r''
          | r'' => .ok r''
        else failOnChar "invalid number" d ds
      | [] => failAt "invalid number" []
    | 'e' :: r' => exponent r'
    | 'E' :: r' => exponent r'
    | r' => .ok r'
  match cs with
  | '0' :: r =>
    match r with
    | d :: r' => if d.isDigit then failAt "invalid number" r' else tail r
    | [] => tail r
  | c :: r => if c.isDigit then tail (r.dropWhile Char.isDigit) else failOnChar "invalid number" c r
  | [] => failAt "invalid number" []

/-- A scalar being skipped at a character that is not blank, or `none` if none starts there. -/
def skipScalar? (cs : List Char) : Option (Except DecodeFailure (List Char)) :=
  match cs with
  | 'n' :: r => some ((fromReading (literal ['u', 'l', 'l'] () r)).map (·.2))
  | 't' :: r => some ((fromReading (literal ['r', 'u', 'e'] () r)).map (·.2))
  | 'f' :: r => some ((fromReading (literal ['a', 'l', 's', 'e'] () r)).map (·.2))
  | '-' :: r => some (skipNumber r)
  | '"' :: r => some (skipString r)
  | c :: _ => if c.isDigit then some (skipNumber cs) else none
  | [] => none

/-- Skips a value, checking only its syntax. `open_` holds the arrays and objects around the
point, innermost first. `expectValue` tells whether a value starts here; otherwise a comma, a
closing bracket or a value may follow. -/
def skipFrom : Nat → List Char → Bool → Bool → List Char → Except DecodeFailure (List Char)
  | 0, _, _, _, cs => failAt "recursion limit exceeded" cs
  | fuel + 1, open_, expectValue, afterValue, cs =>
    if expectValue then
      match skipBlank cs with
      | [] => failAt "EOF while parsing a value" []
      | '[' :: r => skipFrom fuel ('[' :: open_) false false r
      | '{' :: r => skipFrom fuel ('{' :: open_) false false r
      | c :: r =>
        match skipScalar? (c :: r) with
        | none => failOnChar "expected value" c r
        | some (.error e) => .error e
        | some (.ok rest) =>
          match open_ with
          | [] => .ok rest
          | _ => skipFrom fuel open_ false true rest
    else
      match open_ with
      | [] => .ok cs
      | frame :: outer =>
        let enterMember (r : List Char) : Except DecodeFailure (List Char) :=
          if frame = '{' then
            match skipBlank r with
            | '"' :: r' =>
              match skipString r' with
              | .error e => .error e
              | .ok r'' =>
                match skipBlank r'' with
                | ':' :: r3 => skipFrom fuel open_ true false r3
                | c :: r3 => failOnChar "expected `:`" c r3
                | [] => failAt "EOF while parsing an object" []
            | c :: r' => failOnChar "key must be a string" c r'
            | [] => failAt "EOF while parsing an object" []
          else skipFrom fuel open_ true false r
        match skipBlank cs with
        | [] => failAt (if frame = '[' then "EOF while parsing a list" else "EOF while parsing an object") []
        | c :: r =>
          if c = ',' ∧ afterValue then enterMember r
          else if (c = ']' ∧ frame = '[') ∨ (c = '}' ∧ frame = '{') then
            match outer with
            | [] => .ok r
            | _ => skipFrom fuel outer false true r
          else if afterValue then
            failOnChar (if frame = '[' then "expected `,` or `]`" else "expected `,` or `\x7d`") c r
          else enterMember (c :: r)

/-- Skips one value, checking only its syntax. -/
def skipValue (cs : List Char) : Except DecodeFailure (List Char) :=
  skipFrom (4 * cs.length + 4) [] true false cs

end PlaybackEngine.Json
