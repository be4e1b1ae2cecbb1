import PlaybackEngine.Json.Value
import PlaybackEngine.Json.Machine

/-!
# Reading JSON text

A strict reader of JSON text (RFC 8259): blanks are space, tab, line feed and carriage return;
numbers have no leading zeros and no bare point; strings hold no raw control characters and
only the standard escapes, with `\u` escapes of surrogates joined in pairs.

A failure names its cause and carries the input left unread when it was found, so a caller
can say where in the text it happened: a failure found by looking at a character counts that
character as read.

The reader descends through nested arrays and objects with a budget of steps taken from the
length of the text; every step reads at least one character within two steps, so the budget
never runs out on a finished text.
-/

set_option autoImplicit false

namespace PlaybackEngine.Json

-- Sums from core's zero, also where an algebra library is loaded, so that each definition
-- means the same wherever it is built.
attribute [local instance (high)] Zero.ofOfNat0

/-- Why a text is not a JSON document. -/
inductive SyntaxError where
  | eofWhileList
  | eofWhileObject
  | eofWhileString
  | eofWhileValue
  | expectedColon
  | expectedListCommaOrEnd
  | expectedObjectCommaOrEnd
  | expectedIdent
  | expectedValue
  | invalidEscape
  | invalidNumber
  | numberOutOfRange
  | invalidUnicodeCodePoint
  | controlCharacterInString
  | keyMustBeString
  | loneLeadingSurrogate
  | unexpectedEndOfHexEscape
  | trailingComma
  | trailingCharacters
  | depthExhausted
  deriving DecidableEq, Repr

/-- The wording of each cause. -/
def SyntaxError.message : SyntaxError → String
  | .eofWhileList => "EOF while parsing a list"
  | .eofWhileObject => "EOF while parsing an object"
  | .eofWhileString => "EOF while parsing a string"
  | .eofWhileValue => "EOF while parsing a value"
  | .expectedColon => "expected `:`"
  | .expectedListCommaOrEnd => "expected `,` or `]`"
  | .expectedObjectCommaOrEnd => "expected `,` or `\x7d`"
  | .expectedIdent => "expected ident"
  | .expectedValue => "expected value"
  | .invalidEscape => "invalid escape"
  | .invalidNumber => "invalid number"
  | .numberOutOfRange => "number out of range"
  | .invalidUnicodeCodePoint => "invalid unicode code point"
  | .controlCharacterInString => "control character (\\u0000-\\u001F) found while parsing a string"
  | .keyMustBeString => "key must be a string"
  | .loneLeadingSurrogate => "lone leading surrogate in hex escape"
  | .unexpectedEndOfHexEscape => "unexpected end of hex escape"
  | .trailingComma => "trailing comma"
  | .trailingCharacters => "trailing characters"
  | .depthExhausted => "recursion limit exceeded"

/-- A failure: its cause, the input after the characters it looked at, and how many bytes of
the last of those were not read. The reader takes bytes one at a time: a failure on looking
at a character has read only its first byte, and a `\u` escape takes four bytes whatever
characters they belong to. -/
structure SyntaxFailure where
  cause : SyntaxError
  rest : List Char
  unread : Nat

/-- The outcome of reading a prefix of the input. -/
abbrev Reading (α : Type) := Except SyntaxFailure (α × List Char)

/-- Fails with `cause` at `rest`. -/
def fail {α : Type} (cause : SyntaxError) (rest : List Char) : Reading α :=
  .error ⟨cause, rest, 0⟩

/-- Fails with `cause` on looking at the character `c` before `rest`: its first byte is read. -/
def failOn {α : Type} (cause : SyntaxError) (c : Char) (rest : List Char) : Reading α :=
  .error ⟨cause, rest, c.utf8Size - 1⟩

/-- The input after its first `n` bytes, and how many bytes of the last character those end
in are left over. -/
def dropBytes : Nat → List Char → List Char × Nat
  | 0, cs => (cs, 0)
  | _, [] => ([], 0)
  | n + 1, c :: r =>
    if n + 1 ≤ c.utf8Size then (r, c.utf8Size - (n + 1)) else dropBytes (n + 1 - c.utf8Size) r

/-- Drops leading blanks: space, tab, line feed and carriage return. -/
def skipBlank : List Char → List Char
  | ' ' :: r => skipBlank r
  | '\t' :: r => skipBlank r
  | '\n' :: r => skipBlank r
  | '\r' :: r => skipBlank r
  | cs => cs

/-- The value of a hexadecimal digit of either case. -/
def hexDigit? (c : Char) : Option Nat :=
  if '0' ≤ c ∧ c ≤ '9' then some (c.toNat - '0'.toNat)
  else if 'a' ≤ c ∧ c ≤ 'f' then some (c.toNat - 'a'.toNat + 10)
  else if 'A' ≤ c ∧ c ≤ 'F' then some (c.toNat - 'A'.toNat + 10)
  else none

/-- The value of four hexadecimal digits. -/
def hexQuad? (a b c d : Char) : Option Nat := do
  let a ← hexDigit? a
  let b ← hexDigit? b
  let c ← hexDigit? c
  let d ← hexDigit? d
  pure (((a * 16 + b) * 16 + c) * 16 + d)

/-- Whether a list starts with four hexadecimal digits. -/
def startsWithHexQuad : List Char → Bool
  | a :: b :: c :: d :: _ => (hexQuad? a b c d).isSome
  | _ => false

/-- The failure of a `\u` escape at `cs` whose four bytes are not all hexadecimal digits: an
invalid escape after those four bytes, or the end of the string when fewer are left. -/
def hexFailure (cs : List Char) : SyntaxFailure :=
  if ((cs.take 4).map Char.utf8Size).sum < 4 then ⟨.eofWhileString, [], 0⟩
  else
    let (rest, unread) := dropBytes 4 cs
    ⟨.invalidEscape, rest, unread⟩

/-- The character of a code point known to be a scalar value. -/
def scalarChar (n : Nat) : Char := Char.ofNat n

/-- The rest of a string after its opening quote: its characters, and the input after the
closing quote. `acc` holds the characters read so far, last first. A `\u` escape of a leading
surrogate must be followed by one of a trailing surrogate; a failure leaves unread what follows
the characters it looked at. -/
def stringBody (acc : List Char) : List Char → Reading String
  | [] => fail .eofWhileString []
  | '"' :: r => .ok (String.ofList acc.reverse, r)
  | '\\' :: '"' :: r => stringBody ('"' :: acc) r
  | '\\' :: '\\' :: r => stringBody ('\\' :: acc) r
  | '\\' :: '/' :: r => stringBody ('/' :: acc) r
  | '\\' :: 'b' :: r => stringBody ('\x08' :: acc) r
  | '\\' :: 'f' :: r => stringBody ('\x0c' :: acc) r
  | '\\' :: 'n' :: r => stringBody ('\n' :: acc) r
  | '\\' :: 'r' :: r => stringBody ('\r' :: acc) r
  | '\\' :: 't' :: r => stringBody ('\t' :: acc) r
  | '\\' :: 'u' :: a :: b :: c :: d :: r =>
    match hexQuad? a b c d with
    | none => .error (hexFailure (a :: b :: c :: d :: r))
    | some hi =>
      if 0xDC00 ≤ hi ∧ hi < 0xE000 then fail .loneLeadingSurrogate r
      else if 0xD800 ≤ hi ∧ hi < 0xDC00 then
        match r with
        | '\\' :: 'u' :: e :: f :: g :: h :: r' =>
          match hexQuad? e f g h with
          | none => .error (hexFailure (e :: f :: g :: h :: r'))
          | some lo =>
            if 0xDC00 ≤ lo ∧ lo < 0xE000 then
              stringBody (scalarChar (0x10000 + (hi - 0xD800) * 0x400 + (lo - 0xDC00)) :: acc) r'
            else fail .loneLeadingSurrogate r'
        | '\\' :: 'u' :: r' => .error (hexFailure r')
        | [] => fail .eofWhileString []
        | '\\' :: [] => fail .eofWhileString []
        | '\\' :: e :: r' => failOn .unexpectedEndOfHexEscape e r'
        | e :: r' => failOn .unexpectedEndOfHexEscape e r'
      else stringBody (scalarChar hi :: acc) r
  | '\\' :: 'u' :: r => .error (hexFailure r)
  | '\\' :: [] => fail .eofWhileString []
  | '\\' :: e :: r => failOn .invalidEscape e r
  | c :: r =>
    if c.toNat < 0x20 then fail .controlCharacterInString r
    else stringBody (c :: acc) r
termination_by cs => cs.length

/-- Splits off the leading decimal digits. -/
def spanDigits (cs : List Char) : List Char × List Char :=
  (cs.takeWhile Char.isDigit, cs.dropWhile Char.isDigit)

/-- The value of a list of decimal digits. -/
def digitsValue (ds : List Char) : Nat :=
  ds.foldl (fun n d => n * 10 + (d.toNat - '0'.toNat)) 0

/-- The exponent part of a number, after the mark `e` or `E`: whether it is positive, and its
digits. -/
def exponentPart (cs : List Char) : Reading (Bool × List Char) :=
  let (positive, afterSign) := match cs with
    | '+' :: r => (true, r)
    | '-' :: r => (false, r)
    | r => (true, r)
  match afterSign with
  | [] => fail .eofWhileValue []
  | c :: r =>
    if c.isDigit then
      let (ds, rest) := spanDigits afterSign
      .ok ((positive, ds), rest)
    else failOn .invalidNumber c r

/-- A number, from its first character (a minus sign or a digit). A number whose machine form
lies past the largest double is refused. -/
def number (cs : List Char) : Reading JsonNumber :=
  let (negative, body) := match cs with
    | '-' :: r => (true, r)
    | r => (false, r)
  let whole : Reading (List Char) := match body with
    | [] => fail .eofWhileValue []
    | '0' :: r =>
      match r with
      | d :: r' => if d.isDigit then fail .invalidNumber r' else .ok (['0'], r)
      | [] => .ok (['0'], r)
    | c :: r => if c.isDigit then .ok (spanDigits body) else failOn .invalidNumber c r
  match whole with
  | .error e => .error e
  | .ok (intDigits, afterInt) =>
    let frac : Reading (List Char) := match afterInt with
      | '.' :: r =>
        match r with
        | [] => fail .eofWhileValue []
        | d :: r' => if d.isDigit then .ok (spanDigits r) else failOn .invalidNumber d r'
      | r => .ok ([], r)
    match frac with
    | .error e => .error e
    | .ok (fracDigits, afterFrac) =>
      let hasFrac := match afterInt with
        | '.' :: _ => true
        | _ => false
      let expo : Reading (Option (Bool × List Char)) := match afterFrac with
        | 'e' :: r => (exponentPart r).map fun (p, rest) => (some p, rest)
        | 'E' :: r => (exponentPart r).map fun (p, rest) => (some p, rest)
        | r => .ok (none, r)
      match expo with
      | .error e => .error e
      | .ok (power, rest) =>
        let e : Int := match power with
          | some (true, ds) => digitsValue ds
          | some (false, ds) => -(digitsValue ds : Int)
          | none => 0
        match machineDouble negative intDigits fracDigits power with
        | none => fail .numberOutOfRange rest
        | some machine =>
          .ok ({ negative, digits := digitsValue (intDigits ++ fracDigits),
                 exponent := e - fracDigits.length,
                 integral := !hasFrac && power.isNone, machine }, rest)

/-- A literal word (`true`, `false`, `null`) after its first character. -/
def literal {α : Type} (word : List Char) (v : α) (cs : List Char) : Reading α :=
  match word, cs with
  | [], r => .ok (v, r)
  | _ :: _, [] => fail .eofWhileValue []
  | w :: ws, c :: r => if w = c then literal ws v r else failOn .expectedIdent c r

/-- How deep arrays and objects may nest: entering one more level than this fails. -/
def maxDepth : Nat := 127

mutual

/-- A value after optional blanks. `depth` is the nesting still allowed; `fuel` bounds the
steps. -/
def value (fuel depth : Nat) (cs : List Char) : Reading Json :=
  match fuel with
  | 0 => fail .depthExhausted cs
  | fuel + 1 =>
    match skipBlank cs with
    | [] => fail .eofWhileValue []
    | '[' :: r =>
      match depth with
      | 0 => fail .depthExhausted r
      | d + 1 =>
        match skipBlank r with
        | ']' :: r' => .ok (.arr [], r')
        | _ => items fuel d [] r
    | '{' :: r =>
      match depth with
      | 0 => fail .depthExhausted r
      | d + 1 =>
        match skipBlank r with
        | '}' :: r' => .ok (.obj [], r')
        | _ => members fuel d [] r
    | '"' :: r => (stringBody [] r).map fun (s, rest) => (.str s, rest)
    | 't' :: r => literal ['r', 'u', 'e'] (Json.bool true) r
    | 'f' :: r => literal ['a', 'l', 's', 'e'] (Json.bool false) r
    | 'n' :: r => literal ['u', 'l', 'l'] Json.null r
    | c :: r =>
      if c = '-' ∨ c.isDigit then (number (c :: r)).map fun (n, rest) => (.num n, rest)
      else failOn .expectedValue c r

/-- The elements of an array from the next element on; `acc` holds those read, last first. -/
def items (fuel depth : Nat) (acc : List Json) (cs : List Char) : Reading Json :=
  match fuel with
  | 0 => fail .depthExhausted cs
  | fuel + 1 =>
    match value fuel depth cs with
    | .error e => .error e
    | .ok (v, rest) =>
      match skipBlank rest with
      | [] => fail .eofWhileList []
      | ']' :: r => .ok (.arr (v :: acc).reverse, r)
      | ',' :: r =>
        match skipBlank r with
        | ']' :: r' => fail .trailingComma r'
        | _ => items fuel depth (v :: acc) r
      | c :: r => failOn .expectedListCommaOrEnd c r

/-- The members of an object from the next member on; `acc` holds those read, last first. -/
def members (fuel depth : Nat) (acc : List (String × Json)) (cs : List Char) : Reading Json :=
  match fuel with
  | 0 => fail .depthExhausted cs
  | fuel + 1 =>
    match skipBlank cs with
    | [] => fail .eofWhileObject []
    | '"' :: r =>
      match stringBody [] r with
      | .error e => .error e
      | .ok (key, afterKey) =>
        match skipBlank afterKey with
        | [] => fail .eofWhileObject []
        | ':' :: r' =>
          match value fuel depth r' with
          | .error e => .error e
          | .ok (v, rest) =>
            match skipBlank rest with
            | [] => fail .eofWhileObject []
            | '}' :: r'' => .ok (.obj ((key, v) :: acc).reverse, r'')
            | ',' :: r'' =>
              match skipBlank r'' with
              | '}' :: r3 => fail .trailingComma r3
              | _ => members fuel depth ((key, v) :: acc) r''
            | c :: r'' => failOn .expectedObjectCommaOrEnd c r''
        | c :: r' => failOn .expectedColon c r'
    | c :: r => failOn .keyMustBeString c r

end

/-- A whole text as one JSON document, with nothing but blanks after it. -/
def parse (text : String) : Except SyntaxFailure Json :=
  let cs := text.toList
  match value (2 * cs.length + 2) maxDepth cs with
  | .error e => .error e
  | .ok (v, rest) =>
    match skipBlank rest with
    | [] => .ok v
    | c :: r => .error ⟨.trailingCharacters, r, c.utf8Size - 1⟩

end PlaybackEngine.Json
