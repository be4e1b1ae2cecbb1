import PlaybackEngine.Json.Value

/-!
# Writing JSON text

Compact JSON text: no blanks, members in the order held. In strings the quote, the backslash
and the control characters are escaped; every other character is written as itself.
-/

set_option autoImplicit false

namespace PlaybackEngine.Json

-- Powers by core's `Nat.pow` and `Int.pow`, also where an algebra library is loaded, so that
-- each definition means the same wherever it is built.
attribute [local instance (high)] instPowNat

/-- The four hexadecimal digits of a code point below `0x10000`, lower case. -/
def hex4 (n : Nat) : String :=
  let digit (k : Nat) : Char :=
    let d := (n / 16 ^ k) % 16
    if d < 10 then Char.ofNat ('0'.toNat + d) else Char.ofNat ('a'.toNat + d - 10)
  String.ofList [digit 3, digit 2, digit 1, digit 0]

/-- A character as it stands inside a written string. -/
def escapeChar (c : Char) : String :=
  if c = '"' then "\\\""
  else if c = '\\' then "\\\\"
  else if c = '\n' then "\\n"
  else if c = '\r' then "\\r"
  else if c = '\t' then "\\t"
  else if c.toNat < 0x20 then "\\u" ++ hex4 c.toNat
  else c.toString

/-- A string as written, with its quotes. -/
def quote (s : String) : String :=
  "\"" ++ String.join (s.toList.map escapeChar) ++ "\""

end PlaybackEngine.Json

namespace PlaybackEngine

/-- A number as written: an integer plainly, anything else as digits and a power of ten. -/
def JsonNumber.render (n : JsonNumber) : String :=
  let sign := if n.negative && n.digits != 0 then "-" else ""
  if n.exponent == 0 then sign ++ toString n.digits
  else sign ++ toString n.digits ++ "e" ++ toString n.exponent

end PlaybackEngine

namespace PlaybackEngine.Json

/-- Appends a string as written, with its quotes, to `out`. -/
def quoteOnto (out s : String) : String :=
  s.foldl (fun acc c => acc ++ escapeChar c) (out ++ "\"") ++ "\""

mutual

/-- Appends the compact text of a value to `out`. Text is only ever added at the end, so
writing takes time in proportion to its length. -/
def renderOnto (out : String) : Json → String
  | .null => out ++ "null"
  | .bool true => out ++ "true"
  | .bool false => out ++ "false"
  | .num n => out ++ n.render
  | .str s => quoteOnto out s
  | .arr items => itemsOnto (out ++ "[") items ++ "]"
  | .obj fields => membersOnto (out ++ "\x7b") fields ++ "\x7d"

/-- Appends array elements, separated by commas, to `out`. -/
def itemsOnto (out : String) : List Json → String
  | [] => out
  | [v] => renderOnto out v
  | v :: vs => itemsOnto (renderOnto out v ++ ",") vs

/-- Appends object members, separated by commas, to `out`. -/
def membersOnto (out : String) : List (String × Json) → String
  | [] => out
  | [(k, v)] => renderOnto (quoteOnto out k ++ ":") v
  | (k, v) :: kvs => membersOnto (renderOnto (quoteOnto out k ++ ":") v ++ ",") kvs

end

/-- Compact text of a value. -/
def render (v : Json) : String := renderOnto "" v

end PlaybackEngine.Json
