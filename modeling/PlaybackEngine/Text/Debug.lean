import PlaybackEngine.Text.Unprintable
import PlaybackEngine.Text.GraphemeExtend

/-!
# Diagnostic text

The diagnostic form of a text quotes it and escapes what a reader could not see: the quote,
the backslash, tab, line feed, carriage return and NUL by their short escapes, and every
grapheme extender and every unprintable character by its code point in hexadecimal,
`\u{301}`, `\u{7f}`. Everything else, letters of any script included, stands as itself.

The diagnostic form of a span of milliseconds uses the largest unit that leaves a whole part:
`0ns`, `250ms`, `1.5s`, `120s`.
-/

set_option autoImplicit false

namespace PlaybackEngine.Text

/-- Lower-case hexadecimal digits of a number, without leading zeros. -/
def hexDigits (n : Nat) : String :=
  String.ofList ((Nat.toDigits 16 n))

/-- Whether a character is escaped by its code point: a grapheme extender, which would join the
character before it, or an unprintable character. -/
def isUnseen (c : Char) : Bool := isGraphemeExtend c || isUnprintable c

/-- A character as it stands inside a diagnostic quotation. -/
def debugChar (c : Char) : String :=
  if c = '"' then "\\\""
  else if c = '\\' then "\\\\"
  else if c = '\t' then "\\t"
  else if c = '\n' then "\\n"
  else if c = '\r' then "\\r"
  else if c = '\x00' then "\\0"
  else if isUnseen c then "\\u\x7b" ++ hexDigits c.toNat ++ "\x7d"
  else c.toString

/-- The diagnostic form of one character: in single quotes, with the single quote escaped and
the double quote as itself. -/
def debugCharQuoted (c : Char) : String :=
  let quote := Char.ofNat 39
  let inner := if c = quote then "\\" ++ quote.toString else if c = '"' then "\"" else debugChar c
  quote.toString ++ inner ++ quote.toString

/-- The diagnostic form of a text: quoted, with unseen characters escaped. -/
def debugQuote (s : String) : String :=
  "\"" ++ String.join (s.toList.map debugChar) ++ "\""

/-- Digits of a fraction of a second in thousandths, without trailing zeros. -/
def thousandths (frac : Nat) : String :=
  let padded := String.ofList ((Nat.toDigits 10 (1000 + frac)).drop 1)
  String.ofList ((padded.toList.reverse.dropWhile (· = '0')).reverse)

/-- The diagnostic form of a span given in milliseconds. -/
def durationText (ms : Nat) : String :=
  if ms = 0 then "0ns"
  else if ms < 1000 then s!"{ms}ms"
  else if ms % 1000 = 0 then s!"{ms / 1000}s"
  else s!"{ms / 1000}." ++ thousandths (ms % 1000) ++ "s"

end PlaybackEngine.Text
