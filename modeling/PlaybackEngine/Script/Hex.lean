/-!
# Hexadecimal bytes

Bytes in requests and answers are written as hexadecimal text, two digits a byte. Written text
is lower case; read text may use either case and must have an even number of digits.
-/

set_option autoImplicit false

namespace PlaybackEngine.Script

/-- The digit of a value below sixteen, lower case. -/
def hexDigitChar (n : Nat) : Char :=
  if n < 10 then Char.ofNat ('0'.toNat + n) else Char.ofNat ('a'.toNat + n - 10)

/-- Bytes as lower-case hexadecimal text. -/
def hexOfBytes (bytes : List UInt8) : String :=
  String.ofList (bytes.flatMap fun b => [hexDigitChar (b.toNat / 16), hexDigitChar (b.toNat % 16)])

/-- The value of a hexadecimal digit of either case. -/
def hexValue? (c : Char) : Option Nat :=
  if '0' ≤ c ∧ c ≤ '9' then some (c.toNat - '0'.toNat)
  else if 'a' ≤ c ∧ c ≤ 'f' then some (c.toNat - 'a'.toNat + 10)
  else if 'A' ≤ c ∧ c ≤ 'F' then some (c.toNat - 'A'.toNat + 10)
  else none

/-- Bytes from hexadecimal digits, two a byte; `none` for an odd count or a non-digit. -/
def bytesOfHexChars : List Char → Option (List UInt8)
  | [] => some []
  | a :: b :: rest => do
    let hi ← hexValue? a
    let lo ← hexValue? b
    let tail ← bytesOfHexChars rest
    pure ((hi * 16 + lo).toUInt8 :: tail)
  | [_] => none

/-- Bytes from hexadecimal text. -/
def bytesOfHex (s : String) : Option (List UInt8) := bytesOfHexChars s.toList

end PlaybackEngine.Script
