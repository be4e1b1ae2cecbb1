/-!
# UTF-8

Bytes read as UTF-8 text (RFC 3629): a character is one to four bytes, a lead byte and
continuation bytes `10xxxxxx`; the shortest form only, no surrogate halves (U+D800..U+DFFF),
nothing past U+10FFFF.
-/

set_option autoImplicit false

namespace PlaybackEngine.Text

-- Sums from core's zero, also where an algebra library is loaded, so that each definition
-- means the same wherever it is built.
attribute [local instance (high)] Zero.ofOfNat0

/-- Whether a byte continues a character. -/
def isContinuation (b : UInt8) : Bool := b.toNat / 64 = 2

/-- The payload of a continuation byte. -/
def payload (b : UInt8) : Nat := b.toNat % 64

/-- The characters of well-formed UTF-8 bytes, last first after `acc`, or `none`. -/
def decodeUtf8From (acc : List Char) : List UInt8 → Option (List Char)
  | [] => some acc.reverse
  | b :: bs =>
    let n := b.toNat
    if n < 0x80 then decodeUtf8From (Char.ofNat n :: acc) bs
    else if n < 0xC2 then none
    else if n < 0xE0 then
      match bs with
      | c :: rest =>
        if isContinuation c then decodeUtf8From (Char.ofNat ((n % 32) * 64 + payload c) :: acc) rest
        else none
      | [] => none
    else if n < 0xF0 then
      match bs with
      | c :: d :: rest =>
        let v := (n % 16) * 4096 + payload c * 64 + payload d
        if isContinuation c && isContinuation d && v ≥ 0x800 && !(0xD800 ≤ v && v < 0xE000) then
          decodeUtf8From (Char.ofNat v :: acc) rest
        else none
      | _ => none
    else if n < 0xF5 then
      match bs with
      | c :: d :: e :: rest =>
        let v := (n % 8) * 262144 + payload c * 4096 + payload d * 64 + payload e
        if isContinuation c && isContinuation d && isContinuation e && v ≥ 0x10000 && v < 0x110000 then
          decodeUtf8From (Char.ofNat v :: acc) rest
        else none
      | _ => none
    else none

/-- Bytes as text, if they are well-formed UTF-8. -/
def decodeUtf8? (bytes : List UInt8) : Option String :=
  (decodeUtf8From [] bytes).map String.ofList

/-- The UTF-8 bytes of a character. -/
def encodeChar (c : Char) : List UInt8 :=
  let n := c.toNat
  if n < 0x80 then [n.toUInt8]
  else if n < 0x800 then [(0xC0 + n / 64).toUInt8, (0x80 + n % 64).toUInt8]
  else if n < 0x10000 then
    [(0xE0 + n / 4096).toUInt8, (0x80 + n / 64 % 64).toUInt8, (0x80 + n % 64).toUInt8]
  else
    [(0xF0 + n / 262144).toUInt8, (0x80 + n / 4096 % 64).toUInt8, (0x80 + n / 64 % 64).toUInt8,
      (0x80 + n % 64).toUInt8]

/-- The UTF-8 bytes of a text. -/
def encodeUtf8 (s : String) : List UInt8 := s.toList.flatMap encodeChar

/-- The number of UTF-8 bytes of a text. -/
def utf8Length (s : String) : Nat := (s.toList.map Char.utf8Size).sum

end PlaybackEngine.Text
