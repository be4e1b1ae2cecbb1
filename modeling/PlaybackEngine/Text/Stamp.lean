import PlaybackEngine.Text.Time
import PlaybackEngine.Text.Blank

/-!
# Reading timestamps

A relaxed reading of RFC 3339 timestamps: a date `Y-M-D`, a separator (`T`, `t` or a space), a
time `h:m:s` with an optional fraction after a point, and a zone: `Z`, `UTC` in any case, or a
signed offset `hh:mm` (the sign may be the minus sign U+2212, and colons or blanks may stand
between hours and minutes). Blanks may stand before every number and after the time.

Numbers have one or two digits, a year up to four, or any number after an explicit sign. A
fraction keeps its first nine digits and drops the rest. A second of 60 is a leap second.

Each field is checked as it is read (month 1..12, day 1..31, hour 0..23, minute 0..59, second
0..60, a year that fits 32 bits); then the date as a whole (a real day, in a year within
-262143..262142), then the offset (under a day), then the instant in UTC (within the same
years), which alone fails as impossible.
-/

set_option autoImplicit false

namespace PlaybackEngine.Text

-- Powers by core's `Nat.pow` and `Int.pow`, also where an algebra library is loaded, so that
-- each definition means the same wherever it is built.
attribute [local instance (high)] instPowNat

/-- Why a timestamp cannot be read. -/
inductive StampFault where
  | outOfRange
  | impossible
  | invalid
  | tooShort
  | tooLong
  deriving DecidableEq, Repr

/-- The wording of each fault. -/
def StampFault.message : StampFault → String
  | .outOfRange => "input is out of range"
  | .impossible => "no possible date and time matching input"
  | .invalid => "input contains invalid characters"
  | .tooShort => "premature end of input"
  | .tooLong => "trailing input"

/-- The reading of a prefix of a timestamp: a value and the rest. -/
abbrev Scan (α : Type) := Except StampFault (α × List Char)

/-- The largest value a number field may reach, `2^63 - 1`. -/
def fieldLimit : Nat := 2 ^ (63 : Nat) - 1

/-- The value of decimal digits. -/
def decimalValue (ds : List Char) : Nat :=
  ds.foldl (fun n d => n * 10 + (d.toNat - '0'.toNat)) 0

/-- A number of one to `width` leading digits: none at all is too short, a first character
that is not a digit is invalid, and a value past `fieldLimit` is out of range. -/
def leadingNumber (width : Nat) : List Char → Scan Nat
  | [] => .error .tooShort
  | c :: r =>
    if !c.isDigit then .error .invalid
    else
      let ds := ((c :: r).takeWhile Char.isDigit).take width
      let v := decimalValue ds
      if v > fieldLimit then .error .outOfRange else .ok (v, (c :: r).drop ds.length)

/-- A year: after optional blanks, an explicit sign and any number of digits, or up to four
digits. -/
def yearField (cs : List Char) : Scan Int :=
  let signed (negative : Bool) (r : List Char) : Scan Int :=
    match leadingNumber r.length r with
    | .ok (v, rest) => .ok (if negative then -(v : Int) else v, rest)
    | .error e => .error e
  match cs.dropWhile isBlank with
  | '-' :: r => signed true r
  | '+' :: r => signed false r
  | r =>
    match leadingNumber 4 r with
    | .ok (v, rest) => .ok ((v : Int), rest)
    | .error e => .error e

/-- A number field of up to two digits after optional blanks, within `lo..hi`. -/
def rangedField (lo hi : Nat) (cs : List Char) : Scan Nat :=
  match leadingNumber 2 (cs.dropWhile isBlank) with
  | .ok (v, rest) => if lo ≤ v ∧ v ≤ hi then .ok (v, rest) else .error .outOfRange
  | .error e => .error e

/-- A separating character after optional blanks. -/
def separator (c : Char) (cs : List Char) : Except StampFault (List Char) :=
  match cs.dropWhile isBlank with
  | [] => .error .tooShort
  | d :: r => if d = c then .ok r else .error .invalid

/-- The nanoseconds of an optional fraction: up to nine digits after a point, scaled, with
further digits dropped. -/
def fractionField : List Char → Scan Nat
  | '.' :: r =>
    match leadingNumber 9 r with
    | .ok (v, rest) => .ok (v * 10 ^ (9 - (r.length - rest.length)), rest.dropWhile Char.isDigit)
    | .error e => .error e
  | r => .ok (0, r)

/-- Two leading characters that must be digits: fewer than two bytes is too short. -/
def digitPair : List Char → Except StampFault (Char × Char × List Char)
  | a :: b :: r => .ok (a, b, r)
  | [a] => if a.utf8Size = 1 then .error .tooShort else .error .invalid
  | [] => .error .tooShort

/-- The value of a digit character. -/
def digitValue (c : Char) : Nat := c.toNat - '0'.toNat

/-- A zone offset in seconds: `Z`, or a sign, two digits of hours, optional colons and blanks,
and two digits of minutes below 60. -/
def zoneOffset (cs : List Char) : Scan Int :=
  match cs with
  | 'Z' :: r => .ok (0, r)
  | 'z' :: r => .ok (0, r)
  | [] => .error .tooShort
  | c :: r =>
    let sign : Option Int :=
      if c = '+' then some 1 else if c = '-' ∨ c = '−' then some (-1) else none
    match sign with
    | none => .error .invalid
    | some sign =>
      match digitPair r with
      | .error e => .error e
      | .ok (h1, h2, r) =>
        if !(h1.isDigit && h2.isDigit) then .error .invalid
        else
          let hours := digitValue h1 * 10 + digitValue h2
          let r := r.dropWhile fun c => c = ':' || isBlank c
          match digitPair r with
          | .error e => .error e
          | .ok (m1, m2, rest) =>
            if !m2.isDigit || !m1.isDigit then .error .invalid
            else if digitValue m1 ≥ 6 then .error .outOfRange
            else .ok (sign * ((hours * 3600 + (digitValue m1 * 10 + digitValue m2) * 60 : Nat) : Int), rest)

/-- Whether three characters spell `UTC` in any case. -/
def isUtcWord (a b c : Char) : Bool :=
  (a = 'U' || a = 'u') && (b = 'T' || b = 't') && (c = 'C' || c = 'c')

/-- The zone after the time: `UTC` in any case, or an offset. -/
def zoneField (cs : List Char) : Scan Int :=
  match cs.dropWhile isBlank with
  | a :: b :: c :: r => if isUtcWord a b c then .ok (0, r) else zoneOffset (a :: b :: c :: r)
  | r => zoneOffset r

/-- The fields of a timestamp as written. -/
structure StampFields where
  year : Int
  month : Nat
  day : Nat
  hour : Nat
  minute : Nat
  second : Nat
  nanos : Nat
  offset : Int
  deriving DecidableEq, Repr

/-- The earliest year a date may have. -/
def earliestYear : Int := -262143

/-- The latest year a date may have. -/
def latestYear : Int := 262142

/-- Reads the fields of a timestamp, with nothing but blanks after them. -/
def stampFields (text : String) : Except StampFault StampFields := do
  let (year, r) ← yearField text.toList
  if year < -(2 ^ (31 : Nat) : Int) ∨ year ≥ 2 ^ (31 : Nat) then throw .outOfRange
  let r ← separator '-' r
  let (month, r) ← rangedField 1 12 r
  let r ← separator '-' r
  let (day, r) ← rangedField 1 31 r
  let r ← match r with
    | c :: r' => if c = 'T' ∨ c = 't' ∨ c = ' ' then pure r' else throw .invalid
    | [] => throw .tooShort
  let (hour, r) ← rangedField 0 23 r
  let r ← separator ':' r
  let (minute, r) ← rangedField 0 59 r
  let r ← separator ':' r
  let (second, r) ← rangedField 0 60 r
  let (nanos, r) ← fractionField r
  let (offset, r) ← zoneField r
  if !(r.dropWhile isBlank).isEmpty then throw .tooLong
  pure { year, month, day, hour, minute, second, nanos, offset }

/-- The instant of a timestamp, in UTC. -/
def StampFields.instant (f : StampFields) : Except StampFault Instant := do
  if f.year < earliestYear ∨ f.year > latestYear ∨ f.day > daysInMonth f.year f.month then
    throw .outOfRange
  if f.offset ≤ -86400 ∨ f.offset ≥ 86400 then throw .outOfRange
  let leap := f.second = 60
  let local_ := daysOfCivil f.year f.month f.day * 86400 + f.hour * 3600 + f.minute * 60 +
    (if leap then 59 else f.second)
  let seconds := local_ - f.offset
  if seconds < daysOfCivil earliestYear 1 1 * 86400 ∨ seconds ≥ daysOfCivil (latestYear + 1) 1 1 * 86400 then
    throw .impossible
  pure { seconds, nanos := f.nanos + (if leap then 1000000000 else 0) }

/-- Reads a timestamp as an instant in UTC. -/
def readStamp (text : String) : Except StampFault Instant := do
  (← stampFields text).instant

end PlaybackEngine.Text
