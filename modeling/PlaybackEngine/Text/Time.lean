/-!
# Calendar time

Instants are whole seconds since the Unix epoch (1970-01-01T00:00:00 UTC) with a fraction in
nanoseconds. Dates are proleptic Gregorian: a day number converts to year, month and day with
the era arithmetic of 400-year cycles (146097 days), which is exact for every integer day.

Instants print in the RFC 3339 form `YYYY-MM-DDTHH:MM:SS`, with the fraction only when it is
not zero (3, 6 or 9 digits, the fewest that hold it exactly), and the zone either as `Z` or as
`+00:00`.
-/

set_option autoImplicit false

namespace PlaybackEngine.Text

/-- Year, month (1..12) and day (1..31) of a day counted from 1970-01-01. -/
def civilOfDays (days : Int) : Int × Nat × Nat :=
  let z := days + 719468
  let era := z / 146097
  let doe := z - era * 146097
  let yoe := (doe - doe / 1460 + doe / 36524 - doe / 146096) / 365
  let doy := doe - (365 * yoe + yoe / 4 - yoe / 100)
  let mp := (5 * doy + 2) / 153
  let d := doy - (153 * mp + 2) / 5 + 1
  let m := if mp < 10 then mp + 3 else mp - 9
  let y := yoe + era * 400
  (if m ≤ 2 then y + 1 else y, m.toNat, d.toNat)

/-- The day counted from 1970-01-01 of a year, month (1..12) and day. -/
def daysOfCivil (year : Int) (month day : Nat) : Int :=
  let y := if month ≤ 2 then year - 1 else year
  let era := y / 400
  let yoe := y - era * 400
  let mp : Int := if month > 2 then month - 3 else month + 9
  let doy := (153 * mp + 2) / 5 + day - 1
  let doe := yoe * 365 + yoe / 4 - yoe / 100 + doy
  era * 146097 + doe - 719468

/-- Whether a year is a leap year. -/
def isLeapYear (y : Int) : Bool := (y % 4 == 0 && y % 100 != 0) || y % 400 == 0

/-- The number of days in a month of a year. -/
def daysInMonth (y : Int) (m : Nat) : Nat :=
  match m with
  | 2 => if isLeapYear y then 29 else 28
  | 4 | 6 | 9 | 11 => 30
  | _ => 31

/-- A number in decimal, padded with zeros on the left to `width` digits. -/
def padded (width n : Nat) : String :=
  let s := toString n
  String.ofList (List.replicate (width - s.length) '0') ++ s

/-- A year as four digits, or signed when outside 0..9999. -/
def yearText (y : Int) : String :=
  if 0 ≤ y ∧ y ≤ 9999 then padded 4 y.toNat
  else (if y < 0 then "-" else "+") ++ padded 4 y.natAbs

/-- The fraction of a second, as `.` and 3, 6 or 9 digits, or nothing when it is zero. -/
def fractionText (nanos : Nat) : String :=
  if nanos = 0 then ""
  else if nanos % 1000000 = 0 then "." ++ padded 3 (nanos / 1000000)
  else if nanos % 1000 = 0 then "." ++ padded 6 (nanos / 1000)
  else "." ++ padded 9 nanos

/-- An instant: whole seconds since the epoch and nanoseconds into the next second. Nanoseconds
of a second or more mark a leap second: the instant is that far into the 60th second of the
minute that `seconds` ends. -/
structure Instant where
  seconds : Int
  nanos : Nat
  deriving DecidableEq, Repr, Inhabited

/-- An instant in the RFC 3339 form, in UTC, with `Z` or `+00:00` as the zone; a leap second
shows as second 60. -/
def rfc3339 (seconds : Int) (nanos : Nat) (zulu : Bool) : String :=
  let days := seconds / 86400
  let secs := (seconds % 86400).toNat
  let (y, m, d) := civilOfDays days
  let (second, fraction) :=
    if nanos ≥ 1000000000 then (secs % 60 + 1, nanos - 1000000000) else (secs % 60, nanos)
  yearText y ++ "-" ++ padded 2 m ++ "-" ++ padded 2 d ++ "T" ++ padded 2 (secs / 3600) ++ ":" ++
    padded 2 (secs / 60 % 60) ++ ":" ++ padded 2 second ++ fractionText fraction ++
    (if zulu then "Z" else "+00:00")

/-- An instant in the RFC 3339 form with the zone `Z`. -/
def Instant.zulu (t : Instant) : String := rfc3339 t.seconds t.nanos true

/-- An instant as the console logger prints it, to the millisecond and without a zone:
`2024-01-02 03:04:05.678`; a leap second shows as second 60. -/
def Instant.consoleForm (t : Instant) : String :=
  let days := t.seconds / 86400
  let secs := (t.seconds % 86400).toNat
  let (y, m, d) := civilOfDays days
  let (second, fraction) :=
    if t.nanos ≥ 1000000000 then (secs % 60 + 1, t.nanos - 1000000000) else (secs % 60, t.nanos)
  yearText y ++ "-" ++ padded 2 m ++ "-" ++ padded 2 d ++ " " ++ padded 2 (secs / 3600) ++ ":" ++
    padded 2 (secs / 60 % 60) ++ ":" ++ padded 2 second ++ "." ++ padded 3 (fraction / 1000000)

/-- An instant given in milliseconds, in the RFC 3339 form with the zone `+00:00`. -/
def rfc3339Millis (ms : Int) : String :=
  rfc3339 (ms / 1000) ((ms % 1000).toNat * 1000000) false

end PlaybackEngine.Text
