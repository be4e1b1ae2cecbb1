import PlaybackEngine.Text.Float

/-!
# Numbers in machine form

A reader that keeps numbers in 64-bit machine form reads a written number in one pass over its
digits. An integer that fits 64 bits stays an integer. Anything else becomes a double, computed
from the integer of its first digits and a power of ten:

* the significand takes digits while it fits 64 bits; integer digits past that point raise the
  power by one each, fraction digits past it are dropped, and a fraction digit that fits after
  an integer digit did not is still taken;
* the exponent is read as a signed 32-bit number, and adding it to the power saturates;
* the significand is rounded to a double and then multiplied or divided once by the double
  nearest to the power of ten; below `10^-308` it is divided by `1e308` first, as often as
  needed.

The two roundings make the result differ now and then from the double nearest to the written
number, by one unit in the last place. A result past the largest double is refused, and so is an
exponent too large for 32 bits unless the number is zero or the exponent is negative, which
gives zero.
-/

set_option autoImplicit false

namespace PlaybackEngine.Json

-- Powers by core's `Nat.pow` and `Int.pow`, also where an algebra library is loaded, so that
-- each definition means the same wherever it is built.
attribute [local instance (high)] instPowNat

open Text

/-- The largest unsigned 64-bit integer. -/
def maxUnsigned : Nat := 2 ^ (64 : Nat) - 1

/-- The largest signed 32-bit integer. -/
def maxExponent : Nat := 2 ^ (31 : Nat) - 1

/-- The double of `significand * 10^exponent` computed as a machine does it: the significand
rounded to a double, then multiplied or divided by the double of `10^|exponent|`; past `10^308`
a division is done by `1e308` and repeated, while a multiplication overflows. Gives `none` on
overflow. -/
def doubleOfParts (significand : Nat) (exponent : Int) : Option Binary64 :=
  go 4 (nearestOfRatio false significand 1) exponent
where
  go : Nat → Binary64 → Int → Option Binary64
    | 0, f, _ => some f
    | fuel + 1, f, e =>
      if e.natAbs ≤ 308 then
        let p := nearestOfDecimal false 1 e.natAbs
        if e ≥ 0 then
          let g := f.times p
          if g.isInfinite then none else some g
        else some (f.over p)
      else if f.isZero then some f
      else if e ≥ 0 then none
      else go fuel (f.over (nearestOfDecimal false 1 308)) (e + 308)

/-- The digits at the front of the input and the input after them. -/
def frontDigits (cs : List Char) : List Char × List Char :=
  (cs.takeWhile Char.isDigit, cs.dropWhile Char.isDigit)

/-- Appends digits to a significand while it fits 64 bits; gives the significand, how many
digits were taken, and the digits left. -/
def absorbDigits : Nat → Nat → List Char → Nat × Nat × List Char
  | sig, n, d :: ds =>
    if !d.isDigit then (sig, n, d :: ds)
    else
      let v := sig * 10 + (d.toNat - '0'.toNat)
      if v > maxUnsigned then (sig, n, d :: ds) else absorbDigits v (n + 1) ds
  | sig, n, [] => (sig, n, [])

/-- How many leading digits it takes for their value, after `v` from `n` digits, to pass
`limit`, if they ever do. -/
def digitsPast (limit : Nat) : Nat → Nat → List Char → Option Nat
  | v, n, d :: ds =>
    if d.isDigit then
      let v' := v * 10 + (d.toNat - '0'.toNat)
      if v' > limit then some (n + 1) else digitsPast limit v' (n + 1) ds
    else none
  | _, _, [] => none

/-- The magnitude of an exponent's digits, `none` once it would pass the largest signed 32-bit
integer. -/
def exponentMagnitude : Nat → List Char → Option Nat
  | v, d :: ds =>
    let v' := v * 10 + (d.toNat - '0'.toNat)
    if v' > maxExponent then none else exponentMagnitude v' ds
  | v, [] => some v

/-- A power of ten saturated to the signed 32-bit range. -/
def saturatedExponent (e : Int) : Int := max (min e maxExponent) (-(maxExponent : Int) - 1)

/-- The double a machine reader makes of a number with the sign `negative`, the integer digits
`whole`, the fraction digits `fraction` (none when there is no point) and the exponent `power`
(positive or not, and its digits), or `none` when it lies past the largest double. An integer
read as one is converted to the nearest double. -/
def machineDouble (negative : Bool) (whole fraction : List Char) (power : Option (Bool × List Char)) :
    Option Binary64 :=
  let (sig, taken, _) := absorbDigits 0 0 whole
  let dropped := whole.length - taken
  let (sig, kept, _) := absorbDigits sig 0 fraction
  let signed (f : Binary64) : Binary64 := if negative then f.negate else f
  let start : Int := (dropped : Int) - kept
  if fraction.isEmpty ∧ power.isNone ∧ dropped = 0 then some (nearestOfRatio negative sig 1)
  else
    match power with
    | none => (doubleOfParts sig start).map signed
    | some (positive, ds) =>
      match exponentMagnitude 0 ds with
      | none => if positive ∧ sig ≠ 0 then none else some (.zero negative)
      | some v =>
        let e := if positive then start + v else start - v
        (doubleOfParts sig (saturatedExponent e)).map signed

end PlaybackEngine.Json
