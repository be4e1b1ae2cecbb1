/-!
# Binary floating point, exactly

Double-precision numbers (IEEE 754 binary64) and their decimal text, computed with exact
integer arithmetic.

A finite positive double is `m * 2^e` with a 53-bit significand: normal when
`2^52 ≤ m < 2^53` and `-1074 ≤ e ≤ 971`, subnormal when `m < 2^52` and `e = -1074`.

* Reading a decimal takes the double nearest to its exact value, ties to the even significand.
* Writing a double takes the shortest decimal that reads back as the same double: the
  decimals inside its rounding interval (the points halfway to its neighbours, included when
  the significand is even), with the fewest digits, and of those the nearest to the double,
  ties upward. The decimal is then written in plain positional form, never with an exponent.
-/

set_option autoImplicit false

namespace PlaybackEngine.Text

-- Powers by core's `Nat.pow` and `Int.pow`, also where an algebra library is loaded, so that
-- each definition means the same wherever it is built.
attribute [local instance (high)] instPowNat

/-- A double: zero, infinite, or finite and non-zero as `m * 2^e`, each with a sign. -/
inductive Binary64 where
  | zero (negative : Bool)
  | infinite (negative : Bool)
  | finite (negative : Bool) (m : Nat) (e : Int)
  deriving DecidableEq, Repr, Inhabited

/-- The number of binary digits of a natural number. -/
def bitLength (n : Nat) : Nat := Nat.log2 n + 1

/-- The number of decimal digits of a positive natural number. -/
def decimalLength (n : Nat) : Nat := (Nat.toDigits 10 n).length

/-- `num / den`, rounded to the nearest integer, ties to even. -/
def roundHalfEven (num den : Nat) : Nat :=
  let q := num / den
  let r := num % den
  if 2 * r > den || (2 * r == den && q % 2 == 1) then q + 1 else q

/-- `⌊log2 (a / b)⌋` for positive `a` and `b`. -/
def floorLog2 (a b : Nat) : Int :=
  let t : Int := (bitLength a : Int) - bitLength b
  let holds := if t ≥ 0 then a ≥ b * 2 ^ t.toNat else a * 2 ^ t.natAbs ≥ b
  if holds then t else t - 1

/-- The double nearest to the positive rational `a / b`. -/
def nearestOfRatio (negative : Bool) (a b : Nat) : Binary64 :=
  if a = 0 then .zero negative
  else
    let e := max (floorLog2 a b - 52) (-1074)
    let m := if e ≥ 0 then roundHalfEven a (b * 2 ^ e.toNat) else roundHalfEven (a * 2 ^ e.natAbs) b
    let (m, e) := if m = 2 ^ (53 : Nat) then (2 ^ (52 : Nat), e + 1) else (m, e)
    if m = 0 then .zero negative
    else if e > 971 then .infinite negative
    else .finite negative m e

/-- The double nearest to `digits * 10^exponent`, with a sign. -/
def nearestOfDecimal (negative : Bool) (digits : Nat) (exponent : Int) : Binary64 :=
  if exponent ≥ 0 then nearestOfRatio negative (digits * 10 ^ exponent.toNat) 1
  else nearestOfRatio negative digits (10 ^ exponent.natAbs)

/-- A non-negative rational as numerator and denominator. -/
structure Ratio where
  num : Nat
  den : Nat
  deriving Repr, Inhabited

/-- Whether one rational is at most another. -/
def Ratio.le (x y : Ratio) : Bool := x.num * y.den ≤ y.num * x.den

/-- Whether one rational is below another. -/
def Ratio.lt (x y : Ratio) : Bool := x.num * y.den < y.num * x.den

/-- The rational `n * 2^k`. -/
def ratioOfPow2 (n : Nat) (k : Int) : Ratio :=
  if k ≥ 0 then ⟨n * 2 ^ k.toNat, 1⟩ else ⟨n, 2 ^ k.natAbs⟩

/-- The rational `n * 10^k`. -/
def ratioOfPow10 (n : Nat) (k : Int) : Ratio :=
  if k ≥ 0 then ⟨n * 10 ^ k.toNat, 1⟩ else ⟨n, 10 ^ k.natAbs⟩

/-- `⌊log10 x⌋` for a positive rational. -/
def floorLog10 (x : Ratio) : Int :=
  let t : Int := (decimalLength x.num : Int) - decimalLength x.den
  let holds := if t ≥ 0 then x.num ≥ x.den * 10 ^ t.toNat else x.num * 10 ^ t.natAbs ≥ x.den
  if holds then t else t - 1

/-- The rounding interval of a finite double `m * 2^e`: the points halfway to its neighbours,
and whether they belong to it. -/
def roundingInterval (m : Nat) (e : Int) : Ratio × Ratio × Bool :=
  let below := if m = 2 ^ (52 : Nat) ∧ e > -1074 then 1 else 2
  (ratioOfPow2 (4 * m - below) (e - 2), ratioOfPow2 (4 * m + 2) (e - 2), m % 2 == 0)

/-- Whether a rational lies in an interval, with or without its ends. -/
def within (x low high : Ratio) (closed : Bool) : Bool :=
  if closed then low.le x && x.le high else low.lt x && x.lt high

/-- The shortest decimal in the rounding interval of `m * 2^e`, as a digit count `p` and the
digits `d` with `p` digits, and the scale `j`, the value being `d * 10^j`; tried with at most
`fuel` more digits from `p` on. -/
def shortestFrom (m : Nat) (e : Int) (k : Int) : Nat → Nat → Nat × Int
  | 0, p => let j := k - p; (roundHalfEven (ratioOfPow2 m e).num ((ratioOfPow2 m e).den * 1), j)
  | fuel + 1, p =>
    let v := ratioOfPow2 m e
    let (low, high, closed) := roundingInterval m e
    let j := k - p
    let d := if j ≥ 0 then v.num / (v.den * 10 ^ j.toNat) else (v.num * 10 ^ j.natAbs) / v.den
    let below := ratioOfPow10 d j
    let above := ratioOfPow10 (d + 1) j
    let inBelow := within below low high closed
    let inAbove := within above low high closed
    if inBelow && inAbove then
      let downGap : Ratio := ⟨v.num * below.den - below.num * v.den, v.den * below.den⟩
      let upGap : Ratio := ⟨above.num * v.den - v.num * above.den, v.den * above.den⟩
      if downGap.lt upGap then (d, j) else (d + 1, j)
    else if inBelow then (d, j)
    else if inAbove then (d + 1, j)
    else shortestFrom m e k fuel (p + 1)

/-- The shortest round-tripping digits of a finite positive double and the decimal exponent
`K` with the value `0.d₁d₂… * 10^K`; the digits carry no trailing zeros. -/
def shortestDigits (m : Nat) (e : Int) : List Nat × Int :=
  let k := floorLog10 (ratioOfPow2 m e) + 1
  let (d, j) := shortestFrom m e k 17 1
  let digits := (Nat.toDigits 10 d).map fun c => c.toNat - '0'.toNat
  let trimmed := (digits.reverse.dropWhile (· = 0)).reverse
  (trimmed, j + digits.length)

/-- Digits with exponent `K` (value `0.d₁d₂… * 10^K`) in plain positional form. -/
def positional (digits : List Nat) (k : Int) : String :=
  let text := String.ofList (digits.map Nat.digitChar)
  let n := digits.length
  if k ≤ 0 then "0." ++ String.ofList (List.replicate k.natAbs '0') ++ text
  else if k.toNat < n then
    String.ofList ((digits.take k.toNat).map Nat.digitChar) ++ "." ++
      String.ofList ((digits.drop k.toNat).map Nat.digitChar)
  else text ++ String.ofList (List.replicate (k.toNat - n) '0')

/-- The plain decimal text of a double, shortest that reads back the same; infinities are
`inf` and `-inf`. -/
def Binary64.display : Binary64 → String
  | .zero negative => if negative then "-0" else "0"
  | .infinite negative => if negative then "-inf" else "inf"
  | .finite negative m e =>
    let (digits, k) := shortestDigits m e
    (if negative then "-" else "") ++ positional digits k

/-- The exact value `m * 2^e` as a numerator and denominator. -/
def scaledFraction (m : Nat) (e : Int) : Nat × Nat :=
  if e ≥ 0 then (m * 2 ^ e.toNat, 1) else (m, 2 ^ e.natAbs)

/-- The product of two non-negative doubles, rounded to the nearest double. -/
def Binary64.times : Binary64 → Binary64 → Binary64
  | .finite _ m1 e1, .finite _ m2 e2 =>
    let (a, b) := scaledFraction (m1 * m2) (e1 + e2)
    nearestOfRatio false a b
  | .infinite _, _ => .infinite false
  | _, .infinite _ => .infinite false
  | _, _ => .zero false

/-- The quotient of two non-negative doubles, the divisor finite and not zero, rounded to the
nearest double. -/
def Binary64.over : Binary64 → Binary64 → Binary64
  | .finite _ m1 e1, .finite _ m2 e2 =>
    let (a1, b1) := scaledFraction m1 e1
    let (a2, b2) := scaledFraction m2 e2
    nearestOfRatio false (a1 * b2) (b1 * a2)
  | .infinite _, _ => .infinite false
  | _, _ => .zero false

/-- A double with the opposite sign. -/
def Binary64.negate : Binary64 → Binary64
  | .zero n => .zero !n
  | .infinite n => .infinite !n
  | .finite n m e => .finite (!n) m e

/-- Whether a double is infinite. -/
def Binary64.isInfinite : Binary64 → Bool
  | .infinite _ => true
  | _ => false

/-- Whether a double is zero. -/
def Binary64.isZero : Binary64 → Bool
  | .zero _ => true
  | _ => false

/-- The exponent of scientific form: signed, `+` included. -/
def exponentText (e : Int) : String := if e > 0 then "+" ++ toString e else toString e

/-- The compact text of a double, from its shortest round-tripping digits `d` with exponent
`K`: positional with at least one fractional digit when `K` is in -4..16 (`1.0`, `0.001`),
otherwise in scientific form with a signed exponent (`1e+300`, `1.5e-7`). Zero is `0.0`. -/
def Binary64.compact : Binary64 → String
  | .zero negative => (if negative then "-" else "") ++ "0.0"
  | .infinite negative => if negative then "-inf" else "inf"
  | .finite negative m e =>
    let (digits, kk) := shortestDigits m e
    let n := digits.length
    let chars := digits.map Nat.digitChar
    let body :=
      if 0 ≤ kk - n ∧ kk ≤ 16 then
        String.ofList chars ++ String.ofList (List.replicate (kk - n).toNat '0') ++ ".0"
      else if 0 < kk ∧ kk ≤ 16 then
        String.ofList (chars.take kk.toNat) ++ "." ++ String.ofList (chars.drop kk.toNat)
      else if -5 < kk ∧ kk ≤ 0 then
        "0." ++ String.ofList (List.replicate kk.natAbs '0') ++ String.ofList chars
      else
        match chars with
        | [c] => String.singleton c ++ "e" ++ exponentText (kk - 1)
        | c :: rest => String.singleton c ++ "." ++ String.ofList rest ++ "e" ++ exponentText (kk - 1)
        | [] => "0.0"
    (if negative then "-" else "") ++ body

end PlaybackEngine.Text
