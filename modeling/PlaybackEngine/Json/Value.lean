import PlaybackEngine.Text.Float

/-!
# JSON values

The requests and answers of the engine's scripted interface are JSON documents. A value keeps
numbers as they were written (sign, decimal digits, power of ten), so that integers of any size
are exact and a written fraction is never mistaken for an integer.

Objects keep their members in the order written; a lookup takes the last member of a name, as
a reader that stores members in a map does.
-/

set_option autoImplicit false

namespace PlaybackEngine

-- Powers by core's `Nat.pow` and `Int.pow`, also where an algebra library is loaded, so that
-- each definition means the same wherever it is built.
attribute [local instance (high)] instPowNat

/-- A JSON number as written: `± digits × 10 ^ exponent`. `integral` records that it was
written with neither a fraction nor an exponent, and `machine` is the double that a reader
keeping numbers in 64-bit machine form makes of it. -/
structure JsonNumber where
  negative : Bool
  digits : Nat
  exponent : Int
  integral : Bool
  machine : Text.Binary64
  deriving DecidableEq, Repr, Inhabited

/-- A JSON document. -/
inductive Json where
  | null
  | bool (b : Bool)
  | num (n : JsonNumber)
  | str (s : String)
  | arr (items : List Json)
  | obj (fields : List (String × Json))
  deriving Repr, Inhabited

namespace JsonNumber

/-- The number written for an integer. -/
def ofInt (i : Int) : JsonNumber :=
  { negative := i < 0, digits := i.natAbs, exponent := 0, integral := true,
    machine := Text.nearestOfRatio (i < 0) i.natAbs 1 }

/-- The integer a number denotes, when a reader that keeps integers exact would keep it as
one: written as an integer, not `-0`, and within `-2^63 ≤ v < 2^64`. Anything else would be
read as a floating-point number. -/
def toInt? (n : JsonNumber) : Option Int :=
  if !n.integral || n.exponent != 0 then none
  else if n.negative then
    if n.digits = 0 || n.digits > 2 ^ (63 : Nat) then none else some (-(n.digits : Int))
  else if n.digits < 2 ^ (64 : Nat) then some n.digits else none

end JsonNumber

namespace Json

/-- The integer value as JSON. -/
def int (i : Int) : Json := .num (JsonNumber.ofInt i)

/-- The natural-number value as JSON. -/
def nat (n : Nat) : Json := .num (JsonNumber.ofInt n)

/-- A member of an object by name: the last one of that name. Anything but an object has no
members. -/
def field? (j : Json) (key : String) : Option Json :=
  match j with
  | .obj fields => (fields.reverse.find? (fun kv => kv.1 == key)).map (·.2)
  | _ => none

/-- A member that is present and not `null`: the reading of optional fields, where `null`
counts as absent. -/
def given? (j : Json) (key : String) : Option Json :=
  match j.field? key with
  | some .null => none
  | other => other

/-- The text of a string value. -/
def str? : Json → Option String
  | .str s => some s
  | _ => none

/-- Whether the value is `null`. -/
def isNull : Json → Bool
  | .null => true
  | _ => false

/-- An object built from its members, in order. -/
def record (fields : List (String × Json)) : Json := .obj fields

/-- `some v` as `v` and `none` as `null`. -/
def opt {α : Type} (f : α → Json) : Option α → Json
  | some a => f a
  | none => .null

end Json

end PlaybackEngine
