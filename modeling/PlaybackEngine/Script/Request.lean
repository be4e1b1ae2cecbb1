import PlaybackEngine.Json.Value

/-!
# Reading requests

A request is a JSON object. Its fields are read in the order the work needs them, and the
first field that is missing or of the wrong kind stops the request with a fault that names it.

Integers are exact: a signed field takes `-2^63 ≤ v < 2^63`, an unsigned one `0 ≤ v < 2^64`,
and narrower fields are first read at 64 bits and then checked against their own range. A
field written as `null` counts as absent.
-/

set_option autoImplicit false

namespace PlaybackEngine.Script

-- Powers by core's `Nat.pow` and `Int.pow`, also where an algebra library is loaded, so that
-- each definition means the same wherever it is built.
attribute [local instance (high)] instPowNat

/-- Why a request cannot be carried out as written. -/
inductive RequestFault where
  | missingField (key : String)
  | notSigned (key : String)
  | notUnsigned (key : String)
  | notI32 (key : String)
  | notU8 (key : String)
  | notBool (key : String)
  | notString (key : String)
  | notArray (key : String)
  | unknown (what value : String)
  | invalid (text : String)
  deriving DecidableEq, Repr

/-- The wording of each fault. -/
def RequestFault.message : RequestFault → String
  | .missingField k => s!"missing field {k}"
  | .notSigned k => s!"field {k} must be a signed 64-bit integer"
  | .notUnsigned k => s!"field {k} must be an unsigned 64-bit integer"
  | .notI32 k => s!"field {k} must fit in i32"
  | .notU8 k => s!"field {k} must fit in u8"
  | .notBool k => s!"field {k} must be a boolean"
  | .notString k => s!"field {k} must be a string"
  | .notArray k => s!"field {k} must be an array"
  | .unknown what v => s!"unknown {what} {v}"
  | .invalid text => text

/-- Reading part of a request. -/
abbrev Read (α : Type) := Except RequestFault α

/-- The least signed 64-bit value. -/
def minI64 : Int := -(2 ^ (63 : Nat))

/-- The greatest signed 64-bit value. -/
def maxI64 : Int := 2 ^ (63 : Nat) - 1

/-- A value as a signed 64-bit integer. -/
def asSigned? : Json → Option Int
  | .num n => match n.toInt? with
    | some v => if minI64 ≤ v ∧ v ≤ maxI64 then some v else none
    | none => none
  | _ => none

/-- A value as an unsigned 64-bit integer. -/
def asUnsigned? : Json → Option Nat
  | .num n => match n.toInt? with
    | some v => if 0 ≤ v then some v.toNat else none
    | none => none
  | _ => none

/-- A value as a signed 64-bit integer, or the fault of field `k`. -/
def signedValue (k : String) (j : Json) : Read Int :=
  match asSigned? j with
  | some v => .ok v
  | none => .error (.notSigned k)

/-- A value as an unsigned 64-bit integer, or the fault of field `k`. -/
def unsignedValue (k : String) (j : Json) : Read Nat :=
  match asUnsigned? j with
  | some v => .ok v
  | none => .error (.notUnsigned k)

/-- A value as a 32-bit signed integer, or the fault of field `k`. -/
def i32Value (k : String) (j : Json) : Read Int := do
  let v ← signedValue k j
  if -(2 ^ (31 : Nat)) ≤ v ∧ v < 2 ^ (31 : Nat) then pure v else throw (.notI32 k)

/-- A value as a byte, or the fault of field `k`. -/
def u8Value (k : String) (j : Json) : Read Nat := do
  let v ← unsignedValue k j
  if v < 256 then pure v else throw (.notU8 k)

/-- A value as a boolean, or the fault of field `k`. -/
def boolValue (k : String) : Json → Read Bool
  | .bool b => .ok b
  | _ => .error (.notBool k)

/-- A value as a string, or the fault of field `k`. -/
def stringValue (k : String) : Json → Read String
  | .str s => .ok s
  | _ => .error (.notString k)

/-- A value as an array, or the fault of field `k`. -/
def arrayValue (k : String) : Json → Read (List Json)
  | .arr items => .ok items
  | _ => .error (.notArray k)

/-- A field that must be present. -/
def need (j : Json) (k : String) : Read Json :=
  match j.given? k with
  | some v => .ok v
  | none => .error (.missingField k)

/-- A required field read with `f`. -/
def required {α : Type} (f : String → Json → Read α) (j : Json) (k : String) : Read α := do
  f k (← need j k)

/-- An optional field read with `f`. -/
def optional {α : Type} (f : String → Json → Read α) (j : Json) (k : String) : Read (Option α) :=
  match j.given? k with
  | some v => (f k v).map some
  | none => .ok none

/-- An optional field read with `f`, or `d` when absent. -/
def withDefault {α : Type} (f : String → Json → Read α) (j : Json) (k : String) (d : α) : Read α :=
  match j.given? k with
  | some v => f k v
  | none => .ok d

/-- Every element of an array read with `f`, each reported as field `k`. -/
def eachOf {α : Type} (f : String → Json → Read α) (k : String) (items : List Json) : Read (List α) :=
  items.mapM (f k)

/-- A field holding an array of signed 64-bit integers, `[]` when absent. -/
def signedList (j : Json) (k : String) : Read (List Int) := do
  let items ← withDefault arrayValue j k []
  eachOf signedValue k items

/-- The text of a string field that must be present; a value of another kind is the fault
`<k> must be a string`. -/
def namedString (j : Json) (k : String) : Read String :=
  match j.given? k with
  | some (.str s) => .ok s
  | some _ => .error (.invalid s!"{k} must be a string")
  | none => .error (.missingField k)

/-- The answer for a failure: its kind and its message. -/
def failure (kind message : String) : Json :=
  .obj [("error", .str kind), ("message", .str message)]

/-- The answer for a request fault. -/
def RequestFault.answer (f : RequestFault) : Json := failure "BadInput" f.message

/-- The answer of a reading: its value, or the fault. -/
def answerOf (r : Read Json) : Json :=
  match r with
  | .ok v => v
  | .error f => f.answer

end PlaybackEngine.Script
