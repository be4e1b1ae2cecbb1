/-!
# Tables keyed by integers

A table holds at most one entry per integer key and lists its entries in ascending key order,
so that walking a table visits keys in order. Inserting replaces the entry of an equal key.
-/

set_option autoImplicit false

namespace PlaybackEngine

/-- Entries in ascending order of their keys, one per key. -/
abbrev Table (α : Type) := List (Int × α)

namespace Table

variable {α : Type}

/-- The entry of a key. -/
def get? (t : Table α) (k : Int) : Option α := (t.find? (·.1 == k)).map (·.2)

/-- Whether a key has an entry. -/
def contains (t : Table α) (k : Int) : Bool := t.any (·.1 == k)

/-- The table with `k` holding `v`, replacing its entry if it had one. -/
def insert (t : Table α) (k : Int) (v : α) : Table α :=
  match t with
  | [] => [(k, v)]
  | (k', v') :: rest =>
    if k < k' then (k, v) :: (k', v') :: rest
    else if k = k' then (k, v) :: rest
    else (k', v') :: insert rest k v

/-- The table without the entry of `k`. -/
def erase (t : Table α) (k : Int) : Table α := t.filter (·.1 != k)

/-- The table with the entry of `k`, if any, changed by `f`. -/
def modify (t : Table α) (k : Int) (f : α → α) : Table α :=
  t.map fun (k', v) => if k' = k then (k', f v) else (k', v)

/-- The keys, ascending. -/
def keys (t : Table α) : List Int := t.map (·.1)

/-- The entries' values, in key order. -/
def values (t : Table α) : List α := t.map (·.2)

@[simp] theorem get?_nil (k : Int) : get? ([] : Table α) k = none := rfl

end Table

end PlaybackEngine
