/-!
# Tables of code point ranges

A character class given by a Unicode property is stored as its maximal runs of code points:
closed ranges `(first, last)`, sorted and disjoint, with a gap between any two. Membership is
found by halving the table.
-/

set_option autoImplicit false

namespace PlaybackEngine.Text

/-- Sorted, disjoint closed ranges of code points. -/
abbrev RangeTable := Array (Nat × Nat)

namespace RangeTable

/-- Whether `n` lies in one of the ranges at positions `lo` up to `hi`, not included. -/
def containsBetween (t : RangeTable) (n : Nat) (lo hi : Nat) : Bool :=
  if _h : lo < hi then
    match t[(lo + hi) / 2]? with
    | some (first, last) =>
      if n < first then containsBetween t n lo ((lo + hi) / 2)
      else if last < n then containsBetween t n ((lo + hi) / 2 + 1) hi
      else true
    | none => false
  else false
termination_by hi - lo
decreasing_by all_goals omega

/-- Whether a code point lies in one of the table's ranges. -/
def contains (t : RangeTable) (n : Nat) : Bool := t.containsBetween n 0 t.size

/-- The table's ranges as a condition on code points. -/
def Holds (t : RangeTable) (n : Nat) : Prop := ∃ r ∈ t.toList, r.1 ≤ n ∧ n ≤ r.2

end RangeTable

end PlaybackEngine.Text
