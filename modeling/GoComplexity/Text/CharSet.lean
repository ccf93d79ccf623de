/-
# Sets of characters given by ranges

A set of characters is kept as the sorted ends of its ranges: at an even place
the code point where a range begins, at the following odd place the first one
after it.  A character belongs to the set when an odd number of ends lie at or
before it.

Key definitions: `CharSet`, `CharSet.contains`.
-/
namespace GoComplexity.Text

/-- A set of characters as the sorted ends of its ranges. -/
structure CharSet where
  ends : Array Nat

namespace CharSet

/-- The number of ends at or before `n`, when those before place `lo` are and
those from place `hi` on are not. -/
def rank (s : CharSet) (n lo hi : Nat) : Nat :=
  if lo < hi then
    let mid := (lo + hi) / 2
    if s.ends.getD mid 0 ≤ n then s.rank n (mid + 1) hi else s.rank n lo mid
  else lo
termination_by hi - lo

/-- Membership of a character. -/
def contains (s : CharSet) (c : Char) : Bool :=
  s.rank c.toNat 0 s.ends.size % 2 == 1

end CharSet

end GoComplexity.Text
