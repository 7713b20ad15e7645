/-!
# Sets of code points as ranges

The Unicode character database gives each property of code points as a list of closed ranges.
A `RangeSet` keeps such a list in ascending order, each range ending before the next starts,
and `RangeSet.contains` finds the one range a code point could lie in by halving the stretch of
ranges still in question, so a lookup reads about `log₂` of the number of ranges.
-/

namespace EngineSdk.Unicode

/-- A set of code points, as closed ranges `(first, last)` in ascending order, each ending
before the next one starts. -/
structure RangeSet where
  ranges : Array (Nat × Nat)

namespace RangeSet

/-- The code point lies in one of the ranges. -/
def Mem (s : RangeSet) (n : Nat) : Prop :=
  ∃ r ∈ s.ranges.toList, r.1 ≤ n ∧ n ≤ r.2

/-- Whether `n` lies in one of the ranges at the indices from `lo` to `hi - 1`.  The ranges
ascend, so a range that starts above `n` rules out itself and every later one, and a range that
ends below `n` rules out itself and every earlier one. -/
def searchBetween (s : RangeSet) (n lo hi : Nat) : Bool :=
  if lo < hi then
    let mid := (lo + hi) / 2
    let r := s.ranges.getD mid (0, 0)
    if n < r.1 then searchBetween s n lo mid
    else if r.2 < n then searchBetween s n (mid + 1) hi
    else true
  else false
termination_by hi - lo
decreasing_by all_goals omega

/-- Whether the code point `n` lies in the set. -/
def contains (s : RangeSet) (n : Nat) : Bool :=
  s.searchBetween n 0 s.ranges.size

end RangeSet

end EngineSdk.Unicode
