/-!
Sets of code points, written as the ascending list of points at which membership changes.
-/

namespace Docwright.Text

structure Ranges where
  turns : Array Nat

/-- How many turns lie at or below `n`, found by bisection between `lo` and `hi`. -/
def Ranges.rank (r : Ranges) (n lo hi : Nat) : Nat :=
  if lo < hi then
    let mid := (lo + hi) / 2
    if r.turns.getD mid 0 ≤ n then r.rank n (mid + 1) hi else r.rank n lo mid
  else lo
termination_by hi - lo
decreasing_by all_goals omega

/-- A point belongs when an odd number of turns has been passed. -/
def Ranges.contains (r : Ranges) (n : Nat) : Bool :=
  r.rank n 0 r.turns.size % 2 == 1

/-- The start of the run that holds `n`. -/
def Ranges.start? (r : Ranges) (n : Nat) : Option Nat :=
  let k := r.rank n 0 r.turns.size
  if k % 2 == 1 then r.turns[k - 1]? else none

end Docwright.Text
