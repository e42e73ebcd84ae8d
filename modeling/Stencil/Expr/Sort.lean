import Stencil.Expr.Argument
/-!
# Stencil.Expr.Sort -- sorting and extremes

Sorting is stable and asks only whether one value is less than another: first along the longest
ordered run at the start, then by binary search for each further value. The order of the questions
decides which fault is seen when values cannot be ordered.
-/

namespace Stencil.Expr

/-- A value together with what it is ordered by. -/
structure Ranked where
  rank : Value
  value : Value
  deriving Inhabited

/-- Whether the first is less than the second. -/
def less (a b : Ranked) : Act Bool := compareValues .lt a.rank b.rank

/-- How many values from position `i` on go on a run; `down` tells which way it goes. -/
def runFrom (xs : Array Ranked) (down : Bool) (i : Nat) : Act Nat := do
  if h : i < xs.size then
    let lower ← less xs[i] (xs.getD (i - 1) default)
    if lower == down then runFrom xs down (i + 1) else return i
  else return i
termination_by xs.size - i

/-- The place for a value between `lo` and `hi`: after all that are not greater. -/
def placeFor (xs : Array Ranked) (x : Ranked) (lo hi : Nat) : Act Nat := do
  if lo < hi then
    let mid := lo + (hi - lo) / 2
    if ← less x (xs.getD mid default) then placeFor xs x lo mid else placeFor xs x (mid + 1) hi
  else return lo
termination_by hi - lo

/-- Insert values one after the other into a sorted array. -/
def insertAll (sorted : Array Ranked) : List Ranked → Act (Array Ranked)
  | [] => return sorted
  | x :: rest => do
    let i ← placeFor sorted x 0 sorted.size
    insertAll (sorted.insertIdxIfInBounds i x) rest

/-- Sort. -/
def sortRanked (xs : Array Ranked) : Act (Array Ranked) := do
  if xs.size < 2 then return xs
  let down ← less (xs.getD 1 default) (xs.getD 0 default)
  let n ← runFrom xs down 2
  let run := xs.extract 0 n
  insertAll (if down then run.reverse else run) (xs.extract n xs.size).toList

/-- Sort, in reverse on demand; equal values keep their order either way. -/
def sortValues (xs : Array Ranked) (backwards : Bool) : Act (Array Value) := do
  if backwards then
    let sorted ← sortRanked xs.reverse
    return sorted.reverse.map (·.value)
  else return (← sortRanked xs).map (·.value)

/-- The first of the values that no other goes beyond. -/
def extremeFrom (op : Comparison) (best : Ranked) : List Ranked → Act Value
  | [] => return best.value
  | x :: rest => do
    if ← compareValues op x.rank best.rank then extremeFrom op x rest
    else extremeFrom op best rest

end Stencil.Expr
