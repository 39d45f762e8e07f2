/-
# Sets of characters as tables of bounds

A character property of Unicode is a union of a few hundred ranges of code
points. A `RangeTable` lists the code points at which membership changes, in
ascending order; a code point belongs to the set if the number of bounds at or
below it is odd.
-/

namespace FsmCompiler.Text

/-- A set of code points, given by the ascending code points at which
membership changes, starting from "outside". -/
structure RangeTable where
  bounds : Array Nat

/-- The number of bounds at or below `code`, given that all bounds before `low`
are and that none from `high` on is. -/
def RangeTable.rankBetween (table : RangeTable) (code low high : Nat) : Nat :=
  if low < high then
    let middle := (low + high) / 2
    if table.bounds.getD middle 0 ≤ code then table.rankBetween code (middle + 1) high
    else table.rankBetween code low middle
  else low
termination_by high - low

/-- Whether `code` lies in the set. -/
def RangeTable.contains (table : RangeTable) (code : Nat) : Bool :=
  table.rankBetween code 0 table.bounds.size % 2 == 1

end FsmCompiler.Text
