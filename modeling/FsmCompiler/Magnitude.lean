/-
# The sizes of numbers

Numbers of different formats are compared by what they stand for: a ratio of
whole numbers, or something beyond all ratios. What is no number comes neither
before nor behind any, and equals none.
-/

import FsmCompiler.Binary64

namespace FsmCompiler

/-- What a number stands for. Denominators are positive. -/
inductive Magnitude
  | ratio (num : Int) (den : Nat)
  | infinite (negative : Bool)
  | none
  deriving DecidableEq, Repr

namespace Magnitude

/-- The size of a whole number. -/
def ofWhole (value : Int) : Magnitude := ratio value 1

/-- The size of a binary fraction. -/
def ofBinary (value : Binary64) : Magnitude :=
  match value, value.ratio? with
  | _, some (num, den) => ratio num den
  | .infinite negative, _ => infinite negative
  | _, _ => none

/-- Whether one number comes before another. -/
def less : Magnitude → Magnitude → Bool
  | ratio a b, ratio c d => a * d < c * b
  | ratio _ _, infinite negative => !negative
  | infinite negative, ratio _ _ => negative
  | infinite first, infinite second => first && !second
  | _, _ => false

/-- Whether two numbers are equal. -/
def equal : Magnitude → Magnitude → Bool
  | ratio a b, ratio c d => a * d == c * b
  | infinite first, infinite second => first == second
  | _, _ => false

end Magnitude

end FsmCompiler
