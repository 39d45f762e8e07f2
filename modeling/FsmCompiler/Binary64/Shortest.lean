/-
# The shortest text of a binary fraction

A finite number is written with the fewest decimal digits that are read back as
that number, and among those with the ones nearest to it. The digits stand around
a point if their first one stands for a power of ten from -4 to 15, and otherwise
before a power of ten of at least two digits.
-/

import FsmCompiler.Binary64

namespace FsmCompiler.Binary64

/-- The least power of ten above `num / den`, as its exponent; both are
positive. -/
def decimalOrder (num den : Nat) : Int :=
  if den ≤ num then (Nat.toDigits 10 (num / den)).length
  else
    let below := (Nat.toDigits 10 (den / num)).length
    if num * Nat.pow 10 (below - 1) = den then 2 - (below : Int) else 1 - (below : Int)

/-- The two whole numbers around `num / den`, the nearer one first. Of two that
are equally near the even one comes first. -/
def around (num den : Nat) : List Nat :=
  let low := num / den
  let rest := 2 * (num % den)
  if rest < den ∨ (rest = den ∧ low % 2 = 0) then [low, low + 1] else [low + 1, low]

/-- The greatest number of digits that a number needs to be told from all
others. -/
def greatestDigits : Nat := 17

/-- The digits of a positive number that has a numerator and a denominator, as a
number, and the power of ten of the last one. -/
def shortestDigits (x : Binary64) (num den : Nat) : Nat × Int :=
  let order := decimalOrder num den
  let found := (List.range greatestDigits).findSome? fun (count : Nat) =>
    let power := order - (count + 1)
    let candidates := around (num * Nat.pow 10 (-power).toNat) (den * Nat.pow 10 power.toNat)
    (candidates.find? fun digits =>
      ofDecimal false digits power == x).map fun digits => (digits, power)
  found.getD (num, 0)

/-- The powers of ten of a first digit between which a point is written. -/
def leastPoint : Int := -4

@[inherit_doc leastPoint]
def greatestPoint : Int := 15

/-- Digits with a point somewhere before, between or behind them. -/
def pointed (digits : List Char) (before : Int) : String :=
  let digits := List.replicate (1 - before).toNat '0' ++ digits
  let whole := (max before 1).toNat
  let digits := digits ++ List.replicate (whole + 1 - digits.length) '0'
  String.ofList (digits.take whole) ++ "." ++ String.ofList (digits.drop whole)

/-- Digits with a power of ten; the first digit stands before the point. -/
def powered (digits : List Char) (power : Int) : String :=
  let size := toString power.natAbs
  let mantissa := match digits with
    | [] => ""
    | [digit] => digit.toString
    | digit :: rest => digit.toString ++ "." ++ String.ofList rest
  mantissa ++ "e" ++ (if power < 0 then "-" else "+") ++
    String.ofList (List.replicate (2 - size.length) '0') ++ size

/-- Digits, the last of which stands for a power of ten, as text. -/
def decimalText (digits : Nat) (power : Int) : String :=
  let all := Nat.toDigits 10 digits
  let before : Int := all.length + power
  let kept := (all.reverse.dropWhile (· == '0')).reverse
  if leastPoint < before ∧ before ≤ greatestPoint + 1 then pointed kept before
  else powered kept (before - 1)

/-- The number as text. -/
def text : Binary64 → String
  | finite negative significand exponent =>
    (if negative then "-" else "") ++
      if significand = 0 then "0.0"
      else
        let x := finite false significand exponent
        let (digits, power) :=
          shortestDigits x (significand * Nat.pow 2 exponent.toNat) (Nat.pow 2 (-exponent).toNat)
        decimalText digits power
  | infinite negative => if negative then "-inf" else "inf"
  | notANumber => "nan"

end FsmCompiler.Binary64
