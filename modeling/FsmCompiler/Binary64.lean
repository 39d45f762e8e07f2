/-
# Binary fractions of 64 bits

A number of this format is a whole number of at most 53 bits times a power of
two, or infinite, or no number at all. A ratio is rounded to the nearest number
of the format, and from the middle between two to the one with an even
significand. Zero has a sign.
-/

namespace FsmCompiler

/-- A number of the format. The magnitude of a finite one is its significand times
two to the exponent. -/
inductive Binary64
  | finite (negative : Bool) (significand : Nat) (exponent : Int)
  | infinite (negative : Bool)
  | notANumber
  deriving DecidableEq, Repr

namespace Binary64

/-- The number of bits of a significand. -/
def precision : Nat := 53

/-- The exponents of the least and the greatest finite numbers. -/
def leastExponent : Int := -1074

@[inherit_doc leastExponent]
def greatestExponent : Int := 971

/-- The nearest whole number to `num / den`; of two it is the even one. -/
def roundedQuotient (num den : Nat) : Nat :=
  let whole := num / den
  let rest := 2 * (num % den)
  if den < rest ∨ (den = rest ∧ whole % 2 = 1) then whole + 1 else whole

/-- The greatest power of two that is no greater than `num / den`, as its
exponent; both are positive. -/
def binaryOrder (num den : Nat) : Int :=
  let order : Int := (Nat.log2 num : Int) - (Nat.log2 den : Int)
  if num * Nat.pow 2 (-order).toNat < den * Nat.pow 2 order.toNat then order - 1 else order

/-- The nearest number to `num / den`, with a sign. -/
def ofRatio (negative : Bool) (num den : Nat) : Binary64 :=
  if num = 0 then finite negative 0 leastExponent
  else
    let exponent := max (binaryOrder num den - (precision - 1 : Nat)) leastExponent
    let rounded := roundedQuotient (num * Nat.pow 2 (-exponent).toNat)
      (den * Nat.pow 2 exponent.toNat)
    let (significand, exponent) :=
      if rounded = Nat.pow 2 precision then (Nat.pow 2 (precision - 1), exponent + 1)
      else (rounded, exponent)
    if greatestExponent < exponent then infinite negative
    else if significand = 0 then finite negative 0 leastExponent
    else finite negative significand exponent

/-- Numbers with more digits than this before the point are infinite, and those
with more zeros than this behind it are zero. -/
def decimalReach : Int := 400

/-- The nearest number to `digits` times ten to the power, with a sign. -/
def ofDecimal (negative : Bool) (digits : Nat) (power : Int) : Binary64 :=
  let order := power + (Nat.log2 digits * 3 / 10 : Nat)
  if digits = 0 then finite negative 0 leastExponent
  else if decimalReach < order then infinite negative
  else if power + (Nat.log2 digits : Nat) < -decimalReach then finite negative 0 leastExponent
  else ofRatio negative (digits * Nat.pow 10 power.toNat) (Nat.pow 10 (-power).toNat)

/-- The number as numerator and positive denominator, if it is finite. -/
def ratio? : Binary64 → Option (Int × Nat)
  | finite negative significand exponent =>
    let size := significand * Nat.pow 2 exponent.toNat
    some (if negative then -size else size, Nat.pow 2 (-exponent).toNat)
  | _ => none

/-- The whole number that this is, if it is one. -/
def whole? (x : Binary64) : Option Int := do
  let (num, den) ← x.ratio?
  if num % den = 0 then some (num / den) else none

/-- Whether the number is zero, of either sign. -/
def isZero : Binary64 → Bool
  | finite _ significand _ => significand == 0
  | _ => false

end Binary64

end FsmCompiler
