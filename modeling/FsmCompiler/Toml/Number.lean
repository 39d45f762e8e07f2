/-
# Numbers and moments in TOML

Whole numbers in four bases, decimal fractions, the infinite numbers, and dates
and times. What is read is the longest number or moment at the head of a text;
what must not follow it is refused where it stands.
-/

import FsmCompiler.Datum
import FsmCompiler.Toml.Quoted

namespace FsmCompiler.Toml

open Text (isDigitIn numberIn)

/-- What stands at the head of a text where a number is due: a number or moment, or
a whole number with more digits than may be. -/
inductive Numeric
  | number (value : Datum)
  | tooLong (digits : Nat)

/-- A run of digits, with single underscores between them, and what follows. -/
def digitRun (isDigit : Char → Bool) : List Char → List Char × List Char
  | c :: '_' :: d :: rest =>
    if isDigit c then
      if isDigit d then
        let (digits, after) := digitRun isDigit (d :: rest)
        (c :: digits, after)
      else ([c], '_' :: d :: rest)
    else ([], c :: '_' :: d :: rest)
  | c :: rest =>
    if isDigit c then
      let (digits, after) := digitRun isDigit rest
      (c :: digits, after)
    else ([], c :: rest)
  | [] => ([], [])

/-- The letters that announce a base. -/
def bases : List (Char × Nat) := [('x', 16), ('o', 8), ('b', 2)]

/-- A whole number in a base other than ten. -/
def based : List Char → Option (Datum × List Char)
  | '0' :: letter :: rest => do
    let base ← bases.lookup letter
    let (digits, after) := digitRun (isDigitIn base) rest
    guard (!digits.isEmpty)
    return (.whole (numberIn base digits), after)
  | _ => none

/-- The sign of a number. -/
def sign : List Char → Int × List Char
  | '+' :: rest => (1, rest)
  | '-' :: rest => (-1, rest)
  | text => (1, text)

/-- The digits before the point: a zero alone, or a run without leading zero. -/
def wholeDigits : List Char → Option (List Char × List Char)
  | '0' :: rest => some (['0'], rest)
  | text =>
    let (digits, rest) := digitRun Char.isDigit text
    if digits.isEmpty then none else some (digits, rest)

/-- The digits behind a point, if a point with digits comes next. -/
def pointDigits : List Char → List Char × List Char
  | '.' :: rest =>
    let (digits, after) := digitRun Char.isDigit rest
    if digits.isEmpty then ([], '.' :: rest) else (digits, after)
  | text => ([], text)

/-- The power of ten behind the letter for it, if there is one. -/
def powerOfTen? (text : List Char) : Option (Int × List Char) :=
  match text with
  | c :: rest =>
    if c = 'e' ∨ c = 'E' then
      let (factor, rest) := sign rest
      let (digits, after) := digitRun Char.isDigit rest
      if digits.isEmpty then none else some (factor * numberIn 10 digits, after)
    else none
  | [] => none

/-- How many digits a whole number in base ten may have. -/
def longestWhole : Nat := 4300

/-- A whole number or fraction in base ten. -/
def decimal (text : List Char) : Option (Numeric × List Char) := do
  let (factor, rest) := sign text
  let (before, rest) ← wholeDigits rest
  let (behind, rest) := pointDigits rest
  let digits := numberIn 10 (before ++ behind)
  let fraction (power : Int) : Numeric :=
    .number (.fraction (.ofDecimal (factor < 0) digits (power - behind.length)))
  match powerOfTen? rest with
  | some (power, rest) => return (fraction power, rest)
  | none =>
    if !behind.isEmpty then return (fraction 0, rest)
    else if longestWhole < before.length then return (.tooLong before.length, rest)
    else return (.number (.whole (factor * digits)), rest)

/-- The words for infinite numbers and for what is no number. -/
def endlessWords : List (String × Binary64) :=
  [("inf", .infinite false), ("nan", .notANumber), ("-inf", .infinite true),
    ("+inf", .infinite false), ("-nan", .notANumber), ("+nan", .notANumber)]

/-- One of the words for infinite numbers. -/
def endless (text : List Char) : Option (Datum × List Char) :=
  (endlessWords.find? fun (word, _) => word.toList.isPrefixOf text).map fun (word, value) =>
    (.fraction value, text.drop word.length)

/-! ## Moments -/

/-- A number of `width` digits between `least` and `greatest`. -/
def numberWithin (width least greatest : Nat) (text : List Char) : Option (Nat × List Char) :=
  let digits := text.take width
  let value := numberIn 10 digits
  if digits.length = width ∧ digits.all Char.isDigit ∧ least ≤ value ∧ value ≤ greatest then
    some (value, text.drop width)
  else none

/-- What follows `c` at the head of a text. -/
def past (c : Char) : List Char → Option (List Char)
  | d :: rest => if d = c then some rest else none
  | [] => none

/-- The number of days of a month. -/
def daysIn (year month : Nat) : Nat :=
  if month = 2 then
    if year % 4 = 0 ∧ (year % 100 ≠ 0 ∨ year % 400 = 0) then 29 else 28
  else if month = 4 ∨ month = 6 ∨ month = 9 ∨ month = 11 then 30 else 31

/-- What follows a time of day. -/
def afterTime (text : List Char) : Option (List Char) := do
  let (_, rest) ← numberWithin 2 0 23 text
  let (_, rest) ← numberWithin 2 0 59 (← past ':' rest)
  let (_, rest) ← numberWithin 2 0 59 (← past ':' rest)
  match rest with
  | '.' :: c :: after =>
    return if c.isDigit then after.dropWhile Char.isDigit else rest
  | _ => return rest

/-- What follows the distance from the prime meridian, if one is given. -/
def afterOffset (text : List Char) : List Char :=
  let given : Option (List Char) := do
    match text with
    | c :: rest =>
      if c = 'Z' ∨ c = 'z' then return rest
      guard (c = '+' ∨ c = '-')
      let (_, rest) ← numberWithin 2 0 23 rest
      let (_, rest) ← numberWithin 2 0 59 (← past ':' rest)
      return rest
    | [] => none
  given.getD text

/-- The moment up to what follows it. -/
def momentUpTo (text rest : List Char) : Datum × List Char :=
  (.moment (String.ofList (text.take (text.length - rest.length))), rest)

/-- What follows a date, and whether the calendar has it. -/
def afterDate (text : List Char) : Option (Bool × List Char) := do
  let (year, rest) ← numberWithin 4 0 9999 text
  let (month, rest) ← numberWithin 2 1 12 (← past '-' rest)
  let (day, rest) ← numberWithin 2 1 31 (← past '-' rest)
  return (0 < year && day ≤ daysIn year month, rest)

/-- A date, with a time of day if one follows. `some none` is a date that the
calendar does not have. -/
def moment (text : List Char) : Option (Option (Datum × List Char)) :=
  match afterDate text with
  | some (false, _) => some none
  | some (true, rest) =>
    let timed : Option (List Char) := do
      match rest with
      | c :: rest =>
        guard (c = 'T' ∨ c = 't' ∨ c = ' ')
        return afterOffset (← afterTime rest)
      | [] => none
    some (some (momentUpTo text (timed.getD rest)))
  | none => (afterTime text).map fun rest => some (momentUpTo text rest)

/-- The moment or number at the head of a text, and what follows. -/
def numeric (text : List Char) : Option (Numeric × List Char) :=
  let whole (read : Option (Datum × List Char)) := read.map fun (value, rest) =>
    (Numeric.number value, rest)
  match moment text with
  | some read => whole read
  | none =>
    (whole (based text)).orElse fun _ => (decimal text).orElse fun _ => whole (endless text)

end FsmCompiler.Toml
