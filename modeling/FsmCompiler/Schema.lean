/-
# Reading typed values from plain data

A value of a declared type is read from a `Datum` field by field. Every field is
looked at, so that all that is wrong is reported together, in the order in which
the fields are declared. Numbers and truth values are read generously: from
numerals, and from the usual words for yes and no.
-/

import FsmCompiler.Datum

namespace FsmCompiler.Schema

/-- One step down into a value. -/
inductive Step
  | field (name : String)
  | index (position : Nat)
  deriving DecidableEq, Repr

/-- What is wrong with a value. -/
inductive Problem
  | missing
  | notText
  | notList
  | notWhole
  | unreadableWhole
  | fractional
  | oversized
  | notFinite
  | notBool
  | unreadableBool
  | notRecord (type : String)
  | refused (reason : String)
  deriving DecidableEq, Repr

namespace Problem

/-- The short name of a problem. -/
def code : Problem → String
  | missing => "missing"
  | notText => "string_type"
  | notList => "list_type"
  | notWhole => "int_type"
  | unreadableWhole => "int_parsing"
  | fractional => "int_from_float"
  | oversized => "int_parsing_size"
  | notFinite => "finite_number"
  | notBool => "bool_type"
  | unreadableBool => "bool_parsing"
  | notRecord _ => "model_type"
  | refused _ => "value_error"

/-- The message for a problem. -/
def message : Problem → String
  | missing => "Field required"
  | notText => "Input should be a valid string"
  | notList => "Input should be a valid list"
  | notWhole => "Input should be a valid integer"
  | unreadableWhole => "Input should be a valid integer, unable to parse string as an integer"
  | fractional => "Input should be a valid integer, got a number with a fractional part"
  | oversized => "Unable to parse input string as an integer, exceeded maximum size"
  | notFinite => "Input should be a finite number"
  | notBool => "Input should be a valid boolean"
  | unreadableBool => "Input should be a valid boolean, unable to interpret input"
  | notRecord type => s!"Input should be a valid dictionary or instance of {type}"
  | refused reason => s!"Value error, {reason}"

end Problem

/-- A problem and where it is. -/
structure Issue where
  path : List Step
  problem : Problem
  deriving DecidableEq, Repr

/-- A value that has been read, or all that is wrong with it. -/
def Checked (α : Type) : Type := Except (List Issue) α

/-- Reading a value from parts keeps the problems of all parts. -/
instance : Applicative Checked where
  pure := Except.ok
  seq f a :=
    match f, a () with
    | .ok f, .ok a => Except.ok (f a)
    | .ok _, .error issues => Except.error issues
    | .error issues, .ok _ => Except.error issues
    | .error first, .error second => Except.error (first ++ second)

/-- One problem at the value itself. -/
def fail (problem : Problem) : Checked α := Except.error [⟨[], problem⟩]

/-- What was read one step further down. -/
def below (step : Step) (read : Checked α) : Checked α :=
  Except.mapError (·.map fun issue => { issue with path := step :: issue.path }) read

/-- A field that has to be there. -/
def required (name : String) (read : Datum → Checked α) (value : Datum) : Checked α :=
  below (.field name) <| match value.field? name with
    | some field => read field
    | none => fail .missing

/-- A field with a default. -/
def optional (name : String) (default : α) (read : Datum → Checked α) (value : Datum) :
    Checked α :=
  below (.field name) <| match value.field? name with
    | some field => read field
    | none => .ok default

/-- Read a record of the named type. -/
def record (type : String) (read : Datum → Checked α) (value : Datum) : Checked α :=
  match value with
  | .record _ => read value
  | _ => fail (.notRecord type)

/-- Read a value that may be absent. -/
def nullable (read : Datum → Checked α) : Datum → Checked (Option α)
  | .null => .ok none
  | value => some <$> read value

/-- Read the entries of a list from position `position` on. -/
def entriesFrom (read : Datum → Checked α) (position : Nat) : List Datum → Checked (List α)
  | [] => .ok []
  | value :: rest =>
    List.cons <$> below (.index position) (read value) <*> entriesFrom read (position + 1) rest

/-- Read a list. -/
def list (read : Datum → Checked α) : Datum → Checked (List α)
  | .list items => entriesFrom read 0 items
  | _ => fail .notList

/-- Read a text; nothing else stands for one. -/
def text : Datum → Checked String
  | .text value => .ok value
  | _ => fail .notText

/-- The characters that may surround a numeral: all white space. -/
def isSpace (c : Char) : Bool :=
  ('\t' ≤ c && c ≤ '\r') || ('\u2000' ≤ c && c ≤ '\u200a') ||
    [' ', '\u0085', '\u00a0', '\u1680', '\u2028', '\u2029', '\u202f', '\u205f',
      '\u3000'].contains c

/-- What stays of the text behind a sign without its leading zeros, between which
underscores may stand. The last zero stays before a point and at the end. -/
def withoutLeadingZeros : List Char → Option (List Char)
  | [] => none
  | c :: rest =>
    if c = '0' then skip c rest
    else if c.isDigit ∨ c = '-' then some (c :: rest)
    else none
where
  /-- Behind the character `last`, which was skipped. -/
  skip (last : Char) : List Char → Option (List Char)
    | [] => some [last]
    | c :: rest =>
      if c = '0' ∨ c = '_' then skip c rest
      else if c.isDigit ∨ c = '-' then some (c :: rest)
      else if c = '.' then some (last :: c :: rest)
      else none

/-- The text without a point and the zeros behind it, if that is how it ends. -/
def withoutZeroFraction (text : List Char) : List Char :=
  match text.dropWhile (· != '.') with
  | _ :: zeros =>
    if !zeros.isEmpty && zeros.all (· == '0') then text.takeWhile (· != '.') else text
  | [] => text

/-- Whether two underscores stand side by side. -/
def hasDoubleUnderscore : List Char → Bool
  | '_' :: '_' :: _ => true
  | _ :: rest => hasDoubleUnderscore rest
  | [] => false

/-- The text without its underscores, if each stands alone between other
characters. -/
def withoutUnderscores (text : List Char) : List Char :=
  if text.head? == some '_' || text.getLast? == some '_' || hasDoubleUnderscore text then text
  else text.filter (· != '_')

/-- The natural number with these decimal digits. -/
def naturalOf (digits : List Char) : Nat :=
  digits.foldl (fun n c => 10 * n + (c.toNat - '0'.toNat)) 0

/-- How many characters a numeral may have. -/
def longestNumeral : Nat := 4300

/-- The whole number that a plain numeral stands for: perhaps a minus sign, and
digits without leading zeros. One that is too long is not read to its end. -/
def plainNumeral (text : List Char) : Except Problem Int :=
  let (sign, digits) := match text with
    | '-' :: digits => (['-'], digits)
    | digits => ([], digits)
  let run := digits.takeWhile Char.isDigit
  if run.head? = some '0' ∧ run ≠ ['0'] then .error .unreadableWhole
  else if longestNumeral < sign.length + run.length then .error .oversized
  else if run.isEmpty ∨ run.length < digits.length then .error .unreadableWhole
  else .ok (if sign.isEmpty then naturalOf digits else -(naturalOf digits : Int))

/-- The whole number that a numeral stands for. Blanks may surround it, and it may
have a sign, leading zeros, underscores, and zeros behind a point. -/
def numeral (value : String) : Except Problem Int :=
  let trimmed := ((value.toList.dropWhile isSpace).reverse.dropWhile isSpace).reverse
  let (negative, unsigned) := match trimmed with
    | '-' :: rest => (true, withoutLeadingZeros rest)
    | '+' :: '-' :: _ => (false, none)
    | '+' :: rest => (false, withoutLeadingZeros rest)
    | rest => (false, withoutLeadingZeros rest)
  match unsigned with
  | none => .error .unreadableWhole
  | some digits =>
    let digits := withoutUnderscores (withoutZeroFraction digits)
    plainNumeral (if negative then '-' :: digits else digits)

/-- The whole number that a binary fraction is, if it fits into a signed word of
64 bits. -/
def wholeFraction (value : Binary64) : Except Problem Int :=
  match value with
  | .finite .. =>
    match value.whole? with
    | none => .error .fractional
    | some n => if -Int.pow 2 63 < n ∧ n < Int.pow 2 63 then .ok n else .error .oversized
  | _ => .error .notFinite

/-- What was read, or the one problem with the value itself. -/
def ofExcept : Except Problem α → Checked α
  | .ok value => .ok value
  | .error problem => fail problem

/-- Read a whole number: also from a truth value, a fraction without a fractional
part, or a numeral. -/
def whole : Datum → Checked Int
  | .whole value => .ok value
  | .bool value => .ok (if value then 1 else 0)
  | .fraction value => ofExcept (wholeFraction value)
  | .text value => ofExcept (numeral value)
  | _ => fail .notWhole

/-- The words for false and for true, in lower case. -/
def boolWords : List (String × Bool) :=
  [("0", false), ("f", false), ("n", false), ("no", false), ("off", false), ("false", false),
    ("1", true), ("t", true), ("y", true), ("yes", true), ("on", true), ("true", true)]

/-- The numbers that fit into a signed word of 64 bits. -/
def isWord64 (value : Int) : Bool :=
  -Int.pow 2 63 ≤ value && value < Int.pow 2 63

/-- Read a truth value: also from one and zero, or a word. -/
def bool : Datum → Checked Bool
  | .bool value => .ok value
  | .text value =>
    match boolWords.lookup (value.map Char.toLower) with
    | some value => .ok value
    | none => fail .unreadableBool
  | .whole value => if isWord64 value then ofNumber value else fail .notBool
  | .fraction value =>
    match wholeFraction value with
    | .ok value => ofNumber value
    | .error _ => fail .notBool
  | _ => fail .notBool
where
  /-- Only one and zero stand for truth values. -/
  ofNumber (value : Int) : Checked Bool :=
    if value = 0 then .ok false
    else if value = 1 then .ok true
    else fail .unreadableBool

end FsmCompiler.Schema
