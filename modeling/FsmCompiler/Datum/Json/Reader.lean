/-
# Reading data from JSON

A number with a point or a power of ten is read as a binary fraction, any other
as a whole number. Of the fields of a record that share one name the last one
counts, and it stands where the first one stood. Every reader here takes what it
reads off the head of a text.
-/

import FsmCompiler.Datum
import FsmCompiler.Table
import FsmCompiler.Text.Hexadecimal

namespace FsmCompiler.Json

open Text (isDigitIn numberIn)

/-- A reader takes what it reads off the head of a text, or fails. -/
abbrev Reading := StateT (List Char) Option

/-- Whether `c` is a blank between the parts of a value. -/
def isBlank (c : Char) : Bool := c == ' ' || c == '\t' || c == '\n' || c == '\r'

/-- The escapes of one letter. -/
def letterEscapes : List (Char × Char) :=
  [('"', '"'), ('\\', '\\'), ('/', '/'), ('b', '\x08'), ('f', '\x0c'), ('n', '\n'), ('r', '\r'),
    ('t', '\t')]

/-- The number in four hexadecimal digits, and what follows. -/
def unit? (text : List Char) : Option (Nat × List Char) :=
  let digits := text.take 4
  if digits.length = 4 ∧ digits.all (isDigitIn 16) then some (numberIn 16 digits, text.drop 4)
  else none

/-- Where the units begin that come first and second in a pair, and behind which
number the characters of pairs lie. -/
def firstUnits : Nat := 0xd800

@[inherit_doc firstUnits]
def secondUnits : Nat := 0xdc00

@[inherit_doc firstUnits]
def pairedCharacters : Nat := 0x10000

/-- The character that a unit or a pair of units stands for, and what follows. -/
def escapedUnits (text : List Char) : Option (Char × List Char) := do
  let (first, rest) ← unit? text
  if first < firstUnits ∨ secondUnits ≤ first then
    guard first.isValidChar
    return (Char.ofNat first, rest)
  else
    match rest with
    | '\\' :: 'u' :: rest =>
      let (second, rest) ← unit? rest
      guard (secondUnits ≤ second ∧ second < secondUnits + 0x400)
      return (Char.ofNat (pairedCharacters + (first - firstUnits) * 0x400 + (second - secondUnits)),
        rest)
    | _ => none

/-- What an escape stands for, given what is behind its backslash, and what
follows. -/
def escape : List Char → Option (Char × List Char)
  | 'u' :: rest => escapedUnits rest
  | letter :: rest => (letterEscapes.lookup letter).map fun c => (c, rest)
  | [] => none

/-- The rest of a text between quotes, of at most `fuel` characters, and what
follows. -/
def textBody : Nat → List Char → Option (List Char × List Char)
  | 0, _ | _, [] => none
  | fuel + 1, c :: rest =>
    if c = '"' then some ([], rest)
    else if c.toNat < 32 then none
    else do
      let (c, rest) ← if c = '\\' then escape rest else some (c, rest)
      let (body, rest) ← textBody fuel rest
      return (c :: body, rest)

/-- The digits at the head of a text, if there are any. -/
def digits : Reading (List Char) := do
  let text ← get
  let found := text.takeWhile Char.isDigit
  guard !found.isEmpty
  set (text.dropWhile Char.isDigit)
  return found

namespace Reading

/-- Skip blanks. -/
def skipBlanks : Reading Unit := modify (·.dropWhile isBlank)

/-- Whether the text goes on with `word`; the word is taken off then. -/
def accept? (word : String) : Reading Bool := do
  let text ← get
  if word.toList.isPrefixOf text then
    set (text.drop word.length)
    return true
  else return false

/-- Take `word` off, or fail. -/
def expect (word : String) : Reading Unit := do
  guard (← accept? word)

/-- A text between quotes, of at most `fuel` characters. -/
def quoted (fuel : Nat) : Reading String := do
  expect "\""
  return String.ofList (← textBody fuel)

/-- The power of ten behind the letter for it, if there is one. -/
def powerOfTen? : Reading (Option Int) := do
  if !(← accept? "e") then
    if !(← accept? "E") then return none
  if ← accept? "-" then return some (-(numberIn 10 (← digits) : Nat))
  let _ ← accept? "+"
  return some (numberIn 10 (← digits))

/-- A number. Before the point, a zero comes first only if it stands alone. -/
def number : Reading Datum := do
  let negative ← accept? "-"
  let before ← if ← accept? "0" then pure ['0'] else digits
  let behind ← if ← accept? "." then digits else pure []
  let power ← powerOfTen?
  let size := numberIn 10 (before ++ behind)
  if behind.isEmpty ∧ power.isNone then return .whole (if negative then -size else size)
  else return .fraction (.ofDecimal negative size (power.getD 0 - behind.length))

mutual

/-- A value. -/
def value : Nat → Reading Datum
  | 0 => failure
  | fuel + 1 => do
    match (← get).head? with
    | some '"' => return .text (← quoted fuel)
    | some '[' =>
      expect "["
      skipBlanks
      if ← accept? "]" then return .list []
      return .list (← items fuel)
    | some '{' =>
      expect "\x7b"
      skipBlanks
      if ← accept? "\x7d" then return .record []
      return .record (Table.ofEntries (← fields fuel))
    | _ =>
      if ← accept? "null" then return .null
      if ← accept? "true" then return .bool true
      if ← accept? "false" then return .bool false
      number

/-- The items of a list, up to and with its closing bracket. -/
def items : Nat → Reading (List Datum)
  | 0 => failure
  | fuel + 1 => do
    let item ← value fuel
    skipBlanks
    if ← accept? "]" then return [item]
    expect ","
    skipBlanks
    return item :: (← items fuel)

/-- The fields of a record, up to and with its closing brace. -/
def fields : Nat → Reading (List (String × Datum))
  | 0 => failure
  | fuel + 1 => do
    let name ← quoted fuel
    skipBlanks
    expect ":"
    skipBlanks
    let value ← value fuel
    skipBlanks
    if ← accept? "\x7d" then return [(name, value)]
    expect ","
    skipBlanks
    return (name, value) :: (← fields fuel)

end

end Reading

/-- The value that a text stands for. -/
def read? (text : String) : Option Datum := do
  let text := text.toList.dropWhile isBlank
  let (value, rest) ← (Reading.value (text.length + 1)).run text
  guard (rest.all isBlank)
  return value

end FsmCompiler.Json
