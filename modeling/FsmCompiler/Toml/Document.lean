/-
# Reading TOML documents

A document is a sequence of statements, one to a line: a table is opened, a table
is appended to a list, or a value is stored. Values nest in lists and in tables
within a line. Every reader here takes what it reads off the head of a text.
-/

import FsmCompiler.Toml.Number
import FsmCompiler.Toml.Section

namespace FsmCompiler.Toml

/-- Why a text is no document. -/
inductive Fault
  | malformed
  | numberTooLong (digits : Nat)
  deriving DecidableEq, Repr

/-- The message for a number that is too long. -/
def tooLongMessage (digits : Nat) : String :=
  s!"Exceeds the limit ({longestWhole} digits) for integer string conversion: value has " ++
    s!"{digits} digits; use sys.set_int_max_str_digits() to increase the limit"

/-- A reader takes what it reads off the head of a text, or fails. -/
abbrev Reading := StateT (List Char) (Except Fault)

namespace Reading

/-- The text is malformed. -/
def refuse : Reading α := throw .malformed

/-- What is read off the head of a text, if it can be read. -/
def ofHead (read : List Char → Option (α × List Char)) : Reading α := fun text =>
  match read text with
  | some result => .ok result
  | none => .error .malformed

/-- What there is, or else the text is malformed. -/
def present : Option α → Reading α
  | some value => return value
  | none => refuse

/-- The next character, left where it is. -/
def peek : Reading (Option Char) := return (← get).head?

/-- Whether the text goes on with `word`; the word is taken off then. -/
def accept? (word : String) : Reading Bool := do
  let text ← get
  if word.toList.isPrefixOf text then
    set (text.drop word.length)
    return true
  else return false

/-- Take `word` off, or fail. -/
def expect (word : String) : Reading Unit := do
  if !(← accept? word) then refuse

/-- Skip blanks. -/
def skipBlanks : Reading Unit := modify (·.dropWhile isBlank)

/-- Skip a comment, which holds no control characters but tabs. -/
def skipComment : Reading Unit := do
  match ← get with
  | '#' :: rest =>
    if (rest.takeWhile (· != '\n')).any (isBarred false) then refuse
    set (rest.dropWhile (· != '\n'))
  | _ => return

/-- Skip blanks, line ends and comments; at most `fuel` comments. -/
def skipLayout : Nat → Reading Unit
  | 0 => pure ()
  | fuel + 1 => do
    modify (·.dropWhile fun c => isBlank c || c == '\n')
    if (← peek) = some '#' then
      skipComment
      skipLayout fuel

/-- Whether `c` may stand in a name without quotes. -/
def isBare (c : Char) : Bool := c.isAlphanum || c == '-' || c == '_'

/-- One part of a dotted name. -/
def namePart : Reading String := do
  let text ← get
  let bare := text.takeWhile isBare
  if bare.isEmpty then ofHead shortQuoted
  else
    set (text.dropWhile isBare)
    return String.ofList bare

/-- A number or moment. -/
def number : Reading Datum := do
  match ← ofHead numeric with
  | .number value => return value
  | .tooLong digits => throw (.numberTooLong digits)

/-- A dotted name of at most `fuel` parts, and the blanks behind it. -/
def name : Nat → Reading (List String)
  | 0 => refuse
  | fuel + 1 => do
    let part ← namePart
    skipBlanks
    if ← accept? "." then
      skipBlanks
      return part :: (← name fuel)
    else return [part]

mutual

/-- A value. -/
def value : Nat → Reading Datum
  | 0 => refuse
  | fuel + 1 => do
    match ← peek with
    | some '"' | some '\'' => return .text (← ofHead quoted)
    | some '[' =>
      expect "["
      skipLayout fuel
      if ← accept? "]" then return .list []
      return .list (← items fuel)
    | some '{' =>
      expect "\x7b"
      skipBlanks
      if ← accept? "\x7d" then return .record []
      return .record (fieldData (← inlineFields fuel []))
    | _ =>
      if ← accept? "true" then return .bool true
      if ← accept? "false" then return .bool false
      number

/-- The items of a list, up to and with its closing bracket. -/
def items : Nat → Reading (List Datum)
  | 0 => refuse
  | fuel + 1 => do
    let item ← value fuel
    skipLayout fuel
    if ← accept? "]" then return [item]
    expect ","
    skipLayout fuel
    if ← accept? "]" then return [item]
    return item :: (← items fuel)

/-- A dotted name and the value stored under it. -/
def pair : Nat → Reading (List String × Datum)
  | 0 => refuse
  | fuel + 1 => do
    let path ← name fuel
    expect "="
    skipBlanks
    return (path, ← value fuel)

/-- The fields of a table within a line, up to and with its closing brace. -/
def inlineFields : Nat → Fields → Reading Fields
  | 0, _ => refuse
  | fuel + 1, fields => do
    let (path, value) ← pair fuel
    let fields ← present (fields.store 0 value path)
    skipBlanks
    if ← accept? "\x7d" then return fields
    expect ","
    skipBlanks
    inlineFields fuel fields

end

end Reading

/-- What has been read of a document: its fields, the number of the section at
hand, and the name of the table that the section fills. -/
structure Draft where
  fields : Fields
  current : Nat
  header : List String

/-- The draft of an empty document. -/
def Draft.start : Draft := ⟨[], 0, []⟩

namespace Reading

/-- A statement: the draft with its effect. -/
def statement (fuel : Nat) (draft : Draft) : Reading Draft := do
  if ← accept? "[[" then
    skipBlanks
    let path ← name fuel
    expect "]]"
    let fields ← present (draft.fields.appendTable path)
    return ⟨fields, draft.current + 1, path⟩
  else if ← accept? "[" then
    skipBlanks
    let path ← name fuel
    expect "]"
    let fields ← present (draft.fields.openTable (draft.current + 1) path)
    return ⟨fields, draft.current + 1, path⟩
  else
    let (path, value) ← pair fuel
    let fields ← present
      (draft.fields.within (fun inner => inner.store draft.current value path) draft.header)
    return { draft with fields := fields }

/-- The statements of a document, of which at most `fuel` lines are read. -/
def document : Nat → Draft → Reading Draft
  | 0, draft => return draft
  | fuel + 1, draft => do
    skipBlanks
    let next ← peek
    let draft ←
      if next = none ∨ next = some '\n' ∨ next = some '#' then pure draft
      else statement fuel draft
    skipBlanks
    skipComment
    match ← peek with
    | none => return draft
    | some _ =>
      expect "\n"
      document fuel draft

end Reading

/-- The text with line ends of two characters written as line feeds. -/
def singleLineEnds : List Char → List Char
  | '\r' :: '\n' :: rest => '\n' :: singleLineEnds rest
  | c :: rest => c :: singleLineEnds rest
  | [] => []

/-- The record that a document stands for. -/
def read (text : String) : Except Fault Datum := do
  let text := singleLineEnds text.toList
  let (draft, rest) ← (Reading.document (2 * text.length + 2) .start).run text
  if rest.isEmpty then return .record (fieldData draft.fields) else throw .malformed

end FsmCompiler.Toml
