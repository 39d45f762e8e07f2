/-
# Plain data as JSON

Data written as JSON text over several lines: each entry stands on a line of its
own, two blanks further to the right than what holds it. Only printable ASCII
characters are written as they are.
-/

import FsmCompiler.Datum

namespace FsmCompiler.Datum

/-- An escape by a number of sixteen bits. -/
def unitEscape (unit : Nat) : List Char := '\\' :: 'u' :: Text.hexDigits 4 unit

/-- How a character is written between quotes. What lies beyond sixteen bits is
written as two units. -/
def jsonChar (c : Char) : List Char :=
  if c = '"' ∨ c = '\\' then ['\\', c]
  else if c = '\n' then ['\\', 'n']
  else if c = '\r' then ['\\', 'r']
  else if c = '\t' then ['\\', 't']
  else if c = '\x08' then ['\\', 'b']
  else if c = '\x0c' then ['\\', 'f']
  else if ' ' ≤ c ∧ c ≤ '~' then [c]
  else if c.toNat < 0x10000 then unitEscape c.toNat
  else
    let code := c.toNat - 0x10000
    unitEscape (0xd800 + code / 0x400) ++ unitEscape (0xdc00 + code % 0x400)

/-- A text between quotes. -/
def jsonText (text : String) : String :=
  String.ofList ('"' :: text.toList.flatMap jsonChar ++ ['"'])

/-- Entries between brackets, each on a line of its own. -/
def jsonBlock (depth : Nat) (opening closing : String) (entries : List String) : String :=
  if entries.isEmpty then opening ++ closing
  else
    let inner := "\n" ++ Text.blanks (2 * depth + 2)
    opening ++ inner ++ ("," ++ inner).intercalate entries ++ "\n" ++ Text.blanks (2 * depth) ++
      closing

mutual

/-- A value as JSON, `depth` levels inside others. -/
def json (depth : Nat) : Datum → String
  | null => "null"
  | bool value => if value then "true" else "false"
  | whole value => toString value
  | fraction value => value.text
  | moment name => jsonText name
  | text value => jsonText value
  | list items => jsonBlock depth "[" "]" (jsonItems (depth + 1) items)
  | record fields => jsonBlock depth "\x7b" "\x7d" (jsonFields (depth + 1) fields)

/-- The entries of a list. -/
def jsonItems (depth : Nat) : List Datum → List String
  | [] => []
  | item :: rest => json depth item :: jsonItems depth rest

/-- The fields of a record. -/
def jsonFields (depth : Nat) : List (String × Datum) → List String
  | [] => []
  | (name, value) :: rest =>
    (jsonText name ++ ": " ++ json depth value) :: jsonFields depth rest

end

end FsmCompiler.Datum
