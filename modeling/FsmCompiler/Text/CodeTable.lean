/-
# Tables by code point

A table that gives numbers to code points. It is written in blocks, each a text of
entries, which semicolons separate: a code point or a range of them, and the numbers
it has, all in hexadecimal digits and ascending. A block says from which code point
on it is responsible, so that only one of them is read for a code point.
-/

import FsmCompiler.Text.Hexadecimal
import FsmCompiler.Text.Line

namespace FsmCompiler.Text

/-- The numbers of the code points from `first` to `last`. -/
structure CodeEntry where
  first : Nat
  last : Nat
  values : List Nat
  deriving DecidableEq, Repr

/-- Blocks of entries, each with the code point from which on it is responsible, in
ascending order. -/
structure CodeTable where
  blocks : List (Nat × List CodeEntry)

namespace CodeTable

/-- The entry of a code point. -/
def find? (table : CodeTable) (code : Nat) : Option CodeEntry := do
  let (_, entries) ← (table.blocks.takeWhile (·.1 ≤ code)).getLast?
  entries.find? fun entry => entry.first ≤ code && code ≤ entry.last

/-- The entry that a piece of a text stands for. -/
def entryOf (piece : List Char) : Option CodeEntry := do
  let numbers := (piece.splitBy fun _ c => c != ' ' && c != '\n').map fun word =>
    word.dropWhile fun c => c == ' ' || c == '\n'
  match numbers.filter (!·.isEmpty) with
  | [] => none
  | head :: values =>
    let first := head.takeWhile (· != '-')
    let last := (head.dropWhile (· != '-')).drop 1
    return ⟨numberIn 16 first, numberIn 16 (if last.isEmpty then first else last),
      values.map (numberIn 16)⟩

/-- The characters of a text of which each takes up one byte, as those of a table do. -/
def bytewise (text : String) : List Char :=
  text.toByteArray.data.toList.map fun byte => Char.ofNat byte.toNat

/-- The entries that a text stands for. -/
def entriesOf (text : String) : List CodeEntry :=
  (splitAt ';' (bytewise text)).filterMap entryOf

/-- The table that texts stand for, each with the code point from which on it is
responsible. -/
def ofBlocks (blocks : List (Nat × String)) : CodeTable :=
  ⟨blocks.map fun (first, text) => (first, entriesOf text)⟩

end CodeTable

end FsmCompiler.Text
