/-
# Tables of character names

A table of names is a text of rows. A row with a bar begins a run: before the bar
stand the code point of the first name, in hexadecimal digits, and the beginning
that all names of the run share; behind it stand the endings, separated by commas,
for one code point after the other. A row without a bar goes on with the run. An
empty ending stands for a code point without a name.
-/

import FsmCompiler.Text.Hexadecimal
import FsmCompiler.Text.Line

namespace FsmCompiler.Text.CharacterName

/-- A part of a table: the code point of its first name, the beginning that its
names share, and their endings. -/
structure Run where
  first : Nat
  shared : List Char
  endings : List (List Char)
  deriving Repr

/-- The code point of the name `wanted`, if it is in the run. -/
def Run.find? (run : Run) (wanted : List Char) : Option Nat :=
  if run.shared.isPrefixOf wanted then
    let ending := wanted.drop run.shared.length
    if ending.isEmpty then none
    else (run.endings.findIdx? (· == ending)).map (run.first + ·)
  else none

/-- The runs of rows behind `last`. -/
def runsAfter (last : Run) : List (List Char) → List Run
  | [] => []
  | row :: rows =>
    let run : Run :=
      match splitAt '|' row with
      | [head, endings] =>
        ⟨numberIn 16 (head.takeWhile (· != ' ')), (head.dropWhile (· != ' ')).drop 1,
          splitAt ',' endings⟩
      | _ => ⟨last.first + last.endings.length, last.shared, splitAt ',' row⟩
    run :: runsAfter run rows

/-- The runs of a table. Rows may be indented, and empty ones do not count. -/
def runs (table : String) : List Run :=
  runsAfter ⟨0, [], []⟩
    (((splitAt '\n' table.toList).map (·.dropWhile (· == ' '))).filter (!·.isEmpty))

/-- The code point of the name `wanted` in a table. -/
def findIn (wanted : List Char) (table : String) : Option Nat :=
  (runs table).findSome? (·.find? wanted)

end FsmCompiler.Text.CharacterName
