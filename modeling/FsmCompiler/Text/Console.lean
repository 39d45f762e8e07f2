/-
# Lines on a console

A text as a console shows it: characters that would ring, move or feed are left
out, and a tab leads to the next column that is a multiple of eight. A tab takes
a column at least, but a joiner before it draws it into what stands before.
-/

import FsmCompiler.Text.CellWidth
import FsmCompiler.Text.Line

namespace FsmCompiler.Text

/-- Characters that are not shown: bell, backspace, vertical tab, form feed and
carriage return. -/
def isUnshown (c : Char) : Bool := [7, 8, 11, 12, 13].contains c.toNat

/-- The distance between tab stops. -/
def tabDistance : Nat := 8

/-- Stretches of a line with tabs between them, from column `column` on: each tab
is a blank, and as many more as lead to the next tab stop. -/
def joinAtTabStops (column : Nat) : List (List Char) → List Char
  | [] => []
  | [last] => last
  | stretch :: rest =>
    let shown := stretch ++ [' ']
    let column := column + cellsBehind none shown
    let missing := (tabDistance - column % tabDistance) % tabDistance
    shown ++ List.replicate missing ' ' ++ joinAtTabStops (column + missing) rest

/-- A line with its tabs filled by blanks. -/
def expandTabs (line : List Char) : List Char := joinAtTabStops 0 (splitAt '\t' line)

/-- A text as a console shows it. -/
def console (text : String) : String :=
  unlines <| (splitAt '\n' (text.toList.filter fun c => !isUnshown c)).map fun line =>
    String.ofList (expandTabs line)

end FsmCompiler.Text
