/-
# Tables in boxes

A title, a row of headers and rows of cells, drawn as a box with round corners.
Every column is as wide as its widest cell, every line as wide as the box; the
title is centred above it, a column further to the left where it cannot be exact.
-/

import FsmCompiler.Text.CellWidth
import FsmCompiler.Text.Line

namespace FsmCompiler.Text

/-- A table with as many cells in each row as there are headers. -/
structure BoxTable where
  title : String
  headers : List String
  rows : List (List String)
  deriving DecidableEq, Repr

namespace BoxTable

/-- The greater widths of two rows, column by column. -/
def widerOf (first second : List Nat) : List Nat := first.zipWith max second

/-- The widths of the columns. -/
def widths (table : BoxTable) : List Nat :=
  (table.rows.map (·.map cells)).foldl widerOf (table.headers.map cells)

/-- The text with blanks behind it up to `width` columns. -/
def padRight (width : Nat) (text : String) : String := text ++ blanks (width - cells text)

/-- The text with blanks around it up to `width` columns. -/
def centred (width : Nat) (text : String) : String :=
  let excess := width - cells text
  blanks (excess / 2) ++ text ++ blanks (excess - excess / 2)

/-- A horizontal line of the box, with its two ends and its crossings. -/
def rule (left crossing right : String) (widths : List Nat) : String :=
  left ++ crossing.intercalate (widths.map fun width =>
    String.ofList (List.replicate (width + 2) '─')) ++ right

/-- A row of cells. -/
def row (widths : List Nat) (texts : List String) : String :=
  "│" ++ "│".intercalate (widths.zipWith (fun width text => s!" {padRight width text} ") texts) ++
    "│"

/-- The width of the box. -/
def boxWidth (widths : List Nat) : Nat := widths.foldr (fun width rest => width + 3 + rest) 1

/-- The lines of the table. -/
def lines (table : BoxTable) : List String :=
  let widths := table.widths
  [centred (boxWidth widths) table.title, rule "╭" "┬" "╮" widths, row widths table.headers,
    rule "├" "┼" "┤" widths] ++ table.rows.map (row widths) ++ [rule "╰" "┴" "╯" widths]

end BoxTable

end FsmCompiler.Text
