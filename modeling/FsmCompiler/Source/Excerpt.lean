/-
# Excerpts of a source text

The lines around a place, and the header with which a message shows them: the
place itself, the lines with their numbers, and below the line in question three
carets under its column.
-/

import FsmCompiler.Source.Location
import FsmCompiler.Text.Line

namespace FsmCompiler.Source

open Text (lines unlines padLeft blanks)

/-- Lines shown before and after the one in question. -/
def excerptRadius : Int := 2

/-- The entries of `items` from index `first` up to, not including, `stop`. A
negative `stop` counts from the end. -/
def slice (items : List α) (first stop : Int) : List α :=
  let stop := if stop < 0 then stop + items.length else stop
  (items.take stop.toNat).drop first.toNat

/-- The lines at most `radius` away from line `line` of `text`. -/
def excerptWithin (text : String) (line radius : Int) : String :=
  let all := lines text
  unlines (slice all (max 0 (line - 1 - radius)) (min all.length (line + radius)))

/-- The lines around line `line` of `text`. -/
def excerpt (text : String) (line : Int) : String :=
  excerptWithin text line excerptRadius

/-- Where something went wrong: a place, with the lines around it if the text is
at hand, and the machine it belongs to if it belongs to one. -/
structure Context where
  file : String
  line : Int
  column : Int
  excerpt : Option String
  machine : Option String
  deriving DecidableEq, Repr

namespace Context

/-- What stands before line number `number` in an excerpt. -/
def margin (number : Int) : String :=
  padLeft 4 (toString number) ++ " | "

/-- The rows for one line of an excerpt: its number and text, and the carets if
it is the line in question. -/
def rows (context : Context) (number : Int) (line : String) : List String :=
  let row := margin number ++ line
  if number = context.line then
    [row, blanks ((margin number).length + context.column - 1).toNat ++ "^^^"]
  else [row]

/-- The rows for consecutive lines, the first of which has number `number`. -/
def numberedRows (context : Context) (number : Int) : List String → List String
  | [] => []
  | line :: rest => context.rows number line ++ numberedRows context (number + 1) rest

/-- An excerpt with line numbers and carets. It starts up to two lines before
the line in question. -/
def excerptText (context : Context) (excerpt : String) : String :=
  unlines (context.numberedRows (max 1 (context.line - excerptRadius)) (lines excerpt))

/-- The place, and the machine if there is one. -/
def header (context : Context) : String :=
  let place := s!"{context.file}:{context.line}:{context.column}"
  match context.machine with
  | none | some "" => place
  | some machine => s!"{place} in machine {machine}"

/-- The header, with the excerpt below it if there is one. -/
def text (context : Context) : String :=
  match context.excerpt with
  | none | some "" => context.header
  | some excerpt => context.header ++ "\n" ++ context.excerptText excerpt

end Context

/-- A message for a reader, with its context if it has one. -/
structure Report where
  message : String
  context : Option Context
  deriving DecidableEq, Repr

/-- The context, if there is one, and below it the message. -/
def Report.text (report : Report) : String :=
  match report.context with
  | none => report.message
  | some context => context.text ++ "\n" ++ report.message

/-- A message with a context, if the place is given in full; lines and columns
are counted from one, so that zero stands for none. -/
def Report.located (message : String) (file : Option String) (line column : Option Int)
    (machine : Option String) : Report :=
  match file, line, column with
  | some file, some line, some column =>
    if line = 0 ∨ column = 0 then ⟨message, none⟩
    else ⟨message, some ⟨file, line, column, none, machine⟩⟩
  | _, _, _ => ⟨message, none⟩

end FsmCompiler.Source
