/-
# Places in a source text

A `Position` is a line and a column, both counted from one, as reading goes
along a text. A `Location` is a place as a declaration records it: with the file,
and with any whole numbers, since machines also come from data written elsewhere.
-/

namespace FsmCompiler.Source

/-- A line and a column of a text, counted from one. -/
structure Position where
  line : Nat
  column : Nat
  deriving DecidableEq, Repr

namespace Position

/-- The first character of a text. -/
def start : Position := ⟨1, 1⟩

/-- The position after `c`, which itself stands at `p`. -/
def next (p : Position) (c : Char) : Position :=
  if c = '\n' then ⟨p.line + 1, 1⟩ else ⟨p.line, p.column + 1⟩

/-- The position after a stretch of text that starts at `p`. -/
def after (p : Position) (text : List Char) : Position :=
  text.foldl next p

@[simp] theorem after_nil (p : Position) : p.after [] = p := rfl

@[simp] theorem after_cons (p : Position) (c : Char) (text : List Char) :
    p.after (c :: text) = (p.next c).after text := rfl

/-- Reading two stretches is reading one after the other. -/
theorem after_append (p : Position) (first second : List Char) :
    p.after (first ++ second) = (p.after first).after second :=
  List.foldl_append

end Position

/-- The place of a declaration in a file. -/
structure Location where
  file : String
  line : Int
  column : Int
  deriving DecidableEq, Repr

/-- The text `file:line:column`. -/
def Location.text (loc : Location) : String :=
  s!"{loc.file}:{loc.line}:{loc.column}"

/-- The place of a position in `file`. -/
def Position.inFile (p : Position) (file : String) : Location :=
  ⟨file, p.line, p.column⟩

end FsmCompiler.Source
