/-
# Cutting and joining texts

Cutting a text at a separator, above all at its line feeds, and putting pieces
together again. Only the line feed ends a line; where carriage returns end lines
too, a text is made uniform first.
-/

namespace FsmCompiler.Text

/-- The stretches of a text between separators: one more than there are
separators. -/
def splitAt (separator : Char) : List Char → List (List Char)
  | [] => [[]]
  | c :: rest =>
    if c = separator then [] :: splitAt separator rest
    else match splitAt separator rest with
      | [] => [[c]]
      | piece :: pieces => (c :: piece) :: pieces

/-- Every text has a first stretch. -/
theorem splitAt_ne_nil (separator : Char) (text : List Char) :
    splitAt separator text ≠ [] := by
  cases text with
  | nil => simp [splitAt]
  | cons c rest =>
    simp only [splitAt]
    split
    · simp
    · split <;> simp

/-- The first stretch ends at the first separator. -/
theorem splitAt_append {separator : Char} {piece rest : List Char} (hpiece : separator ∉ piece) :
    splitAt separator (piece ++ separator :: rest) = piece :: splitAt separator rest := by
  induction piece with
  | nil => rw [List.nil_append, splitAt, if_pos rfl]
  | cons c piece ih =>
    rw [List.mem_cons, not_or] at hpiece
    rw [List.cons_append, splitAt, if_neg (Ne.symm hpiece.1), ih hpiece.2]

/-- The lines of a text, without their line feeds. -/
def lines (text : String) : List String :=
  (splitAt '\n' text.toList).map String.ofList

/-- The text with every line end written as a line feed. -/
def uniformLines : List Char → List Char
  | '\r' :: '\n' :: rest => '\n' :: uniformLines rest
  | '\r' :: rest => '\n' :: uniformLines rest
  | c :: rest => c :: uniformLines rest
  | [] => []

/-- Lines joined by line feeds. -/
def unlines (texts : List String) : String :=
  "\n".intercalate texts

/-- Names joined by a comma and a blank. -/
def commaList (texts : List String) : String :=
  ", ".intercalate texts

/-- A stretch of `count` blanks. -/
def blanks (count : Nat) : String :=
  String.ofList (List.replicate count ' ')

/-- `text` with blanks before it up to `width` characters. -/
def padLeft (width : Nat) (text : String) : String :=
  blanks (width - text.length) ++ text

end FsmCompiler.Text
