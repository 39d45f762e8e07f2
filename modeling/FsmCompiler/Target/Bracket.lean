/-
# Brackets

Brackets in an expression have to match. While reading, the closing brackets that
are due stand in a list, innermost first.
-/

namespace FsmCompiler.Target

/-- How deep brackets may nest. -/
def maxDepth : Nat := 200

/-- The closing bracket for an opening one. -/
def closingFor? (c : Char) : Option Char :=
  [('(', ')'), ('[', ']'), ('{', '}')].lookup c

/-- The brackets that are open behind a symbol, innermost first; none if it
closes a bracket that is not open, or opens too many. -/
def bracketsAfter (closers : List Char) (c : Char) : Option (List Char) :=
  match closingFor? c with
  | some closer => if closers.length < maxDepth then some (closer :: closers) else none
  | none =>
    if c = ')' ∨ c = ']' ∨ c = '}' then
      match closers with
      | due :: closers => if due = c then some closers else none
      | [] => none
    else some closers

end FsmCompiler.Target
