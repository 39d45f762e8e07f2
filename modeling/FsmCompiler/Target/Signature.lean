/-
# Signatures and top texts

Which parameters the dispatch function of a module has, and what the quoted text
at the top of the module says. Either may fail: a type may be no annotation
although it is an expression, or may go on behind its parameter with others, and
the top text may end early if what is written into it holds quotes.
-/

import FsmCompiler.Module.Text
import FsmCompiler.Target.Expression

namespace FsmCompiler.Target

/-- The name that belongs to the language and cannot be bound. -/
def unbindable : String := "__debug__"

/-- The parameters up to the closing parenthesis, which is consumed; at most `count`
are read. Each may have a type; a comma may follow the last. -/
def Reading.params (fuel : Nat) : (count : Nat) → Reading (List String)
  | 0 => failure
  | count + 1 => do
    if ← accept? ")" then return []
    let name ← identifier
    if name = unbindable then failure
    if ← accept? ":" then
      let type ← expression fuel
      if !type.fits ⟨.type, false⟩ then failure
    if ← accept? ")" then return [name]
    expect ","
    return name :: (← params fuel count)

/-- The parameters of a function: their names, and whether their types can be
written out. -/
structure Signature where
  names : List String
  writable : Bool

/-- The signature that a text stands for. It stands in parentheses, where line ends
mean nothing. No two parameters have one name. -/
def Signature.ofText (text : String) : Option Signature := do
  let lexemes ← cut s!"({text})"
  let fuel := Reading.fuelFor lexemes
  let (names, rest) ← (Reading.params fuel lexemes.length).run (lexemes.drop 1)
  guard (rest.isEmpty ∧ names.Nodup)
  return ⟨names, !lexemes.contains (.number true)⟩

/-- The signature of the dispatch function behind its first parameter, if it is well
formed. -/
def dispatchSignature (code : CompiledModule) : Option Signature :=
  (Signature.ofText (ModuleText.dispatchParams code)).map fun signature =>
    { signature with names := signature.names.drop 1 }

/-- The message for a type that cannot be written out. -/
def unwritableMessage : String :=
  s!"Exceeds the limit ({maxDigits} digits) for integer string conversion; " ++
    "use sys.set_int_max_str_digits() to increase the limit"

/-- The text that quoted lexemes stand for together, where none holds bytes or
expressions. -/
def joined : List Lexeme → Option (List Char)
  | [] => some []
  | .quoted false value :: rest => (joined rest).map (value ++ ·)
  | _ => none

/-- The text at the top of a module: quoted texts, which make up one line. -/
def topText (code : CompiledModule) : Option String := do
  let description := Text.unlines (ModuleText.description code.machine code.source)
  let lexemes ← cut s!"{ModuleText.longQuote}\n{description}\n{ModuleText.longQuote}\n"
  guard (lexemes.getLast? = some .lineEnd)
  (joined lexemes.dropLast).map String.ofList

/-- Whether the name of the source holds a character that no module may hold. -/
def holdsNul (code : CompiledModule) : Bool :=
  (code.source.getD "").contains '\x00'

end FsmCompiler.Target
