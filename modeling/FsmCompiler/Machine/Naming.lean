/-
# Names derived from names

A machine gives its module a name, and a state, together with how it was
entered, gives a variant its tag.
-/

import FsmCompiler.Machine
import FsmCompiler.Text.Casing

namespace FsmCompiler.Naming

open Text (isUpper lowerForm)

/-- The reserved words of the language that machines are compiled to. -/
def reservedWords : List String :=
  ["False", "None", "True", "and", "as", "assert", "async", "await", "break", "class",
    "continue", "def", "del", "elif", "else", "except", "finally", "for", "from", "global",
    "if", "import", "in", "is", "lambda", "nonlocal", "not", "or", "pass", "raise", "return",
    "try", "while", "with", "yield"]

/-- Whether `name` is a reserved word. -/
def isReserved (name : String) : Bool := reservedWords.contains name

/-- The characters of a name in lower case, with an underscore before every
upper-case character whose predecessor is not upper case. -/
def snakeChars (afterUpper : Bool) : List Char → List Char
  | [] => []
  | c :: rest =>
    let lowered := lowerForm c ++ snakeChars (isUpper c) rest
    if isUpper c && !afterUpper then '_' :: lowered else lowered

/-- A name in lower case, its words separated by underscores. The first
character starts no new word. -/
def snakeCase (name : String) : String :=
  String.ofList (snakeChars true name.toList)

/-- The name of the module compiled from the machine `name`. An underscore keeps
it apart from the reserved words. -/
def moduleName (name : String) : String :=
  let snake := snakeCase name
  if isReserved snake then snake ++ "_" else snake

/-- The tag of a machine that was started in `state`. -/
def initialTag (state : String) : String := "Initial" ++ state

/-- The tag of a machine that entered `state` through `event`. -/
def transitionTag (state event : String) : String := state ++ "By" ++ event

end FsmCompiler.Naming

/-- The name of the module compiled from the machine. -/
def FsmCompiler.Machine.moduleName (m : FsmCompiler.Machine) : String :=
  FsmCompiler.Naming.moduleName m.name
