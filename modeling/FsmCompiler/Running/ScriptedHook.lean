/-
# Scripted hooks

Guards and actions that are given as data: an expression on the arguments, or an
addition to the list that one of them is.
-/

import FsmCompiler.Running.Hook

namespace FsmCompiler.Running

/-- An expression on the arguments of a hook. Arguments are counted from zero, and
backwards from minus one. -/
inductive Expression
  | arg (index : Int)
  | const (value : Datum)
  | raise (message : String)
  | not (e : Expression)
  | and (es : List Expression)
  | equal (a b : Expression)
  | less (a b : Expression)
  | greater (a b : Expression)

/-- What a hook does. -/
inductive Script
  | value (e : Expression)
  | append (index : Int) (item : Datum)

/-- The place in a list of the given length that an index means. -/
def placeOf? (length : Nat) (index : Int) : Option Nat :=
  let place := if index < 0 then index + length else index
  if 0 ≤ place ∧ place < length then some place.toNat else none

/-- The failure of a call with fewer arguments than an index asks for. -/
def noSuchArgument : RunError := .raised "IndexError" "tuple index out of range"

/-- The failure of a comparison of values that cannot be ordered. -/
def notOrdered (sign : String) (left right : String) : RunError :=
  .raised "TypeError"
    s!"'{sign}' not supported between instances of '{left}' and '{right}'"

namespace Expression

/-- Whether `a` comes before `b`. -/
def isLess (a b : Datum) : Except RunError Bool :=
  (a.less b).mapError fun (left, right) => notOrdered "<" left right

/-- Whether `a` comes behind `b`. -/
def isGreater (a b : Datum) : Except RunError Bool :=
  (b.less a).mapError fun (right, left) => notOrdered ">" left right

mutual

/-- The value of an expression. -/
def evaluate (args : List Datum) : Expression → Except RunError Datum
  | arg index =>
    match (placeOf? args.length index).bind (args[·]?) with
    | some value => .ok value
    | none => .error noSuchArgument
  | const value => .ok value
  | raise message => .error (.raised "RuntimeError" message)
  | not e => do return .bool !(← evaluate args e).truthy
  | and es => do return .bool (← allTrue args es)
  | equal a b => do return .bool ((← evaluate args a).equal (← evaluate args b))
  | less a b => do return .bool (← isLess (← evaluate args a) (← evaluate args b))
  | greater a b => do return .bool (← isGreater (← evaluate args a) (← evaluate args b))

/-- Whether all values count as true. None behind the first that does not is
asked for. -/
def allTrue (args : List Datum) : List Expression → Except RunError Bool
  | [] => .ok true
  | e :: rest => do
    if (← evaluate args e).truthy then allTrue args rest else return false

end

end Expression

/-- Run a hook on its arguments. -/
def Script.run (script : Script) (args : List Datum) : HookResult :=
  match script with
  | value e => ⟨e.evaluate args, args⟩
  | append index item =>
    match placeOf? args.length index with
    | none => ⟨.error noSuchArgument, args⟩
    | some place =>
      match args[place]? with
      | some (.list items) => ⟨.ok .null, args.set place (.list (items ++ [item]))⟩
      | some other => ⟨.error (.noAttribute other.typeName "append"), args⟩
      | none => ⟨.error noSuchArgument, args⟩

end FsmCompiler.Running
