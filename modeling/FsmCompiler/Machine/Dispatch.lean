/-
# Dispatch

What a machine does in each of its variants when it is asked to move on: in a
terminal state it stays as it is, and in any other state the first enabled rule
of a chain fires. Declaration order breaks ties.
-/

import FsmCompiler.Machine.Derived

namespace FsmCompiler

/-- A rule that a guard chain may fire. -/
structure Candidate where
  event : Declaration
  target : Declaration
  deriving DecidableEq, Repr

/-- What to do in a variant. -/
inductive Response
  /-- Stay in the variant. -/
  | stay
  /-- Fire the first candidate whose guard holds. -/
  | fireFirst (chain : List Candidate)
  deriving DecidableEq, Repr

/-- The candidates to be tried, in order. -/
def Response.chain : Response → List Candidate
  | stay => []
  | fireFirst chain => chain

/-- A variant and what to do in it. -/
structure Arm where
  variant : Variant
  response : Response
  deriving DecidableEq, Repr

namespace Machine

/-- The rules that leave `state`, in declaration order. -/
def chainFrom (m : Machine) (state : String) : List Candidate :=
  (m.transitionsFrom state).map fun t => ⟨t.event, t.target⟩

/-- One arm for each variant of `sets`: those of terminal states first, then the
others; states in their order, and the variants of a state in theirs. -/
def armsFor (m : Machine) (sets : DerivedSets) : List Arm :=
  let arms (response : Declaration → Response) (state : Declaration) : List Arm :=
    (sets.variants.filter (·.state.name == state.name)).map (⟨·, response state⟩)
  sets.terminalStates.flatMap (arms fun _ => .stay) ++
    sets.nonTerminalStates.flatMap (arms fun s => .fireFirst (m.chainFrom s.name))

/-- The dispatch table of a machine. -/
def arms (m : Machine) : List Arm := m.armsFor m.derived

end Machine

end FsmCompiler
