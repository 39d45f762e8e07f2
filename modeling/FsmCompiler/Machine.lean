/-
# State machines

A machine as it is declared: states and events with names, transition rules, the
states it may start in, and the resources that guards and actions are given. Two
declarations of one name declare the same thing, wherever they stand.
-/

import FsmCompiler.Path
import FsmCompiler.Source.Location

namespace FsmCompiler

open Source (Location)

/-- A state or an event: its name, and where that name stands. -/
structure Declaration where
  name : String
  loc : Option Location
  deriving DecidableEq, Repr

/-- A named value handed to every guard or every action, with the text of its
type. -/
structure Resource where
  name : String
  type : String
  loc : Option Location
  deriving DecidableEq, Repr

/-- The rule that `event` leads from `source` to `target`. -/
structure Transition where
  event : Declaration
  source : Declaration
  target : Declaration
  loc : Option Location
  deriving DecidableEq, Repr

/-- The rule in one line. -/
def Transition.text (t : Transition) : String :=
  s!"{t.event.name}: {t.source.name} => {t.target.name}"

/-- A machine: its rules in declaration order, the states it may start in, and
what its guards and actions are given. -/
structure Machine where
  name : String
  transitions : List Transition
  initialStates : List Declaration
  guardResources : List Resource
  actionResources : List Resource
  loc : Option Location
  deriving DecidableEq, Repr

namespace Machine

/-- The names of the declared initial states. -/
def initialNames (m : Machine) : List String := m.initialStates.map (·.name)

/-- Whether the machine may start in the state `name`. -/
def isInitial (m : Machine) (name : String) : Bool := m.initialNames.contains name

/-- The names of what guards are given, in order. -/
def guardNames (m : Machine) : List String := m.guardResources.map (·.name)

/-- The names of what actions are given, in order. -/
def actionNames (m : Machine) : List String := m.actionResources.map (·.name)

/-- The rules that leave the state `name`, in declaration order. -/
def transitionsFrom (m : Machine) (name : String) : List Transition :=
  m.transitions.filter (·.source.name == name)

end Machine

/-- The machines of one file, in file order. -/
structure MachineFile where
  path : Path
  machines : List Machine
  deriving DecidableEq, Repr

/-- The first machine of that name. -/
def MachineFile.find? (file : MachineFile) (name : String) : Option Machine :=
  file.machines.find? (·.name == name)

end FsmCompiler
