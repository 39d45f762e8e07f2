/-
# Sets derived from a machine

The states, events and variants that the declarations of a machine mention, in
order of first mention. A state is non-terminal if some rule leaves it; being an
initial state makes no difference. A variant is a state together with the event
that entered it, or with none for a fresh machine.
-/

import FsmCompiler.Distinct
import FsmCompiler.Machine.Naming

namespace FsmCompiler

/-- A state and the event that entered it, under the tag that names the pair. -/
structure Variant where
  tag : String
  state : Declaration
  event : Option Declaration
  deriving DecidableEq, Repr

/-- Whether the variant is that of a fresh machine. -/
def Variant.isInitial (v : Variant) : Bool := v.event.isNone

/-- The name of the event that entered the state. -/
def Variant.eventName? (v : Variant) : Option String := v.event.map (·.name)

/-- The variant of a machine that starts in `state`. -/
def Variant.initial (state : Declaration) : Variant :=
  ⟨Naming.initialTag state.name, state, none⟩

/-- The variant of a machine that has just followed `t`. -/
def Variant.entered (t : Transition) : Variant :=
  ⟨Naming.transitionTag t.target.name t.event.name, t.target, some t.event⟩

namespace Machine

/-- The ends of all rules, source before target, and after them the initial
states. -/
def mentionedStates (m : Machine) : List Declaration :=
  m.transitions.flatMap (fun t => [t.source, t.target]) ++ m.initialStates

/-- Every state, once. -/
def states (m : Machine) : List Declaration :=
  distinctBy (·.name) m.mentionedStates

/-- The states that some rule leaves. -/
def nonTerminalStates (m : Machine) : List Declaration :=
  distinctBy (·.name) (m.transitions.map (·.source))

/-- The states that no rule leaves. -/
def terminalStates (m : Machine) : List Declaration :=
  m.states.filter fun s => !(m.nonTerminalStates.map (·.name)).contains s.name

/-- Every event, once. -/
def events (m : Machine) : List Declaration :=
  distinctBy (·.name) (m.transitions.map (·.event))

/-- Every variant, once: first those of the initial states, then those of the
rules. What shares a tag is one variant, whatever states it was entered from. -/
def variants (m : Machine) : List Variant :=
  distinctBy (·.tag) (m.initialStates.map .initial ++ m.transitions.map .entered)

/-- The variants of one state. -/
def variantsOf (m : Machine) (state : String) : List Variant :=
  m.variants.filter (·.state.name == state)

end Machine

/-- The derived sets of a machine, as one value. -/
structure DerivedSets where
  machine : String
  states : List Declaration
  nonTerminalStates : List Declaration
  terminalStates : List Declaration
  events : List Declaration
  variants : List Variant
  deriving DecidableEq, Repr

/-- The derived sets of `m`. -/
def Machine.derived (m : Machine) : DerivedSets :=
  ⟨m.name, m.states, m.nonTerminalStates, m.terminalStates, m.events, m.variants⟩

/-- Whether `state` is one of the terminal states. -/
def DerivedSets.isTerminal (sets : DerivedSets) (state : String) : Bool :=
  sets.terminalStates.any (·.name == state)

end FsmCompiler
