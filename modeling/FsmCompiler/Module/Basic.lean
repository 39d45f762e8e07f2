/-
# Compiled modules

What a machine is compiled to: a module that defines one class for each state
and event, tuples of them, the tags of the variants, a machine class with its
tables, and a dispatch function. A `CompiledModule` holds the definitions by the
names they mention; what those names mean is decided where the module is loaded,
and how the module is written where it is printed.
-/

import FsmCompiler.Machine.Dispatch

namespace FsmCompiler

/-- The base of a label class. -/
inductive LabelBase
  | state
  | initialState
  | event
  deriving DecidableEq, Repr

/-- The class of a state or an event. -/
structure LabelDef where
  name : String
  base : LabelBase
  deriving DecidableEq, Repr

/-- A branch of the dispatch function: the tag it answers to, and the events it
asks in turn. -/
structure BranchDef where
  tag : String
  events : List String
  deriving DecidableEq, Repr

/-- A compiled module. -/
structure CompiledModule where
  machine : String
  source : Option String
  labels : List LabelDef
  states : List String
  nonTerminalStates : List String
  terminalStates : List String
  events : List String
  tags : List String
  /-- The states in the table of initial states. -/
  initialStates : List String
  /-- The entries of the transition table: source, event and target. -/
  transitions : List (String × String × String)
  /-- The entries of the tag table: state, event if there is one, and tag. -/
  variantTags : List (String × Option String × String)
  guardResources : List Resource
  actionResources : List Resource
  branches : List BranchDef
  deriving DecidableEq, Repr

namespace CompiledModule

/-- The names of the definitions that every module has, in the order in which
they follow the label classes. -/
def fixedNames : List String :=
  ["STATES", "NON_TERMINAL_STATES", "TERMINAL_STATES", "EVENTS", "VariantTag", "Machine",
    "eval_machine"]

/-- The name of the definition that holds the machine's name. -/
def machineNameConstant : String := "MACHINE_NAME"

/-- The names that a module offers, in order of definition. -/
def exports (code : CompiledModule) : List String :=
  machineNameConstant :: code.states ++ code.events ++ fixedNames

end CompiledModule

namespace Machine

/-- The classes of the states and then of the events of `sets`. -/
def labelDefs (m : Machine) (sets : DerivedSets) : List LabelDef :=
  sets.states.map (fun s =>
      ⟨s.name, if m.isInitial s.name then .initialState else .state⟩) ++
    sets.events.map (⟨·.name, .event⟩)

/-- The entry of a variant in the tag table. An event without a name counts as
none. -/
def tagEntry (v : Variant) : String × Option String × String :=
  (v.state.name, v.eventName?.filter (· != ""), v.tag)

/-- The branch of an arm. -/
def branchDef (arm : Arm) : BranchDef :=
  ⟨arm.variant.tag, arm.response.chain.map (·.event.name)⟩

/-- The module of a machine with the given derived sets and dispatch table. -/
def compileWith (m : Machine) (sets : DerivedSets) (arms : List Arm)
    (source : Option String) : CompiledModule where
  machine := m.name
  source := source
  labels := m.labelDefs sets
  states := sets.states.map (·.name)
  nonTerminalStates := sets.nonTerminalStates.map (·.name)
  terminalStates := sets.terminalStates.map (·.name)
  events := sets.events.map (·.name)
  tags := sets.variants.map (·.tag)
  initialStates := m.initialNames
  transitions := m.transitions.map fun t => (t.source.name, t.event.name, t.target.name)
  variantTags := sets.variants.map tagEntry
  guardResources := m.guardResources
  actionResources := m.actionResources
  branches := arms.map branchDef

/-- The module of a machine. -/
def compile (m : Machine) (source : Option String) : CompiledModule :=
  m.compileWith m.derived m.arms source

end Machine

end FsmCompiler
