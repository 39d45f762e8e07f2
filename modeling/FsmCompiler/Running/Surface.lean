/-
# What a loaded module shows

The definitions of a loaded module as plain data, by name: its states, events and
tags, and the tables of its machine class.
-/

import FsmCompiler.Running.Loading

namespace FsmCompiler.Running

/-- What stands in a table in the place of a label has no name of its own. -/
def Meaning.name : Meaning → Except RunError String
  | label c => .ok c.name
  | machineName => .error (.noAttribute "str" "name")
  | initialTable => .error (.noAttribute "tuple" "name")
  | transitionTable => .error (.noAttribute "dict" "name")

namespace LoadedModule

/-- Texts as data. -/
def texts (list : List String) : Datum := .list (list.map .text)

/-- The names of classes as data. -/
def namesOf (list : List LabelClass) : Datum := texts (list.map (·.name))

/-- Where the module says it comes from. -/
def origin (module : LoadedModule) : String := s!"<smc:{module.code.machine}>"

/-- The name that a tag tells: that of the label it builds on, if any. -/
def toldName (tag : TagMember) : String := (tag.base.map (·.name)).getD tag.name

/-- The definitions of the module as data. A module has its own text at hand, and
is no package. -/
def surface (module : LoadedModule) : Except RunError Datum := do
  let code := module.code
  let kind := module.kind
  let initialStates ← kind.initialStates.mapM (·.name)
  let transitions ← kind.transitions.mapM fun ((state, event), target) => do
    return texts [← state.name, ← event.name, ← target.name]
  let variantTags ← kind.variantTags.mapM fun ((state, event), tag) => do
    return texts [← state.name, ← event.name, tag.value]
  return .record [("module", .text module.name), ("origin", .text module.origin),
    ("doc", .text module.doc), ("name", .text kind.name), ("STATES", namesOf module.states),
    ("NON_TERMINAL_STATES", namesOf (module.classes code.nonTerminalStates)),
    ("TERMINAL_STATES", namesOf (module.classes code.terminalStates)),
    ("EVENTS", namesOf module.events), ("initial_states", texts initialStates),
    ("tags", .list (kind.tags.map fun tag => texts [toldName tag, tag.value])),
    ("is_initial_class", .list (module.states.map fun c => .bool (c.base == .initialState))),
    ("transitions", .list transitions), ("variant_tags", .list variantTags),
    ("all", texts code.exports), ("source_is_emitted", .bool true), ("is_package", .bool false)]

end LoadedModule

end FsmCompiler.Running
