/-
# The text of a compiled module

How a compiled module is written. The text is a list of rows, and the header at
its top marks it as generated.
-/

import FsmCompiler.Module.Basic
import FsmCompiler.Text.Line

namespace FsmCompiler.ModuleText

open Text (commaList unlines)

/-- The line that marks a text as generated. -/
def generatedMark : String := "Generated from DSL - DO NOT EDIT."

/-- The quotes around a text that may span lines. -/
def longQuote : String := "\"\"\""

/-- The indentation of the body of a definition. -/
def indent : String := "    "

/-- A row inside the body of a definition. -/
def body (row : String) : String := indent ++ row

/-- The imports of every module. -/
def imports : String := unlines
  ["from __future__ import annotations",
    "",
    "from enum import Enum as _Enum",
    "",
    "from smc.runtime import Event as _Event",
    "from smc.runtime import InitialState as _InitialState",
    "from smc.runtime import Machine as _Machine",
    "from smc.runtime import NoneEvent as _NoneEvent",
    "from smc.runtime import State as _State",
    "from smc.runtime import UnknownVariant as _UnknownVariant",
    "from smc.runtime import Variant as _Variant"]

/-- Resources as the parameters of a function. -/
def params (resources : List Resource) : String :=
  commaList (resources.map fun r => s!"{r.name}: {r.type}")

/-- Resources as the arguments of a call. -/
def args (resources : List Resource) : String :=
  commaList (resources.map (·.name))

/-- Names as a tuple. -/
def tuple : List String → String
  | [name] => s!"({name},)"
  | names => s!"({commaList names})"

/-- The rows of a list of quoted names. -/
def quotedNames (names : List String) : List String :=
  names.map fun name => body s!"\"{name}\","

/-- What describes the module at its top. -/
def description (machine : String) (source : Option String) : List String :=
  [s!"{machine} state machine."] ++
    ((source.filter (· != "")).map fun source => s!"Source: {source}").toList ++ [generatedMark]

/-- The top of a module, up to the machine's name. -/
def header (code : CompiledModule) : List String :=
  [longQuote] ++ description code.machine code.source ++
    [longQuote, "", imports, "", "",
      s!"{CompiledModule.machineNameConstant} = \"{code.machine}\""]

/-- The base class of a label. -/
def baseName : LabelBase → String
  | .state => "_State"
  | .initialState => "_InitialState"
  | .event => "_Event"

/-- The class of a label. -/
def labelClass (label : LabelDef) : List String :=
  ["", "", s!"class {label.name}({baseName label.base}):", body "__slots__ = ()",
    body "machine = MACHINE_NAME", body s!"name = \"{label.name}\""]

/-- The tuples of states and events. -/
def collections (code : CompiledModule) : List String :=
  ["", "", s!"STATES = {tuple code.states}",
    s!"NON_TERMINAL_STATES = {tuple code.nonTerminalStates}",
    s!"TERMINAL_STATES = {tuple code.terminalStates}",
    s!"EVENTS = {tuple code.events}"]

/-- The class of the tags. -/
def tagClass (code : CompiledModule) : List String :=
  ["", "", "class VariantTag(str, _Enum):",
    body s!"\"\"\"Every reachable (state, event) pair of {code.machine}.\"\"\"", ""] ++
    code.tags.map fun tag => body s!"{tag} = \"{tag}\""

/-- The name of the class that stands for "no event". -/
def noneEvent : String := "_NoneEvent"

/-- The entry of the tag table for a state, an event if there is one, and a tag. -/
def tagRow (entry : String × Option String × String) : String :=
  let (state, event, tag) := entry
  s!"({state}, {event.getD noneEvent}): VariantTag.{tag},"

/-- The class of the machine. -/
def machineClass (code : CompiledModule) : List String :=
  ["", "", "class Machine(_Machine):",
    body s!"\"\"\"A {code.machine} instance: an immutable (state, trigger) pair.\"\"\"", "",
    body "name = MACHINE_NAME",
    body s!"initial_states = {tuple code.initialStates}",
    body "transitions = \x7b"] ++
    code.transitions.map (fun (source, event, target) =>
      body (body s!"({source}, {event}): {target},")) ++
    [body "\x7d", body "variant_tags = \x7b"] ++
    code.variantTags.map (fun entry => body (body (tagRow entry))) ++
    [body "\x7d"]

/-- A branch of the dispatch function. -/
def branch (guardArgs actionArgs : String) (def_ : BranchDef) : List String :=
  [body s!"if tag is VariantTag.{def_.tag}:"] ++
    def_.events.flatMap (fun event =>
      [body (body s!"if {event}.is_enabled({guardArgs}):"),
        body (body (body s!"{event}.action({actionArgs})")),
        body (body (body s!"return machine.transition({event}()).as_variant()"))]) ++
    [body (body "return machine.as_variant()")]

/-- The first parameter of the dispatch function. -/
def variantParam : String := "variant"

/-- The parameters of the dispatch function. -/
def dispatchParams (code : CompiledModule) : String :=
  let given (resources : List Resource) : List String :=
    if resources.isEmpty then [] else [params resources]
  commaList
    (s!"{variantParam}: _Variant" :: given code.guardResources ++ given code.actionResources)

/-- The dispatch function. -/
def dispatch (code : CompiledModule) : List String :=
  ["", "", s!"def eval_machine({dispatchParams code}) -> _Variant:",
    body longQuote,
    body "Fire the first enabled transition of the current variant.",
    "",
    body "Guards are tried in declaration order. Terminal variants and",
    body "variants with no enabled guard are returned unchanged.",
    body longQuote,
    body "tag = variant.tag",
    body "machine = variant.machine"] ++
    code.branches.flatMap (branch (args code.guardResources) (args code.actionResources)) ++
    [body "raise _UnknownVariant(MACHINE_NAME, str(tag))"]

/-- The list of the names that the module offers. -/
def exportList (code : CompiledModule) : List String :=
  ["", "", "__all__ = ["] ++ quotedNames code.exports ++ ["]"]

/-- The rows of a module; the imports are one row. -/
def rows (code : CompiledModule) : List String :=
  header code ++ code.labels.flatMap labelClass ++ collections code ++ tagClass code ++
    machineClass code ++ dispatch code ++ exportList code

/-- The text of a module. -/
def ofModule (code : CompiledModule) : String := unlines (rows code) ++ "\n"

/-- The text of the file that imports the modules of a package. -/
def packageInit (modules : List String) : String :=
  unlines ([longQuote, "Generated state machines.", generatedMark, longQuote] ++
    (if modules.isEmpty then [] else ["", s!"from . import {commaList modules}"]) ++
    ["", "__all__ = ["] ++ quotedNames modules ++ ["]"]) ++ "\n"

end FsmCompiler.ModuleText
