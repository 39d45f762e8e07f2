/-
# Dispatching on a variant

The dispatch function of a loaded module takes a variant and the resources of
guards and actions. It finds the branch of the variant's tag, asks the guards of
that branch in turn, and follows the first event that is enabled, after running
its action. Hooks may change the resources they are given.
-/

import FsmCompiler.Running.Hook
import FsmCompiler.Running.Loading

namespace FsmCompiler.Running

/-- What a call of the dispatch function works on: its module, the hooks, the
variant, the values of the parameters, and the calls made so far. -/
structure Frame where
  module : LoadedModule
  hooks : Hooks
  variant : RunningVariant
  values : Table String Datum
  calls : List Call

/-- A computation in a frame. The frame outlives a failure. -/
abbrev Dispatch := ExceptT RunError (StateM Frame)

/-- The names of the local variables for the tag and the machine of the variant. -/
def tagLocal : String := "tag"

@[inherit_doc tagLocal]
def machineLocal : String := "machine"

namespace Frame

/-- The name of the type of the tag at hand. -/
def tagType (frame : Frame) : String :=
  match frame.variant.tag with
  | .member tag => tag.type
  | .plain d => d.typeName

/-- The type of what a local name or parameter holds, if `name` is one. -/
def localType? (frame : Frame) (name : String) : Option String :=
  let name := Text.compatible name
  if name = tagLocal then some frame.tagType
  else if name = machineLocal then some RunningMachine.className
  else if name = ModuleText.variantParam then some "Variant"
  else (frame.values.lookup name).map Datum.typeName

/-- The event class that a name means. Local names and parameters hide those of
the module. -/
def event (frame : Frame) (name : String) : Except RunError LabelClass :=
  match frame.localType? name with
  | some type => .error (.noAttribute type "is_enabled")
  | none =>
    match frame.module.globals.find? name with
    | some c => .ok c
    | none => .error (.raised "NameError" s!"name '{name}' is not defined")

/-- What a resource with the name of a local variable is: the text of the tag, or the
machine, which hooks are shown as text. -/
def localValue? (frame : Frame) (name : String) : Option Datum :=
  if name = tagLocal then
    match frame.variant.tag with
    | .member tag => some (.text tag.value)
    | .plain d => some d
  else if name = machineLocal then some (.text frame.variant.machine.shown)
  else none

/-- The values of the resources, in order. Local variables hide those of their names. -/
def argsOf (frame : Frame) (resources : List Resource) : List Datum :=
  resources.map fun r =>
    let name := Text.compatible r.name
    match frame.localValue? name with
    | some value => value
    | none => (frame.values.lookup name).getD .null

/-- The frame after a hook was called, which may have changed its arguments. What local
variables hold stays as it is. -/
def afterCall (frame : Frame) (resources : List Resource) (outcome : Outcome α) : Frame :=
  { frame with
    values := (resources.zip outcome.args).foldl put frame.values
    calls := frame.calls ++ outcome.calls }
where
  /-- Put the value of a resource in its place. -/
  put (values : Table String Datum) (entry : Resource × Datum) : Table String Datum :=
    let name := Text.compatible entry.1.name
    if name = tagLocal ∨ name = machineLocal then values else Table.insert name entry.2 values

end Frame

namespace Dispatch

/-- Call a hook with the values of the resources. -/
def call (resources : List Resource) (hook : Hooks → List Datum → Outcome α) : Dispatch α := do
  let frame ← get
  let outcome := hook frame.hooks (frame.argsOf resources)
  set (frame.afterCall resources outcome)
  outcome.result

/-- Ask the guard of an event with the guard resources. -/
def ask (c : LabelClass) : Dispatch Bool := do
  call (← get).module.code.guardResources (isEnabled · c)

/-- Run the action of an event with the action resources. -/
def act (c : LabelClass) : Dispatch Unit := do
  call (← get).module.code.actionResources (runAction · c)

/-- Follow the first enabled event; if there is none, nothing changes. -/
def firstEnabled (m : RunningMachine) : List String → Dispatch RunningVariant
  | [] => m.asVariant
  | name :: rest => do
    let c ← (← get).event name
    if ← ask c then
      act c
      (← m.follow (.label c)).asVariant
    else firstEnabled m rest

/-- The branch for the variant, if its tag is one of this very module. -/
def branch? (module : LoadedModule) : Tag → Option BranchDef
  | .member tag =>
    if tag.load = module.load then
      module.code.branches.find? fun branch => Text.compatible branch.tag == tag.name
    else none
  | .plain _ => none

/-- The failure for a variant without a branch. Its message is made of the machine's
name and the tag as text, by a function and a class; parameters may hide all of
these, and a state or event the function. -/
def unknown : Dispatch α := do
  let frame ← get
  if let some type := frame.localType? textTypeName then throw (.notCallable type)
  if (frame.module.globals.find? textTypeName).isSome then
    throw (.takesNoArguments textTypeName)
  if let some type := frame.localType? "_UnknownVariant" then throw (.notCallable type)
  let machine := match frame.values.lookup CompiledModule.machineNameConstant with
    | some value => value.plainText
    | none => frame.module.code.machine
  throw (.unknownVariant machine frame.variant.tag.text)

/-- Dispatch on the variant of the frame. A parameter that hides the tags of the
module has no attribute for the first of them. -/
def run : Dispatch RunningVariant := do
  let frame ← get
  if let some first := frame.module.code.branches.head? then
    if let some type := frame.localType? tagTypeName then
      throw (.noAttribute type (Text.compatible first.tag))
  match branch? frame.module frame.variant.tag with
  | some branch => firstEnabled frame.variant.machine branch.events
  | none => unknown

end Dispatch

/-- The failure of a call with a wrong number of arguments. -/
def arityError? (params : List String) (given : Nat) : Option RunError :=
  if params.length < given then some (.tooManyArguments (params.length + 1) (given + 1))
  else if given < params.length then some (.missingArguments (params.drop given))
  else none

/-- Dispatch on a variant with the values of the resources. -/
def dispatch (module : LoadedModule) (hooks : Hooks) (variant : RunningVariant)
    (args : List Datum) : Outcome RunningVariant :=
  match arityError? module.params args.length with
  | some fault => ⟨.error fault, [], args⟩
  | none =>
    let start : Frame := ⟨module, hooks, variant, module.params.zip args, []⟩
    let (result, frame) := StateT.run (ExceptT.run Dispatch.run) start
    ⟨result, frame.calls, frame.values.map (·.2)⟩

end FsmCompiler.Running
