/-
# Loading modules

Loading gives the names of a compiled module their meaning. Each load makes new
classes. Names with one compatible form are one name. A name in a table of the
machine class means what was last defined under it in that class, and only then
the state or event that was last defined under it.
-/

import FsmCompiler.Running.Machine
import FsmCompiler.Target.Signature
import FsmCompiler.Validation.Machine

namespace FsmCompiler.Running

/-- The classes that the names of states and events mean in a module. -/
abbrev Globals := List (String × LabelClass)

/-- A module that has been loaded. -/
structure LoadedModule where
  load : Nat
  code : CompiledModule
  /-- The text at its top. -/
  doc : String
  /-- The parameters of the dispatch function behind the variant. -/
  params : List String
  globals : Globals
  kind : MachineClass

/-- Why a machine cannot be loaded. -/
inductive LoadFault
  | rejected (rejection : Rejection)
  | malformed (machine : String)
  | failed (machine reason : String)
  deriving DecidableEq, Repr

/-- The message for a fault of loading. -/
def LoadFault.message : LoadFault → String
  | rejected rejection => rejection.report.text
  | malformed machine => s!"Generated code for {machine} does not compile"
  | failed machine reason => s!"Generated code for {machine} failed to load: {reason}"

/-- The classes of the states and events of a module. -/
def labelClasses (load : Nat) (moduleName machine : String) (defs : List LabelDef) :
    List LabelClass :=
  defs.mapIdx fun index label =>
    ⟨⟨load, index⟩, label.base, machine, label.name, (moduleName, Text.compatible label.name)⟩

/-- What the names of label classes mean: the class that was last defined under
them. -/
def Globals.ofLabels (labels : List LabelClass) : Globals :=
  labels.reverse.map fun c => (c.definedAs.2, c)

/-- The class that a name means. -/
def Globals.find? (globals : Globals) (name : String) : Option LabelClass :=
  globals.lookup (Text.compatible name)

/-- What names mean, innermost meaning first. -/
abbrev Scope := List (String × Meaning)

/-- The name of the type of tags. -/
def tagTypeName : String := "VariantTag"

/-- The name of the type of texts, on which the type of tags builds. -/
def textTypeName : String := "str"

/-- The tags behind those in `known`. No two of them have one name. -/
def tagMembers (load : Nat) (base : Option LabelClass) (known : List TagMember) :
    List String → Except String (List TagMember)
  | [] => .ok known
  | text :: rest =>
    let name := Text.compatible text
    match known.find? (·.name == name) with
    | some first =>
      .error s!"{Text.quoted name} already defined as {Text.quoted first.value}"
    | none => tagMembers load base (known ++ [⟨load, tagTypeName, name, text, base⟩]) rest

namespace Scope

/-- What the names of states and events mean in a module. -/
def ofGlobals (globals : Globals) : Scope :=
  globals.map fun (name, c) => (name, .label c)

/-- What a name means. -/
def resolve (scope : Scope) (name : String) : Except String Meaning :=
  match scope.lookup (Text.compatible name) with
  | some meaning => .ok meaning
  | none => .error s!"name '{name}' is not defined"

/-- What a name means as part of a table key; a table cannot be one. -/
def resolveKey (scope : Scope) (name : String) : Except String Meaning := do
  match ← scope.resolve name with
  | .transitionTable => .error (RunError.unhashable "dict").message
  | meaning => .ok meaning

/-- The entry of the transition table for a rule. -/
def transitionEntry (scope : Scope) (rule : String × String × String) :
    Except String ((Meaning × Meaning) × Meaning) := do
  let (source, event, target) := rule
  return ((← scope.resolveKey source, ← scope.resolveKey event), ← scope.resolve target)

/-- The entry of the tag table for a state, an event if there is one, and a
tag. -/
def tagEntry (scope : Scope) (tags : List TagMember) (entry : String × Option String × String) :
    Except String ((Meaning × Meaning) × TagMember) := do
  let (state, event, text) := entry
  let event ← match event with
    | none => pure (.label .noEvent)
    | some name => scope.resolveKey name
  let state ← scope.resolveKey state
  match tags.find? (·.name == Text.compatible text) with
  | some tag => return ((state, event), tag)
  | none => throw (RunError.noAttribute tagTypeName text).message

end Scope

/-- The class of the machine of a module. Each table is defined behind the ones
before it, whose names are in scope then. -/
def machineClass (load : Nat) (code : CompiledModule) (globals : Globals) :
    Except String MachineClass := do
  let tags ← tagMembers load (globals.find? textTypeName) [] code.tags
  let scope := ("name", Meaning.machineName) :: Scope.ofGlobals globals
  let initialStates ← code.initialStates.mapM (Scope.resolve scope)
  let scope := ("initial_states", Meaning.initialTable) :: scope
  let transitions ← code.transitions.mapM (Scope.transitionEntry scope)
  let scope := ("transitions", Meaning.transitionTable) :: scope
  let variantTags ← code.variantTags.mapM (Scope.tagEntry scope tags)
  return ⟨load, code.machine, initialStates, Table.ofEntries transitions, tagTypeName, tags,
    Table.ofEntries variantTags⟩

namespace LoadedModule

/-- The fault of a module that holds a NUL character. -/
def nulFault [Validation.TargetVersion] (machine : String) : LoadFault :=
  match Validation.TargetVersion.nul with
  | .failure => .failed machine Validation.nulMessage
  | .refusal => .malformed machine

/-- Give the names of a compiled module their meaning. -/
def ofCode [Validation.TargetVersion] (load : Nat) (moduleName : String) (code : CompiledModule) :
    Except LoadFault LoadedModule :=
  if Target.holdsNul code then .error (nulFault code.machine)
  else
    match Target.topText code, Target.dispatchSignature code with
    | some doc, some signature =>
      if !signature.writable then .error (.failed code.machine Target.unwritableMessage)
      else
        let globals :=
          Globals.ofLabels (labelClasses load moduleName code.machine code.labels)
        match machineClass load code globals with
        | .ok kind => .ok ⟨load, code, doc, signature.names, globals, kind⟩
        | .error reason => .error (.failed code.machine reason)
    | _, _ => .error (.malformed code.machine)

/-- Load a machine, if it is valid. -/
def ofMachine [Validation.TargetVersion] (load : Nat) (m : FsmCompiler.Machine)
    (source : Option String) : Except LoadFault LoadedModule :=
  match m.validate with
  | .error rejection => .error (.rejected rejection)
  | .ok () => ofCode load m.moduleName (m.compile source)

/-- Load machines one after the other, numbering the loads from `load` on. The
modules are kept by machine name: a later one takes the place of an earlier one
of the same name. Loading stops at the first fault. -/
def ofMachines [Validation.TargetVersion] (load : Nat) (source : Option String) :
    List FsmCompiler.Machine → Except LoadFault (Table String LoadedModule)
  | machines => (machines.zipIdx load).foldlM (fun table (m, load) => do
      return Table.insert m.name (← ofMachine load m source) table) []

/-- The name of the module. -/
def name (module : LoadedModule) : String := Naming.moduleName module.code.machine

/-- The classes that names mean. -/
def classes (module : LoadedModule) (names : List String) : List LabelClass :=
  names.filterMap module.globals.find?

/-- The classes of the states. -/
def states (module : LoadedModule) : List LabelClass := module.classes module.code.states

/-- The classes of the events. -/
def events (module : LoadedModule) : List LabelClass := module.classes module.code.events

/-- The first class of a state with that name. -/
def state? (module : LoadedModule) (name : String) : Option LabelClass :=
  module.states.find? (·.name == name)

/-- The first class of an event with that name. -/
def event? (module : LoadedModule) (name : String) : Option LabelClass :=
  module.events.find? (·.name == name)

end LoadedModule

end FsmCompiler.Running
