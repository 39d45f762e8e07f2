/-
# Rendering a package

The modules of all machines of a project, and the file that imports them. Every
machine has to be valid, and no two may share a module name. Rendering stops at
the first machine that fails; what was rendered before is known then too.
-/

import FsmCompiler.Module.Text
import FsmCompiler.Validation.Lint

namespace FsmCompiler.Package

/-- Why a package cannot be rendered. -/
inductive RenderFault
  | rejected (rejection : Rejection)
  | sharedModule (module first second : String)
  deriving DecidableEq, Repr

/-- The message for two machines with one module name. -/
def sharedModuleMessage (module first second : String) : String :=
  s!"Machines '{first}' and '{second}' both generate module '{module}'"

/-- A machine and the module it is compiled to. -/
structure Rendered where
  machine : Machine
  source : String
  deriving DecidableEq, Repr

namespace Rendered

/-- The name of the module. -/
def moduleName (r : Rendered) : String := r.machine.moduleName

/-- The module. -/
def code (r : Rendered) : CompiledModule := r.machine.compile (some r.source)

/-- The suffix of module files. -/
def suffix : String := ".py"

/-- The name of the module's file. -/
def fileName (r : Rendered) : String := r.moduleName ++ suffix

end Rendered

/-- Render one machine, given the owners of the module names so far. -/
def renderOne [Validation.TargetVersion] (owners : Table String String) (path : Path)
    (m : Machine) : Except RenderFault Rendered :=
  match m.validate with
  | .error rejection => .error (.rejected rejection)
  | .ok () =>
    match owners.lookup m.moduleName with
    | some first => .error (.sharedModule m.moduleName first m.name)
    | none => .ok ⟨m, path.name⟩

/-- Render machines one after the other: those rendered, and the fault that
stopped it, if one did. -/
def renderFrom [Validation.TargetVersion] (owners : Table String String) :
    List (Path × Machine) → List Rendered × Option RenderFault
  | [] => ([], none)
  | (path, m) :: rest =>
    match renderOne owners path m with
    | .error fault => ([], some fault)
    | .ok rendered =>
      let (later, fault) := renderFrom (owners ++ [(m.moduleName, m.name)]) rest
      (rendered :: later, fault)

/-- Render the machines of a project. -/
def renderAll [Validation.TargetVersion] (files : List MachineFile) :
    List Rendered × Option RenderFault :=
  renderFrom [] (Lint.placedMachines files)

/-- The name of the file that imports the modules. -/
def initFile : String := "__init__.py"

/-- The files of a package: one for each module, and the one that imports them. -/
def filesOf (rendered : List Rendered) : List (String × String) :=
  rendered.map (fun r => (r.fileName, ModuleText.ofModule r.code)) ++
    [(initFile, ModuleText.packageInit (rendered.map (·.moduleName)))]

/-- The files of the package of a project. -/
def render [Validation.TargetVersion] (files : List MachineFile) :
    Except RenderFault (List (String × String)) :=
  match renderAll files with
  | (rendered, none) => .ok (filesOf rendered)
  | (_, some fault) => .error fault

end FsmCompiler.Package
