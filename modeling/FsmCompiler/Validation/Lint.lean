/-
# Linting a project

All defects and doubts of all machines of a project, in file order. Machine names
have to be unique across the files.
-/

import FsmCompiler.Validation.Machine

namespace FsmCompiler

open Validation

namespace Machine

/-- The checks of linting, in order. -/
def lintChecks [TargetVersion] : List Check :=
  [nameCheck, resourceCheck, tagCheck, targetCheck, structureCheck]

/-- The findings about one machine; the spelling of names is looked at on
request. -/
def lint [TargetVersion] (m : Machine) (extended : Bool) :
    Except UnreadableType LintResult := do
  let found ← m.runChecks lintChecks
  return found.append ⟨[], if extended then m.spellingDoubts else []⟩

end Machine

namespace Lint

/-- Each machine of the files with the path of its file, in order. -/
def placedMachines (files : List MachineFile) : List (Path × Machine) :=
  files.flatMap fun file => file.machines.map (file.path, ·)

/-- The findings about machines, given the files of the names before. -/
def machinesFrom [TargetVersion] (extended : Bool) (definedIn : Table String Path) :
    List (Path × Machine) → Except UnreadableType LintResult
  | [] => .ok ⟨[], []⟩
  | (path, m) :: rest => do
    let repeated := (definedIn.lookup m.name).toList.map fun first =>
      Defect.repeatedMachine m.name first.text
    let here ← m.lint extended
    let later ← machinesFrom extended (definedIn.remember m.name path).2 rest
    return .append ⟨found none repeated, []⟩ (here.append later)

/-- The findings about a project. -/
def files [TargetVersion] (extended : Bool) (files : List MachineFile) :
    Except UnreadableType LintResult :=
  let machines := placedMachines files
  let absence := if machines.isEmpty then found none [Doubt.noMachines] else []
  (machinesFrom extended [] machines).map (LintResult.append ⟨[], absence⟩)

end Lint

end FsmCompiler
