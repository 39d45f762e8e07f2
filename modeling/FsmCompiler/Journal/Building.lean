/-
# The journal of building a project

What is recorded while sources are read, modules rendered and a package written.
-/

import FsmCompiler.Journal
import FsmCompiler.Package.Writing
import FsmCompiler.Project.Sources

namespace FsmCompiler.Journal

/-- Reading source files one after the other, up to the first that cannot be
read. -/
def ofSources (tree : FileTree) : List Path → List Activity
  | [] => []
  | path :: rest =>
    match Project.sourceText tree path with
    | .error _ => []
    | .ok text =>
      ofReading path.text text ++
        match Project.readSource tree path with
        | .error _ => []
        | .ok file => .readFile path (file.machines.map (·.name)) :: ofSources tree rest

/-- Rendering the modules of a package. -/
def ofRendering (rendered : List Package.Rendered) : List Activity :=
  rendered.flatMap fun r => ofCompiling r.machine (some r.source)

/-- The changes made while a package is written. -/
def ofWriting (steps : List Package.WriteStep) : List Activity :=
  steps.map fun
    | .removed path => .removed path
    | .wrote path => .wrote path

end FsmCompiler.Journal
