/-
# Writing a package

The files of a package are written into a directory. If asked to, what was
generated there before and is not any more is removed first; files without the
mark of generated files are left alone. Writing stops at the first file that
cannot be written, and what was done before stays done.
-/

import FsmCompiler.FileTree
import FsmCompiler.Package.Rendering
import FsmCompiler.Text.Utf8

namespace FsmCompiler.Package

/-- A change that was made. -/
inductive WriteStep
  | removed (path : Path)
  | wrote (path : Path)
  deriving DecidableEq, Repr

/-- The tree after writing, the changes made, and what stopped them. -/
structure Writing where
  tree : FileTree
  steps : List WriteStep
  error : Option FileError

/-- The number of characters at the top of a file in which the mark is looked
for. -/
def markReach : Nat := 500

/-- Whether the mark of generated files is at the top of a text. -/
def isMarked (text : List Char) : Bool :=
  (List.range (markReach + 1)).any fun start =>
    ModuleText.generatedMark.toList.isPrefixOf ((text.take markReach).drop start)

/-- Whether an entry is a generated file. -/
def isGenerated : Entry → Bool
  | .directory => false
  | .file content =>
    match Text.decode content with
    | .ok text => isMarked (Text.uniformLines text.toList)
    | .error _ => false

/-- The names of the generated modules in a directory that are not among
`rendered`, in order. -/
def staleNames (tree : FileTree) (place : Place) (rendered : List String) : List String :=
  ((tree.namesIn place).filter fun name =>
    name.endsWith Rendered.suffix && !rendered.contains name &&
      (tree.entry? (place ++ [name])).any isGenerated).mergeSort fun a b => decide (a ≤ b)

/-- Write files into a directory. -/
def writeFiles (directory : Path) : FileTree → List (String × String) → Writing
  | tree, [] => ⟨tree, [], none⟩
  | tree, (name, text) :: rest =>
    match tree.write (directory.child name) (Text.encode text) with
    | .error error => ⟨tree, [], some error⟩
    | .ok tree =>
      let later := writeFiles directory tree rest
      { later with steps := .wrote (directory.child name) :: later.steps }

/-- Remove files from the directory at a place, and then write others. -/
def replaceFiles (directory : Path) (place : Place) (stale : List String) (tree : FileTree)
    (files : List (String × String)) : Writing :=
  let tree := stale.foldl (fun tree name => tree.remove (place ++ [name])) tree
  let later := writeFiles directory tree files
  { later with steps := stale.map (fun name => .removed (directory.child name)) ++ later.steps }

/-- Write the files of a package into a directory, which is made if need be. -/
def write (tree : FileTree) (directory : Path) (clean : Bool) (files : List (String × String)) :
    Writing :=
  let change := tree.makeDirectories directory
  match change.error, change.tree.locate directory with
  | some error, _ | none, .error error => ⟨change.tree, [], some error⟩
  | none, .ok place =>
    let stale := if clean then staleNames change.tree place (files.map (·.1)) else []
    replaceFiles directory place stale change.tree files

/-- Why a package was not generated. -/
inductive GenerateFault
  | unrendered (fault : RenderFault)
  | unwritten (directory : Path) (error : FileError)

/-- The text of a fault. -/
def GenerateFault.text : GenerateFault → String
  | unrendered (.rejected rejection) => rejection.report.text
  | unrendered (.sharedModule module first second) => sharedModuleMessage module first second
  | unwritten directory error => s!"Cannot write to {directory.text}: {error.message}"

/-- The tree after generating a package, the changes made, and what came of it:
the modules of the package, or a fault. -/
structure Generation where
  tree : FileTree
  steps : List WriteStep
  result : Except GenerateFault (List Rendered)

/-- Generate the package of a project in a directory. Nothing is changed unless
all of it can be rendered. -/
def generate [Validation.TargetVersion] (tree : FileTree) (directory : Path) (clean : Bool)
    (files : List MachineFile) : Generation :=
  match renderAll files with
  | (_, some fault) => ⟨tree, [], .error (.unrendered fault)⟩
  | (rendered, none) =>
    let writing := write tree directory clean (filesOf rendered)
    ⟨writing.tree, writing.steps, match writing.error with
      | some error => .error (.unwritten directory error)
      | none => .ok rendered⟩

/-- The warnings for changes that remove something. -/
def warnings (steps : List WriteStep) : List String :=
  steps.filterMap fun
    | .removed path => some s!"Removed stale module {path.name}"
    | .wrote _ => none

/-- The files that were written. -/
def written (steps : List WriteStep) : List Path :=
  steps.filterMap fun
    | .wrote path => some path
    | .removed _ => none

end FsmCompiler.Package
