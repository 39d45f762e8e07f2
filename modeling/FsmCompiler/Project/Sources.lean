/-
# The sources of a project

Finding the source files of a project and reading the machines in them. What the
manifest names is a source file, or a directory that is searched to any depth.
The files come in the order of their paths, each once. Reading stops at the first
file that cannot be read.
-/

import FsmCompiler.Distinct
import FsmCompiler.Machine.Reader
import FsmCompiler.Project.Manifest

namespace FsmCompiler.Project

/-- The suffix of source files. -/
def sourceSuffix : String := ".sm"

/-- Whether a name ends in the suffix of source files. -/
def hasSourceSuffix (name : String) : Bool := name.endsWith sourceSuffix

/-- The sources that one path of the manifest leads to: what has the suffix below
a directory, or a file whose name is more than the suffix. A path that leads nowhere
has none; one with a null character is refused, also where two dots lead back over it. -/
def sourcesAt (tree : FileTree) (path : Path) : Except FileError (List Path) :=
  let base := path.straighten
  if path.names.any (·.contains '\x00') then .error .nullInPath
  else
    match tree.entryAt base with
    | .error (.fault .missing _) | .error (.fault .notDirectory _) => .ok []
    | .error error => .error error
    | .ok (.file _) =>
      .ok (if hasSourceSuffix base.name ∧ base.name ≠ sourceSuffix then [base] else [])
    | .ok .directory =>
      .ok <| ((tree.placesBelow base.names).filter fun place =>
        hasSourceSuffix (place.getLast?.getD "")).map fun place => { base with names := place }

/-- Paths in the order of their names, each once. -/
def inOrder (paths : List Path) : List Path :=
  (distinctBy id paths).mergeSort fun a b => !List.lex b.names a.names

/-- The sources of a project. -/
def discover (tree : FileTree) (manifest : Manifest) : Except FileError (List Path) := do
  return inOrder (← manifest.sourcePaths.mapM (sourcesAt tree)).flatten

/-- Why a source file has no machines. -/
inductive SourceFault
  | unreadable (path : Path) (error : FileError)
  | undecodable (path : Path) (fault : Text.Utf8Fault)
  | malformed (path : Path) (text : String) (fault : Reader.Fault)

/-- The report of a source file without machines. -/
def SourceFault.report : SourceFault → Source.Report
  | unreadable path error => ⟨s!"Cannot read DSL file {path.text}: {error.message}", none⟩
  | undecodable path fault =>
    ⟨s!"Cannot decode DSL file {path.text} as UTF-8: {fault.message}", none⟩
  | malformed path text fault => fault.report path.text (some text)

/-- The text of a source file. -/
def sourceText (tree : FileTree) (path : Path) : Except SourceFault String :=
  match tree.read path with
  | .error error => .error (.unreadable path error)
  | .ok bytes =>
    match Text.decode bytes with
    | .error fault => .error (.undecodable path fault)
    | .ok text => .ok (String.ofList (Text.uniformLines text.toList))

/-- The machines of a source file. -/
def readSource (tree : FileTree) (path : Path) : Except SourceFault MachineFile :=
  match sourceText tree path with
  | .error fault => .error fault
  | .ok text =>
    match Reader.read path.text text with
    | .error fault => .error (.malformed path text fault)
    | .ok machines => .ok ⟨path, machines⟩

/-- The machines of source files. -/
def readSources (tree : FileTree) (paths : List Path) : Except SourceFault (List MachineFile) :=
  paths.mapM (readSource tree)

end FsmCompiler.Project
