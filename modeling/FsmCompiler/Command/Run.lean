/-
# Running a command

What a call of the program does to a file tree, what it says, and how it ends.
Complaints go to the second output, before which the journal stands if it is
wanted; of the journal, warnings are shown in any case.
-/

import FsmCompiler.Command.Arguments
import FsmCompiler.Command.Diagnostic
import FsmCompiler.Command.Overview
import FsmCompiler.Journal.Building
import FsmCompiler.Text.Unstyled

namespace FsmCompiler.Command

/-- Faults that are no complaint about the project but end the program. -/
inductive Crash
  | undecodable (fault : Text.Utf8Fault)
  | unreadableType
  | numberTooLong (digits : Nat)
  | inaccessible (error : FileError)
  deriving DecidableEq, Repr

/-- The message for a crash. -/
def Crash.message : Crash → String
  | undecodable fault => fault.message
  | unreadableType => Validation.nulMessage
  | numberTooLong digits => Toml.tooLongMessage digits
  | inaccessible error => error.message

/-- What a command leaves behind: the tree, the journal, the lines of its two
outputs, and how it ended. -/
structure Outcome where
  tree : FileTree
  journal : List Activity
  out : List String
  complaints : List String
  exit : Nat
  crash : Option Crash

/-- Lines as one text. -/
def textOf (lines : List String) : String := String.join (lines.map (· ++ "\n"))

/-- The first output of a command. -/
def Outcome.output (outcome : Outcome) : String := textOf outcome.out

/-- The second output of a command. -/
def Outcome.errors (verbose : Bool) (outcome : Outcome) : String :=
  let journal :=
    if verbose then outcome.journal.map (·.line)
    else (outcome.journal.filter (·.level == .warning)).map (·.message)
  textOf (journal ++ outcome.complaints)

/-- The code of a failure. -/
def failureCode : Nat := 1

/-- What a command leaves behind before it does anything. -/
def Outcome.start (tree : FileTree) : Outcome := ⟨tree, [], [], [], 0, none⟩

namespace Outcome

/-- More of the journal. -/
def record (outcome : Outcome) (activities : List Activity) : Outcome :=
  { outcome with journal := outcome.journal ++ activities }

/-- More lines of the first output, as a console shows them. -/
def display (outcome : Outcome) (lines : List String) : Outcome :=
  { outcome with out := outcome.out ++ lines }

/-- More lines of the first output, without styling. -/
def say (outcome : Outcome) (lines : List String) : Outcome :=
  outcome.display (lines.map Text.unstyled)

/-- More lines of the second output, without styling. -/
def complain (outcome : Outcome) (lines : List String) : Outcome :=
  { outcome with complaints := outcome.complaints ++ lines.map Text.unstyled }

/-- The end by failure. -/
def fail (outcome : Outcome) (lines : List String) : Outcome :=
  { outcome.complain lines with exit := failureCode }

/-- The end by a crash. -/
def crashWith (outcome : Outcome) (crash : Crash) : Outcome :=
  { outcome with exit := failureCode, crash := some crash }

end Outcome

/-- A project: its manifest, and the machines of its files. -/
structure LoadedProject where
  manifest : Project.Manifest
  files : List MachineFile

/-- The place of the manifest, as seen from the working directory. -/
def manifestPath (working : Path) (call : Invocation) : Path :=
  working.resolve (Path.ofString ((call.value? .manifest).getD Project.Manifest.fileName))

/-- A complaint in the usual form. -/
def complaint (text : String) : String := s!"Error: {text}"

/-- How a source file without machines is complained about. -/
abbrev SourceComplaint := Project.SourceFault → String

/-- A complaint about a source file in the usual form. -/
def usualComplaint : SourceComplaint := fun fault => complaint fault.report.text

/-- The crash that a fault of the manifest is, if it is no complaint. -/
def crashOf? : Project.ManifestFault → Option Crash
  | .undecodable fault => some (.undecodable fault)
  | .numberTooLong digits => some (.numberTooLong digits)
  | .unreadable .nullInPath => some (.inaccessible .nullInPath)
  | _ => none

/-- Load the project of a call and go on with it, or complain. -/
def withProject (working : Path) (call : Invocation) (complainOf : SourceComplaint)
    (outcome : Outcome) (next : LoadedProject → Outcome → Outcome) : Outcome :=
  let path := manifestPath working call
  match Project.Manifest.load outcome.tree path with
  | .error fault =>
    match crashOf? fault with
    | some crash => outcome.crashWith crash
    | none => outcome.fail [complaint (fault.message path)]
  | .ok manifest =>
    match Project.discover outcome.tree manifest with
    | .error error => outcome.crashWith (.inaccessible error)
    | .ok paths =>
      let outcome := outcome.record
        (.discovered paths.length manifest.root :: Journal.ofSources outcome.tree paths)
      match Project.readSources outcome.tree paths with
      | .error fault => outcome.fail [complainOf fault]
      | .ok files => next ⟨manifest, files⟩ outcome

/-- The format for editors. -/
def editorFormat : String := "vscode"

/-- The format for other programs. -/
def dataFormat : String := "json"

/-- Findings for people: defects on the second output, doubts on the first. -/
def showFindings (result : LintResult) (outcome : Outcome) : Outcome :=
  let outcome :=
    if result.errors.isEmpty then outcome
    else outcome.complain ("Validation failed:\n" :: result.errors.map (s!"ERROR: {·}"))
  let outcome :=
    if result.warnings.isEmpty then outcome
    else outcome.say ("Validation warnings:\n" :: result.warnings.map (s!"WARNING: {·}"))
  if result.errors.isEmpty ∧ result.warnings.isEmpty then
    outcome.say ["OK: machines are valid."]
  else outcome

/-- Findings for editors, all on the second output. -/
def showDiagnostics (root : Path) (result : LintResult) (outcome : Outcome) : Outcome :=
  let outcome := outcome.complain
    (result.errors.map (Diagnostic.line root .error) ++
      result.warnings.map (Diagnostic.line root .warning))
  if result.errors.isEmpty ∧ result.warnings.isEmpty then
    outcome.say ["::notice: Validation successful"]
  else outcome

/-- A complaint about a source file, in the format that is asked for. -/
def checkComplaint (root : Path) (forEditors : Bool) : SourceComplaint
  | .malformed path text fault =>
    let report := fault.report path.text (some text)
    if forEditors then Diagnostic.reportLine root report else s!"Parse error: {report.text}"
  | fault => usualComplaint fault

/-- Check the machines of a project. -/
def check [Validation.TargetVersion] (extended : Bool) (working : Path) (call : Invocation)
    (outcome : Outcome) : Outcome :=
  let forEditors := call.value? .format == some editorFormat
  let root := (manifestPath working call).parent
  withProject working call (checkComplaint root forEditors) outcome fun project outcome =>
    match Lint.files extended project.files with
    | .error _ => outcome.crashWith .unreadableType
    | .ok result =>
      let outcome :=
        if forEditors then showDiagnostics project.manifest.root result outcome
        else showFindings result outcome
      if result.errors.isEmpty then outcome else outcome.fail []

/-- Show the machines of a project, or the one that is asked for. -/
def inspect (working : Path) (call : Invocation) (outcome : Outcome) : Outcome :=
  withProject working call usualComplaint outcome fun project outcome =>
    let wanted := call.value? .machine
    let name := wanted.getD ""
    let found := (Lint.placedMachines project.files).filter fun (_, m) =>
      wanted.all (· == m.name)
    let outcome := outcome.record (found.map fun (_, m) => .analyzed m.derived)
    let single := name != ""
    if single ∧ found.isEmpty then outcome.fail [s!"Machine not found: {name}"]
    else if call.value? .format == some dataFormat then
      let records := found.map fun (path, m) => Overview.record path m
      let shown := if single then records.headD .null else .list records
      outcome.say [shown.json 0]
    else outcome.display (found.flatMap fun (path, m) => Overview.lines path m)

/-- A warning for people. -/
def warningLine (text : String) : String := Text.console s!"⚠ {text}"

/-- Write the package of a project without defects, and say what was done. -/
def generate [Validation.TargetVersion] (call : Invocation) (project : LoadedProject)
    (outcome : Outcome) : Outcome :=
  let directory :=
    project.manifest.outputPath ((call.value? .output).filter (· != ""))
  let generation :=
    Package.generate outcome.tree directory project.manifest.output.clean project.files
  let outcome := ({ outcome with tree := generation.tree }.record
    (Journal.ofRendering (Package.renderAll project.files).1)).record
    (Journal.ofWriting generation.steps)
  match generation.result with
  | .error (.unrendered (.rejected (.unreadable _))) => outcome.crashWith .unreadableType
  | .error (.unwritten _ .nullInPath) => outcome.crashWith (.inaccessible .nullInPath)
  | .error fault => outcome.fail [complaint fault.text]
  | .ok rendered =>
    (outcome.display <| (Package.warnings generation.steps).map warningLine ++
      [Text.console s!"✓ Generated {rendered.length} machine(s) into {directory.text}"]).say
      ((Package.written generation.steps).map fun path => s!"  {path.name}")

/-- Build the package of a project, unless its machines have defects. -/
def build [Validation.TargetVersion] (working : Path) (call : Invocation) (outcome : Outcome) :
    Outcome :=
  withProject working call usualComplaint outcome fun project outcome =>
    match Lint.files false project.files with
    | .error _ => outcome.crashWith .unreadableType
    | .ok result =>
      if result.errors.isEmpty then
        generate call project <|
          (outcome.record (result.warnings.map .doubted)).display
            (result.warnings.map warningLine)
      else
        outcome.fail ("Cannot build; machines have validation errors:" ::
          result.errors.map (s!"ERROR: {·}"))

/-- Carry out a call in the working directory `working`. -/
def run [Validation.TargetVersion] (tree : FileTree) (working : Path) (call : Invocation) :
    Outcome :=
  let start := Outcome.start tree
  match call.action with
  | .validate => check false working call start
  | .lint => check true working call start
  | .inspect => inspect working call start
  | .build => build working call start

end FsmCompiler.Command
