/-
# The program

The command line as a program: it looks at the files that a call may need, lets
the call do its work on that picture of them, and carries out what changed.
-/

import FsmCompiler.Command.Run

namespace FsmCompiler

/-- The tree with the entry that a path leads to, if there is one. -/
def lookAt (tree : FileTree) (path : Path) : IO FileTree := do
  let file := (← IO.currentDir) / path.text
  if ← file.isDir then return ⟨Table.insert path.names .directory tree.entries⟩
  if ← file.pathExists then
    let content := (← IO.FS.readBinFile file).toList
    return ⟨Table.insert path.names (.file content) tree.entries⟩
  return tree

/-- The tree with the entry that a path leads to, and all directories on the
way. -/
def lookAlong (tree : FileTree) (path : Path) : IO FileTree :=
  (List.range path.names.length).foldlM
    (fun tree index => lookAt tree { path with names := path.names.take (index + 1) }) tree

/-- The tree with all that is below a directory. -/
partial def lookBelow (tree : FileTree) (path : Path) : IO FileTree := do
  let tree ← lookAlong tree path
  if !tree.isDirectory path.names then return tree
  let entries ← ((← IO.currentDir) / path.text).readDir
  entries.foldlM (fun tree entry => lookBelow tree (path.child entry.fileName)) tree

/-- The picture of all files that a call may need. -/
def picture (working : Path) (call : Command.Invocation) : IO FileTree := do
  let path := Command.manifestPath working call
  let tree ← lookAlong .empty path
  match Project.Manifest.load tree path with
  | .error _ => return tree
  | .ok manifest =>
    let output := manifest.outputPath ((call.value? .output).filter (· != ""))
    (output :: manifest.sourcePaths).foldlM (fun tree path => lookBelow tree path.straighten) tree

/-- Carry out the changes that lead from one tree to another. -/
def carryOut (old new : FileTree) : IO Unit := do
  let fileAt (place : Place) : String := (Path.mk "/" place).text
  for (place, _) in old.entries do
    if (new.entry? place).isNone then IO.FS.removeFile (fileAt place)
  for (place, entry) in new.entries do
    if old.entry? place != some entry then
      match entry with
      | .directory => IO.FS.createDirAll (fileAt place)
      | .file content => IO.FS.writeBinFile (fileAt place) ⟨content.toArray⟩

/-- Carry out a call and show what it says. -/
def carryOutCall (call : Command.Invocation) : IO UInt32 := do
  let working := Path.ofString (← IO.currentDir).toString
  let tree ← picture working call
  let outcome := Command.run tree working call
  carryOut tree outcome.tree
  IO.print outcome.output
  IO.eprint (outcome.errors call.verbose)
  match outcome.crash with
  | some crash => IO.eprintln crash.message
  | none => pure ()
  return UInt32.ofNat outcome.exit

end FsmCompiler

/-- Carry out the call that the arguments stand for. -/
def main (arguments : List String) : IO UInt32 := do
  if arguments = ["--version"] ∨ arguments = ["-V"] then
    IO.println s!"smc {FsmCompiler.Command.version}"
    return 0
  match FsmCompiler.Command.Invocation.ofArguments false arguments with
  | some call => FsmCompiler.carryOutCall call
  | none =>
    IO.eprintln "Usage: smc [-v] validate | lint | inspect | build [OPTIONS]"
    return 2
