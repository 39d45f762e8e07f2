/-
# File trees

Files and directories below a root, without links. A place is the list of names
that lead to an entry from the root. A path is followed to a place name by name:
all names but the last have to lead through directories, and two dots lead back.
Names and paths have a greatest length, and the null character is in no path.
-/

import FsmCompiler.Path
import FsmCompiler.Table
import FsmCompiler.Text.Quoted
import FsmCompiler.Text.Utf8

namespace FsmCompiler

/-- What may stand at a place. -/
inductive Entry
  | file (content : List UInt8)
  | directory
  deriving DecidableEq, Repr

/-- The names that lead to an entry from the root. -/
abbrev Place := List String

/-- The entries of a file tree by place. The root itself is not among them. -/
structure FileTree where
  entries : Table Place Entry
  deriving Repr

/-- What keeps an operation from being done. -/
inductive FileFault
  | missing
  | present
  | notDirectory
  | isDirectory
  | nameTooLong
  deriving DecidableEq, Repr

/-- The number under which systems know the fault. -/
def FileFault.number : FileFault → Nat
  | missing => 2
  | present => 17
  | notDirectory => 20
  | isDirectory => 21
  | nameTooLong => 36

/-- The fault in words. -/
def FileFault.text : FileFault → String
  | missing => "No such file or directory"
  | present => "File exists"
  | notDirectory => "Not a directory"
  | isDirectory => "Is a directory"
  | nameTooLong => "File name too long"

/-- Why an operation was not done: a fault and the path it arose at, or a path that
no system takes. -/
inductive FileError
  | fault (reason : FileFault) (path : Path)
  | nullInPath
  deriving DecidableEq, Repr

/-- The message for an error. -/
def FileError.message : FileError → String
  | fault reason path => s!"[Errno {reason.number}] {reason.text}: {Text.quoted path.text}"
  | nullInPath => "embedded null byte"

/-- Whether nothing is where something was looked for. -/
def FileError.isMissing : FileError → Bool
  | fault .missing _ => true
  | _ => false

namespace FileTree

/-- A tree with nothing but its root. -/
def empty : FileTree := ⟨[]⟩

/-- The entry at a place. -/
def entry? (tree : FileTree) (place : Place) : Option Entry :=
  if place = [] then some .directory else tree.entries.lookup place

/-- Whether there is a directory at the place. -/
def isDirectory (tree : FileTree) (place : Place) : Bool :=
  tree.entry? place == some .directory

/-- How many bytes a name may have. -/
def longestName : Nat := 255

/-- How many bytes a path may have. -/
def longestPath : Nat := 4095

/-- The place that one more name leads to from a place; something may stand there
or not. -/
def next (tree : FileTree) (place : Place) (name : String) : Except FileFault Place :=
  match tree.entry? place with
  | some .directory =>
    if longestName < name.utf8ByteSize then .error .nameTooLong else .ok (Path.follow place name)
  | some (.file _) => .error .notDirectory
  | none => .error .missing

/-- The place that names lead to. -/
def enter (tree : FileTree) (place : Place) (names : List String) : Except FileFault Place :=
  names.foldlM tree.next place

/-- The place that a path leads to; something may stand there or not. -/
def locate (tree : FileTree) (path : Path) : Except FileError Place :=
  if path.names.any (·.contains '\x00') then .error .nullInPath
  else if longestPath < path.text.utf8ByteSize then .error (.fault .nameTooLong path)
  else (tree.enter [] path.names).mapError fun fault => .fault fault path

/-- What a path leads to. -/
def entryAt (tree : FileTree) (path : Path) : Except FileError Entry := do
  match tree.entry? (← tree.locate path) with
  | some entry => .ok entry
  | none => .error (.fault .missing path)

/-- The content of the file that a path leads to. -/
def read (tree : FileTree) (path : Path) : Except FileError (List UInt8) := do
  match ← tree.entryAt path with
  | .file content => .ok content
  | .directory => .error (.fault .isDirectory path)

/-- The tree with `content` as the file that a path leads to. -/
def write (tree : FileTree) (path : Path) (content : List UInt8) : Except FileError FileTree := do
  let place ← tree.locate path
  if tree.isDirectory place then .error (.fault .isDirectory path)
  else .ok ⟨Table.insert place (.file content) tree.entries⟩

/-- The tree with a new directory; the one around it has to be there. -/
def makeDirectory (tree : FileTree) (path : Path) : Except FileError FileTree := do
  let place ← tree.locate path
  if (tree.entry? place).isSome then .error (.fault .present path)
  else .ok ⟨Table.insert place .directory tree.entries⟩

/-- The tree with a new directory, unless there is one already. -/
def settleDirectory (tree : FileTree) (path : Path) : Except FileError FileTree :=
  match tree.makeDirectory path with
  | .ok tree => .ok tree
  | .error error =>
    if !error.isMissing && tree.entryAt path matches .ok .directory then .ok tree
    else .error error

/-- A tree after a change, and what stopped the change. What was done before stays
done. -/
structure Change where
  tree : FileTree
  error : Option FileError

/-- The change that either was made or not. -/
def Change.of (tree : FileTree) : Except FileError FileTree → Change
  | .ok tree => ⟨tree, none⟩
  | .error error => ⟨tree, some error⟩

/-- Make a directory and at most `depth` directories around it. -/
def makeDirectoriesWithin (depth : Nat) (tree : FileTree) (path : Path) : Change :=
  match tree.settleDirectory path with
  | .ok tree => ⟨tree, none⟩
  | .error error =>
    match depth with
    | 0 => ⟨tree, some error⟩
    | depth + 1 =>
      if error.isMissing then
        let around := makeDirectoriesWithin depth tree path.parent
        match around.error with
        | some _ => around
        | none => Change.of around.tree (around.tree.settleDirectory path)
      else ⟨tree, some error⟩

/-- Make a directory and all directories around it. -/
def makeDirectories (tree : FileTree) (path : Path) : Change :=
  makeDirectoriesWithin path.names.length tree path

/-- The tree without what stands at a place and below. -/
def remove (tree : FileTree) (place : Place) : FileTree :=
  ⟨tree.entries.filter fun entry => !place.isPrefixOf entry.1⟩

/-- The places below a place. -/
def placesBelow (tree : FileTree) (place : Place) : List Place :=
  tree.entries.keys.filter fun other => place.isPrefixOf other && other != place

/-- The names of the entries in a directory. -/
def namesIn (tree : FileTree) (place : Place) : List String :=
  tree.entries.keys.filterMap fun other =>
    if other.dropLast = place then other.getLast? else none

end FileTree

end FsmCompiler
