/-
# Project manifests

A project is described by a manifest, whose sections say what the project is
called, where its sources are and where its package goes. Everything has a
default. Relative paths start at the directory of the manifest.
-/

import FsmCompiler.FileTree
import FsmCompiler.Schema
import FsmCompiler.Text.Utf8
import FsmCompiler.Toml.Document

namespace FsmCompiler.Project

/-- What the project is called. -/
structure Identity where
  name : String
  version : String
  deriving DecidableEq, Repr

/-- Where the package goes, and whether stale modules are removed from there. -/
structure Target where
  directory : String
  clean : Bool
  deriving DecidableEq, Repr

/-- A manifest and the directory it is in. -/
structure Manifest where
  project : Identity
  sources : List String
  output : Target
  root : Path
  deriving DecidableEq, Repr

/-- The sections of a manifest. -/
inductive Section
  | project
  | sources
  | output
  deriving DecidableEq, Repr

/-- The name of a section. -/
def Section.name : Section → String
  | project => "project"
  | sources => "sources"
  | output => "output"

/-- Why there is no manifest. -/
inductive ManifestFault
  | unreadable (error : FileError)
  | undecodable (fault : Text.Utf8Fault)
  | malformed
  | numberTooLong (digits : Nat)
  | notTables
  | misfit (name : Section) (issues : List Schema.Issue)
  deriving DecidableEq, Repr

/-- The message for a fault of the manifest at a path. -/
def ManifestFault.message (path : Path) : ManifestFault → String
  | unreadable error => s!"Cannot read manifest {path.text}: {error.message}"
  | undecodable fault => fault.message
  | malformed => s!"Invalid TOML in {path.text}"
  | numberTooLong digits => Toml.tooLongMessage digits
  | notTables => s!"Invalid manifest {path.text}: sections must be tables"
  | misfit _ _ => s!"Invalid manifest {path.text}"

namespace Manifest

/-- The usual name of a manifest. -/
def fileName : String := "smc.toml"

/-- Read what the project is called. -/
def identity (data : Datum) : Schema.Checked Identity :=
  Identity.mk <$> Schema.optional "name" "unnamed" Schema.text data <*>
    Schema.optional "version" "0.0.0" Schema.text data

/-- Read where the sources are. -/
def sourceTexts (data : Datum) : Schema.Checked (List String) :=
  Schema.optional "paths" ["machines/"] (Schema.list Schema.text) data

/-- Read where the package goes. -/
def target (data : Datum) : Schema.Checked Target :=
  Target.mk <$> Schema.optional "directory" "generated/" Schema.text data <*>
    Schema.optional "clean" true Schema.bool data

/-- Read one section of a manifest; an absent section is empty. -/
def readSection (name : Section) (read : Datum → Schema.Checked α) (data : Datum) :
    Except ManifestFault α :=
  match (data.field? name.name).getD (.record []) with
  | .record fields =>
    match read (.record fields) with
    | .ok value => .ok value
    | .error issues => .error (.misfit name issues)
  | _ => .error .notTables

/-- Read a manifest that is in the directory `root`. -/
def ofDatum (root : Path) (data : Datum) : Except ManifestFault Manifest := do
  let project ← readSection .project identity data
  let sources ← readSection .sources sourceTexts data
  let output ← readSection .output target data
  return ⟨project, sources, output, root⟩

/-- Load the manifest at a path. -/
def load (tree : FileTree) (path : Path) : Except ManifestFault Manifest :=
  match tree.read path with
  | .error error => .error (.unreadable error)
  | .ok bytes =>
    match Text.decode bytes with
    | .error fault => .error (.undecodable fault)
    | .ok text =>
      match Toml.read text with
      | .error .malformed => .error .malformed
      | .error (.numberTooLong digits) => .error (.numberTooLong digits)
      | .ok data => ofDatum path.straighten.parent data

/-- The path that a text stands for in the manifest. -/
def pathOf (manifest : Manifest) (text : String) : Path :=
  manifest.root.under (Path.ofString text)

/-- Where the sources are. -/
def sourcePaths (manifest : Manifest) : List Path := manifest.sources.map manifest.pathOf

/-- Where the package goes, unless another directory is given. -/
def outputPath (manifest : Manifest) (instead : Option String) : Path :=
  manifest.pathOf (instead.getD manifest.output.directory)

end Manifest

end FsmCompiler.Project
