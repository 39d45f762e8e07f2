/-
# File paths

A path is a root and the names below it. Reading a path drops empty names and
single dots, so that `./x//y.sm` and `x/y.sm` are one path; two dots stay, since
what they mean depends on the place they are followed from. `resolve` follows
them, in a world without symbolic links.
-/

import FsmCompiler.Text.Line

namespace FsmCompiler

/-- A path: its root (`""` for a relative path) and the names along it. -/
structure Path where
  root : String
  names : List String
  deriving DecidableEq, Repr

namespace Path

/-- The names of a path text: its non-empty stretches between slashes other than
a single dot. -/
def namesIn (text : List Char) : List String :=
  ((Text.splitAt '/' text).map String.ofList).filter fun name => name ≠ "" ∧ name ≠ "."

/-- The root of a path text. Exactly two leading slashes are a root of their
own; more than two are one slash. -/
def rootOf : List Char → String
  | '/' :: '/' :: '/' :: _ => "/"
  | '/' :: '/' :: _ => "//"
  | '/' :: _ => "/"
  | _ => ""

/-- The path that a text stands for. -/
def ofString (text : String) : Path :=
  ⟨rootOf text.toList, namesIn text.toList⟩

/-- The text of a path; the empty relative path is a dot. -/
def text (path : Path) : String :=
  if path.root = "" ∧ path.names = [] then "."
  else path.root ++ "/".intercalate path.names

/-- The text of the path that `text` stands for. -/
def normalize (text : String) : String := (ofString text).text

/-- Whether the path starts at a root. -/
def isAbsolute (path : Path) : Bool := path.root != ""

/-- The last name of a path, empty if it has none. -/
def name (path : Path) : String := path.names.getLast?.getD ""

/-- The path without its last name. -/
def parent (path : Path) : Path := { path with names := path.names.dropLast }

/-- The path reached from `base` along `path`, or `path` itself if it has a root
of its own. -/
def under (base path : Path) : Path :=
  if path.isAbsolute then path else { base with names := base.names ++ path.names }

/-- The path of `name` in the directory `path`. -/
def child (path : Path) (name : String) : Path :=
  { path with names := path.names ++ [name] }

/-- One step along a path: two dots lead back. -/
def follow (names : List String) (name : String) : List String :=
  if name = ".." then names.dropLast else names ++ [name]

/-- The same place from the one root, without two dots. -/
def straighten (path : Path) : Path := ⟨"/", path.names.foldl follow []⟩

/-- The place of a path taken from the directory `base`, without two dots. -/
def resolve (base path : Path) : Path := (base.under path).straighten

/-- The part of `path` below `base`, if `path` lies there. -/
def relativeTo? (base path : Path) : Option Path :=
  if base.root = path.root ∧ base.names <+: path.names then
    some ⟨"", path.names.drop base.names.length⟩
  else none

/-- `path` seen from `base` if it lies below, and `path` as it is otherwise. -/
def relativeTo (base path : Path) : Path := (relativeTo? base path).getD path

end Path

end FsmCompiler
