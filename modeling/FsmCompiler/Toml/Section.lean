/-
# Sections of a TOML document

A document fills a table of named values. Statements open a table, append a new
table to a list of tables, or store a value under a dotted name. A table may be
opened once, and dotted names reach into tables only of the section at hand:
therefore each table remembers the section that defined it.
-/

import FsmCompiler.Datum

namespace FsmCompiler.Toml

/-- What stands under a name: a finished value, a table with the number of the
section that defined it, or a list of tables, the last of which is open. -/
inductive Node
  | value (datum : Datum)
  | table (definedIn : Option Nat) (fields : List (String × Node))
  | tables (finished : List Datum) (last : List (String × Node))

/-- Named nodes, in order of definition. -/
abbrev Fields := List (String × Node)

mutual

/-- The value that a node stands for. -/
def Node.datum : Node → Datum
  | .value datum => datum
  | .table _ fields => .record (fieldData fields)
  | .tables finished last => .list (finished ++ [.record (fieldData last)])

/-- The values of named nodes. -/
def fieldData : List (String × Node) → List (String × Datum)
  | [] => []
  | (name, node) :: rest => (name, node.datum) :: fieldData rest

end

namespace Fields

/-- The fields with the node under `name` replaced by what `change` makes of it. -/
def alter (name : String) (change : Option Node → Option Node) : Fields → Option Fields
  | [] => (change none).map fun node => [(name, node)]
  | (other, node) :: rest =>
    if other = name then (change (some node)).map fun node => (name, node) :: rest
    else (alter name change rest).map ((other, node) :: ·)

/-- The fields after storing a value under a dotted name. Tables on the way must
not be of another section. -/
def store (current : Nat) (value : Datum) : List String → Fields → Option Fields
  | [], _ => none
  | [name], fields => alter name (fun
    | none => some (.value value)
    | some _ => none) fields
  | name :: rest, fields => alter name (fun
    | none => (store current value rest []).map (.table (some current))
    | some (.table definedIn inner) =>
      if definedIn.all (· == current) then
        (store current value rest inner).map (.table (some current))
      else none
    | some _ => none) fields

/-- The fields after changing the table that a dotted name leads to; a list of
tables leads to its last one. -/
def within (change : Fields → Option Fields) : List String → Fields → Option Fields
  | [], fields => change fields
  | name :: rest, fields => alter name (fun
    | none => (within change rest []).map (.table none)
    | some (.table definedIn inner) => (within change rest inner).map (.table definedIn)
    | some (.tables finished last) => (within change rest last).map (.tables finished)
    | some (.value _) => none) fields

/-- The fields after opening a table in section `current`. -/
def openTable (current : Nat) : List String → Fields → Option Fields
  | [], _ => none
  | [name], fields => alter name (fun
    | none => some (.table (some current) [])
    | some (.table none inner) => some (.table (some current) inner)
    | some _ => none) fields
  | name :: rest, fields => within (openTable current rest) [name] fields

/-- The fields after appending a new table to a list of tables. -/
def appendTable : List String → Fields → Option Fields
  | [], _ => none
  | [name], fields => alter name (fun
    | none => some (.tables [] [])
    | some (.tables finished last) => some (.tables (finished ++ [.record (fieldData last)]) [])
    | some _ => none) fields
  | name :: rest, fields => within (appendTable rest) [name] fields

end Fields

end FsmCompiler.Toml
