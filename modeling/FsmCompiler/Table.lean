/-
# Tables

Finite maps that remember the order in which their keys came. Storing under a
key that is there replaces its value and moves nothing; a new key goes to the
end.
-/

namespace FsmCompiler

/-- Keys with values, in the order in which the keys came. -/
abbrev Table (κ α : Type) := List (κ × α)

namespace Table

/-- The table with `value` stored under `key`. -/
def insert [BEq κ] (key : κ) (value : α) : Table κ α → Table κ α
  | [] => [(key, value)]
  | (k, v) :: rest => if k == key then (k, value) :: rest else (k, v) :: insert key value rest

/-- The table with the entries stored one after the other. -/
def ofEntries [BEq κ] (entries : List (κ × α)) : Table κ α :=
  entries.foldl (fun table entry => insert entry.1 entry.2 table) []

/-- The value under `key`; if there is none yet, `value` is stored and is it. -/
def remember [BEq κ] (key : κ) (value : α) (table : Table κ α) : α × Table κ α :=
  match table.lookup key with
  | some old => (old, table)
  | none => (value, table ++ [(key, value)])

/-- The table without the entry under `key`. -/
def remove [BEq κ] (key : κ) (table : Table κ α) : Table κ α :=
  table.filter fun entry => !(entry.1 == key)

/-- The keys, in order. -/
def keys (table : Table κ α) : List κ := table.map (·.1)

end Table

end FsmCompiler
