/-
# Overviews of machines

What a project declares, machine by machine: as a record for other programs, and
as tables for people.
-/

import FsmCompiler.Datum.Json
import FsmCompiler.Machine.Derived
import FsmCompiler.Table
import FsmCompiler.Text.BoxTable
import FsmCompiler.Text.Console

namespace FsmCompiler.Overview

/-- Resources by name; of two with one name, the later type counts. -/
def resourceTypes (resources : List Resource) : Table String String :=
  Table.ofEntries (resources.map fun r => (r.name, r.type))

/-- Names as data. -/
def names (list : List String) : Datum := .list (list.map .text)

/-- Resources as data. -/
def resourceRecord (resources : List Resource) : Datum :=
  .record ((resourceTypes resources).map fun (name, type) => (name, .text type))

/-- A rule as data. -/
def transitionRecord (t : Transition) : Datum :=
  .record [("event", .text t.event.name), ("from", .text t.source.name),
    ("to", .text t.target.name)]

/-- A machine of a file as data. -/
def record (file : Path) (m : Machine) : Datum :=
  .record [("name", .text m.name), ("file", .text file.text),
    ("guard_resources", resourceRecord m.guardResources),
    ("action_resources", resourceRecord m.actionResources),
    ("initial_states", names m.initialNames),
    ("states", names (m.states.map (·.name))),
    ("non_terminal_states", names (m.nonTerminalStates.map (·.name))),
    ("terminal_states", names (m.terminalStates.map (·.name))),
    ("events", names (m.events.map (·.name))),
    ("variants", names (m.variants.map (·.tag))),
    ("transitions", .list (m.transitions.map transitionRecord))]

/-- The word for a condition that holds, and nothing for one that does not. -/
def yesWord (condition : Bool) : String := if condition then "yes" else ""

/-- The states of a machine in a table. -/
def stateTable (m : Machine) : Text.BoxTable where
  title := "States"
  headers := ["State", "Initial", "Terminal"]
  rows := m.states.map fun s =>
    [s.name, yesWord (m.isInitial s.name),
      yesWord (m.terminalStates.any fun t => t.name == s.name)]

/-- The rules of a machine in a table. -/
def transitionTable (m : Machine) : Text.BoxTable where
  title := "Transitions"
  headers := ["Event", "From", "To"]
  rows := m.transitions.map fun t => [t.event.name, t.source.name, t.target.name]

/-- Resources in one line; a dash stands for none. -/
def resourceLine (resources : List Resource) : String :=
  if resources.isEmpty then "-"
  else Text.commaList ((resourceTypes resources).map fun (name, type) => s!"{name}: {type}")

/-- A remark for people. -/
def note (text : String) : String := Text.console s!"ℹ {text}"

/-- A machine of a file for people. -/
def lines (file : Path) (m : Machine) : List String :=
  ["", Text.console s!"⚙ {m.name}", Text.console file.text, ""] ++
    (stateTable m).lines ++ (transitionTable m).lines ++
    [note s!"Guard resources: {resourceLine m.guardResources}",
      note s!"Action resources: {resourceLine m.actionResources}",
      note s!"Variants: {Text.commaList (m.variants.map (·.tag))}"]

end FsmCompiler.Overview
