/-
# The journal

What is recorded while machines are read, compiled, loaded and run, and while a
package is written. An activity is a cause; its record has a level, a topic and a
message. Steps that fail leave no record, those before them do.
-/

import FsmCompiler.Machine.Reader
import FsmCompiler.Running.Loading

namespace FsmCompiler

/-- How much attention a record deserves. -/
inductive Level
  | debug
  | info
  | warning
  deriving DecidableEq, Repr

/-- The level at the head of a line. -/
def Level.title : Level → String
  | debug => "DEBUG"
  | info => "INFO"
  | warning => "WARNING"

/-- Something that was done. -/
inductive Activity
  | readMachine (machine : String) (transitions initialStates : Nat)
  | readFile (file : Path) (machines : List String)
  | analyzed (sets : DerivedSets)
  | arranged (machine : String) (arms : Nat)
  | printed (machine : String) (rows : Nat)
  | loaded (machine module : String)
  | followed (machine : String) (state event : Running.Value) (target : String)
  | discovered (files : Nat) (root : Path)
  | doubted (text : String)
  | removed (file : Path)
  | wrote (file : Path)

namespace Activity

/-- How much attention the activity deserves. -/
def level : Activity → Level
  | doubted _ => .warning
  | removed _ | wrote _ => .info
  | _ => .debug

/-- The part of the program that reports the activity. -/
def topic : Activity → String
  | readMachine .. => "smc.core.dsl_parser_impl"
  | readFile .. => "smc.core.parser"
  | analyzed _ => "smc.core.analyzer"
  | arranged .. => "smc.core.dispatch"
  | printed .. => "smc.codegen.emitter"
  | loaded .. => "smc.codegen.loader"
  | followed .. => "smc.runtime"
  | discovered .. | doubted _ => "smc.cli.project"
  | removed _ | wrote _ => "smc.codegen.package"

/-- The activity in words. -/
def message : Activity → String
  | readMachine machine transitions initialStates =>
    s!"Parsed machine {machine}: {transitions} transitions, {initialStates} initial states"
  | readFile file machines =>
    s!"Parsed {file.text}: " ++
      if machines.isEmpty then "no machines" else Text.commaList machines
  | analyzed sets =>
    s!"Analyzed {sets.machine}: {sets.states.length} states " ++
      s!"({sets.terminalStates.length} terminal), {sets.events.length} events, " ++
      s!"{sets.variants.length} variants"
  | arranged machine arms => s!"Synthesized {arms} dispatch arms for {machine}"
  | printed machine rows => s!"Emitted {rows} lines for machine {machine}"
  | loaded machine module => s!"Loaded machine {machine} as module {module}"
  | followed machine state event target =>
    s!"{machine}: {state.shown} --{event.shown}--> {target}"
  | discovered files root => s!"Discovered {files} .sm files under {root.text}"
  | doubted text => text
  | removed file => s!"Removing stale generated module {file.text}"
  | wrote file => s!"Wrote {file.text}"

/-- The record in one line. -/
def line (activity : Activity) : String :=
  s!"{activity.level.title} {activity.topic}: {activity.message}"

end Activity

namespace Journal

/-- Reading a text: the machines that were read before reading ended or failed. -/
def ofReading (file text : String) : List Activity :=
  (Reader.complete file text).map fun m =>
    .readMachine m.name m.transitions.length m.initialStates.length

/-- Compiling a machine. -/
def ofCompiling (m : Machine) (source : Option String) : List Activity :=
  [.analyzed m.derived, .arranged m.name m.arms.length,
    .printed m.name (ModuleText.rows (m.compile source)).length]

/-- Loading a machine. A machine that is rejected is not compiled. -/
def ofLoading (source : Option String) (m : Machine) : List Activity :=
  match Running.LoadedModule.ofMachine 1 m source with
  | .error (.rejected _) => []
  | .error _ => ofCompiling m source
  | .ok _ => ofCompiling m source ++ [.loaded m.name m.moduleName]

/-- Loading machines one after the other, up to the first that cannot be loaded. -/
def ofLoadingAll (source : Option String) : List Machine → List Activity
  | [] => []
  | m :: rest =>
    ofLoading source m ++
      match Running.LoadedModule.ofMachine 1 m source with
      | .error _ => []
      | .ok _ => ofLoadingAll source rest

/-- Following events one after the other, up to the first that cannot be
followed: what was done, and where it ended. -/
def ofRun (m : Running.RunningMachine) :
    List Running.Value → List Activity × Except Running.RunError Running.RunningMachine
  | [] => ([], .ok m)
  | event :: rest =>
    match m.follow event with
    | .error fault => ([], .error fault)
    | .ok next =>
      let (later, result) := ofRun next rest
      (.followed m.name m.state event.coerce next.state.shown :: later, result)

end Journal

end FsmCompiler
