/-
# Event classes of an application

Event classes build on one another: those of loaded modules and the one for "no event" on the class
that all events build on, and those that an application defines itself on any that there is. What
was neither set nor cleared on a class is looked up in the class that it builds on. An application
sets and clears hooks, loads modules and defines classes, in any order.
-/

import FsmCompiler.Machine.Reader
import FsmCompiler.Path
import FsmCompiler.Running.Hook
import FsmCompiler.Running.Loading

namespace FsmCompiler.Running

/-- An event class: the one that all build on, or one that builds on another. -/
inductive EventClass
  | base
  | derived (c : LabelClass) (on : EventClass)
  deriving DecidableEq, Repr

namespace EventClass

/-- The class as a label. -/
def label : EventClass → LabelClass
  | base => .event
  | derived c _ => c

/-- The identity of the class. -/
def id (e : EventClass) : ClassId := e.label.id

/-- The class and those it builds on. -/
def line : EventClass → List EventClass
  | base => [base]
  | derived c on => derived c on :: on.line

/-- The hook of a class: its own, or that of the class it builds on. -/
def find? (hooks : Hooks) (role : HookRole) (e : EventClass) : Option Hook :=
  hooks.findAlong role (e.line.map (·.id))

/-- Whether the guard of the class lets the event happen. -/
def isEnabled (hooks : Hooks) (e : EventClass) (args : List Datum) : Outcome Bool :=
  askGuard e.label (e.find? hooks .guard) args

/-- Run the action of the class. -/
def runAction (hooks : Hooks) (e : EventClass) (args : List Datum) : Outcome Unit :=
  callAction (e.find? hooks .action) args

end EventClass

/-- The event classes of a module. -/
def LoadedModule.eventClasses (module : LoadedModule) : List EventClass :=
  module.events.map fun c => .derived c .base

/-- An application: what was set on which class, how many machines were loaded or classes defined,
and the event classes that there are. -/
structure Application where
  hooks : Hooks
  loads : Nat
  events : List EventClass

/-- What an application can do: set a hook, clear the hooks of a class, load the machines of a text,
load one machine, and define an event class. -/
inductive Operation
  | register (role : HookRole) (on : EventClass) (hook : Hook)
  | clear (on : EventClass)
  | load (file text : String)
  | loadMachine (m : FsmCompiler.Machine) (source : Option String)
  | define (machine name : String) (on : EventClass)

/-- The class that an operation is done on, or builds on. -/
def Operation.class? : Operation → Option EventClass
  | register _ on _ | clear on | define _ _ on => some on
  | load _ _ | loadMachine _ _ => none

namespace Application

/-- Before anything is done. -/
def start : Application := ⟨[], 0, [.base, .derived .noEvent .base]⟩

/-- The module of the classes that an application defines. -/
def ownModule : String := "__main__"

/-- With the classes of modules; `count` numbers are taken. -/
def withModules (app : Application) (count : Nat) (modules : List LoadedModule) : Application :=
  { app with
    loads := app.loads + count
    events := app.events ++ modules.flatMap (·.eventClasses) }

/-- Do one operation. What cannot be loaded leaves no classes behind. -/
def perform [Validation.TargetVersion] (app : Application) : Operation → Application
  | .register role on hook => { app with hooks := app.hooks.register role on.id hook }
  | .clear on => { app with hooks := app.hooks.clear on.id }
  | .load file text =>
    match Reader.read (Path.normalize file) text with
    | .error _ => app
    | .ok machines =>
      match LoadedModule.ofMachines (app.loads + 1) (some file) machines with
      | .error _ => app.withModules machines.length []
      | .ok modules => app.withModules machines.length (modules.map (·.2))
  | .loadMachine m source =>
    match LoadedModule.ofMachine (app.loads + 1) m source with
    | .error _ => app.withModules 1 []
    | .ok module => app.withModules 1 [module]
  | .define machine name on =>
    { app with
      loads := app.loads + 1
      events := app.events ++
        [.derived ⟨⟨app.loads + 1, 0⟩, .event, machine, name, (ownModule, name)⟩ on] }

end Application

end FsmCompiler.Running
