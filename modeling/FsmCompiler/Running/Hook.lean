/-
# Guards and actions

An application registers a guard and an action for an event class. Each class
has its own pair, and a class for which nothing was ever registered or cleared
uses that of the class it builds on. A hook may change its arguments, so a call
gives them back together with its result.
-/

import FsmCompiler.Running.Machine

namespace FsmCompiler.Running

/-- What a call of a hook gives: its result or the error it raised, and its
arguments as they are afterwards. -/
structure HookResult where
  result : Except RunError Datum
  args : List Datum

/-- A guard or an action, and the name under which its calls are recorded. -/
structure Hook where
  label : String
  run : List Datum → HookResult

/-- The two uses of hooks. -/
inductive HookRole
  | guard
  | action
  deriving DecidableEq, Repr

/-- A call of a hook, with the arguments as they were at the call. -/
structure Call where
  role : HookRole
  label : String
  args : List Datum

/-- The hooks of one class. A hook is absent if it was never set or cleared, and
then that of the base class counts. -/
structure HookPair where
  guard : Option (Option Hook)
  action : Option (Option Hook)

/-- Nothing was ever set. -/
def HookPair.untouched : HookPair := ⟨none, none⟩

/-- What was set for one use. -/
def HookPair.said (pair : HookPair) : HookRole → Option (Option Hook)
  | .guard => pair.guard
  | .action => pair.action

/-- The hooks of all classes. -/
abbrev Hooks := Table ClassId HookPair

namespace Hooks

/-- The hooks set on the class itself. -/
def own (hooks : Hooks) (c : ClassId) : HookPair := (hooks.lookup c).getD .untouched

/-- The hook for one role of the first of some classes, each of which builds on the
next. -/
def findAlong (hooks : Hooks) (role : HookRole) : List ClassId → Option Hook
  | [] => none
  | c :: bases => ((hooks.own c).said role).getD (hooks.findAlong role bases)

/-- The hook of the class for one role: its own, or that of the base of all
events. -/
def find? (hooks : Hooks) (role : HookRole) (c : ClassId) : Option Hook :=
  hooks.findAlong role (if c = LabelClass.event.id then [c] else [c, LabelClass.event.id])

/-- What was set or cleared on the class itself counts. -/
theorem find?_of_said {hooks : Hooks} {role : HookRole} {c : ClassId} {hook : Option Hook}
    (hsaid : (hooks.own c).said role = some hook) : hooks.find? role c = hook := by
  unfold find?
  split <;> simp [findAlong, hsaid]

/-- Register a hook on a class. -/
def register (hooks : Hooks) (role : HookRole) (c : ClassId) (hook : Hook) : Hooks :=
  let pair := hooks.own c
  hooks.insert c <| match role with
    | .guard => { pair with guard := some (some hook) }
    | .action => { pair with action := some (some hook) }

/-- Clear both hooks of a class. -/
def clear (hooks : Hooks) (c : ClassId) : Hooks :=
  hooks.insert c ⟨some none, some none⟩

end Hooks

/-- A result, the calls that were made for it, and the arguments afterwards. -/
structure Outcome (α : Type) where
  result : Except RunError α
  calls : List Call
  args : List Datum

/-- Ask the guard that was found for an event whether it lets the event happen. There
has to be one. -/
def askGuard (c : LabelClass) (guard : Option Hook) (args : List Datum) : Outcome Bool :=
  match guard with
  | none => ⟨.error (.missingGuard c.machine c.name), [], args⟩
  | some hook =>
    let called := hook.run args
    ⟨called.result.map Datum.truthy, [⟨.guard, hook.label, args⟩], called.args⟩

/-- Carry out the action that was found for an event, if there is one. -/
def callAction (action : Option Hook) (args : List Datum) : Outcome Unit :=
  match action with
  | none => ⟨.ok (), [], args⟩
  | some hook =>
    let called := hook.run args
    ⟨called.result.map fun _ => (), [⟨.action, hook.label, args⟩], called.args⟩

/-- Whether the guard of an event lets it happen. -/
def isEnabled (hooks : Hooks) (c : LabelClass) (args : List Datum) : Outcome Bool :=
  askGuard c (hooks.find? .guard c.id) args

/-- Run the action of an event. -/
def runAction (hooks : Hooks) (c : LabelClass) (args : List Datum) : Outcome Unit :=
  callAction (hooks.find? .action c.id) args

end FsmCompiler.Running
