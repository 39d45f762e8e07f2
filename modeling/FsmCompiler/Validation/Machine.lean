/-
# Validating a machine

Any word is read as a name, so a machine that has been read may still have no
module: its names may be unusable or clash, a type may be no expression, two
variants may share a tag, or two rules may disagree. Validation runs one check for
each of these. Doubts about the structure of a machine are found beside them.
-/

import FsmCompiler.Machine.Reachability
import FsmCompiler.Table
import FsmCompiler.Target.Expression
import FsmCompiler.Validation.Finding

namespace FsmCompiler

open Source (Location)

namespace Validation

/-- The names that every compiled module defines for itself. -/
def generatedNames : List String :=
  ["MACHINE_NAME", "STATES", "NON_TERMINAL_STATES", "TERMINAL_STATES", "EVENTS", "VariantTag",
    "Machine", "eval_machine"]

/-- The local names of the compiled dispatch function. -/
def dispatchNames : List String := ["variant", "tag", "machine"]

/-- What keeps a name from being bound in the compiled module. -/
def nameDefect? (role : NameRole) (name : String) : Option Defect :=
  if !Text.isIdentifier name then some (.notIdentifier role name)
  else if Naming.isReserved name then some (.reservedWord role name)
  else if name.startsWith "_" then some (.leadingUnderscore role name)
  else none

/-- Defects found at one place. -/
def found (loc : Option Location) (defects : List α) : List (Finding α) :=
  defects.map (⟨loc, ·⟩)

/-- A defect, if `condition` holds. -/
def defectIf (condition : Bool) (defect : Defect) : List Defect :=
  if condition then [defect] else []

/-- A character that no source text of a module may hold. -/
def nul : Char := '\x00'

/-- What reading an expression that holds a NUL character ends in. -/
inductive NulReading
  | failure
  | refusal
  deriving DecidableEq, Repr

/-- A version of the language that machines are compiled to. In early versions reading
a text with a NUL character fails; later ones refuse it like any other text that is no
expression. -/
class TargetVersion where
  nul : NulReading

/-- An early version. -/
@[reducible] def TargetVersion.early : TargetVersion := ⟨.failure⟩

/-- A later version. -/
@[reducible] def TargetVersion.late : TargetVersion := ⟨.refusal⟩

/-- Unless another one is named, the version is an early one. -/
instance : TargetVersion := .early

/-- Whether a type is an expression, if reading it comes to an end. -/
def isType? [TargetVersion] (type : String) : Option Bool :=
  if type.contains nul then
    match TargetVersion.nul with
    | .failure => none
    | .refusal => some false
  else some (Target.isExpression type)

/-- A type that fails to be read, because it holds a NUL character. -/
structure UnreadableType where
  resource : String
  deriving DecidableEq, Repr

/-- The message for a text with a NUL character. -/
def nulMessage : String := "source code string cannot contain null bytes"

/-- A check of a machine. It ends with what it finds, unless a type fails to be read. -/
abbrev Check := Machine → Except UnreadableType LintResult

end Validation

namespace Machine

open Validation

/-- The defects of one state. -/
def stateDefects (s : Declaration) : List (Finding Defect) :=
  found s.loc <| (nameDefect? .state s.name).toList ++
    defectIf (generatedNames.contains s.name) (.generatedName .state s.name)

/-- The defects of one event of a machine with the given state names. -/
def eventDefects (states : List String) (e : Declaration) : List (Finding Defect) :=
  found e.loc <| (nameDefect? .event e.name).toList ++
    defectIf (generatedNames.contains e.name) (.generatedName .event e.name) ++
    defectIf (states.contains e.name) (.stateAndEvent e.name)

/-- The names of machine, states and events that cannot be used, or are used for
two things. -/
def nameDefects (m : Machine) : List (Finding Defect) :=
  found m.loc (nameDefect? .machine m.name).toList ++
    m.states.flatMap stateDefects ++
    m.events.flatMap (eventDefects (m.states.map (·.name)))

/-- The names of the states and events. -/
def labelNames (m : Machine) : List String :=
  m.states.map (·.name) ++ m.events.map (·.name)

/-- The defects of a resource's name, given the names of the resources before it. -/
def resourceNameDefects (labels earlier : List String) (name : String) : List Defect :=
  (nameDefect? .resource name).toList ++
    defectIf (earlier.contains name) (.repeatedResource name) ++
    if labels.contains name then [.resourceAndLabel name]
    else defectIf (dispatchNames.contains name || generatedNames.contains name)
      (.generatedName .resource name)

/-- The defects of resources, given the names of those before them. -/
def resourceDefectsFrom [TargetVersion] (labels earlier : List String) :
    List Resource → Except UnreadableType (List (Finding Defect))
  | [] => .ok []
  | r :: rest =>
    match isType? r.type with
    | none => .error ⟨r.name⟩
    | some isType =>
      let defects := resourceNameDefects labels earlier r.name ++
        defectIf (!isType) (.invalidType r.name r.type)
      (resourceDefectsFrom labels (earlier ++ [r.name]) rest).map (found r.loc defects ++ ·)

/-- The resources with unusable names, names that mean something else, or types
that are no expressions. -/
def resourceDefects [TargetVersion] (m : Machine) :
    Except UnreadableType (List (Finding Defect)) :=
  resourceDefectsFrom m.labelNames [] (m.guardResources ++ m.actionResources)

/-- The rules whose variants have a tag that stands for another variant already,
given the tags before. -/
def tagDefectsFrom (owners : Table String (String × Option String)) :
    List Transition → List (Finding Defect)
  | [] => []
  | t :: rest =>
    let tag := Naming.transitionTag t.target.name t.event.name
    let (owner, owners) := owners.remember tag (t.target.name, some t.event.name)
    let here := defectIf (owner != (t.target.name, some t.event.name))
      (.ambiguousTag tag owner t.target.name t.event.name)
    found t.loc here ++ tagDefectsFrom owners rest

/-- The tags of the initial states, each with the variant it stands for. -/
def initialOwners (m : Machine) : Table String (String × Option String) :=
  m.initialStates.foldl
    (fun owners s => (owners.remember (Naming.initialTag s.name) (s.name, none)).2) []

/-- The tags that stand for two variants. -/
def tagDefects (m : Machine) : List (Finding Defect) :=
  tagDefectsFrom m.initialOwners m.transitions

/-- The rules that disagree with an earlier one, given the targets so far. -/
def targetDefectsFrom (targets : Table (String × String) String) :
    List Transition → List (Finding Defect)
  | [] => []
  | t :: rest =>
    let (target, targets) := targets.remember (t.source.name, t.event.name) t.target.name
    let here := defectIf (target != t.target.name)
      (.twoTargets t.event.name t.source.name target t.target.name)
    found t.loc here ++ targetDefectsFrom targets rest

/-- The pairs of a state and an event that lead to two targets. -/
def targetDefects (m : Machine) : List (Finding Defect) :=
  targetDefectsFrom [] m.transitions

/-- The states that no run reaches. -/
def unreachableStates (m : Machine) : List String :=
  let reachable := m.reachableStates.map (·.name)
  (m.states.map (·.name)).filter fun name => !reachable.contains name

/-- Doubts about where runs start and what they reach. -/
def reachDoubts (m : Machine) : List (Finding Doubt) :=
  found none <|
    if m.initialStates.isEmpty then [.noInitialStates m.name]
    else if m.unreachableStates.isEmpty then []
    else [.unreachable m.name m.unreachableStates]

/-- The rules that repeat an earlier one, given those before. -/
def repeatedFrom (earlier : List (String × String × String)) :
    List Transition → List (Finding Doubt)
  | [] => []
  | t :: rest =>
    let rule := (t.event.name, t.source.name, t.target.name)
    let here := if earlier.contains rule then [.repeatedTransition t.text] else []
    found t.loc here ++ repeatedFrom (earlier ++ [rule]) rest

/-- Doubts about the structure of a machine. -/
def structureDoubts (m : Machine) : List (Finding Doubt) :=
  m.reachDoubts ++ repeatedFrom [] m.transitions

/-- Whether a name begins with an upper-case letter and has no underscore. -/
def isPascalCase (name : String) : Bool :=
  name.toList.head?.any Text.isUpper && !name.toList.contains '_'

/-- Doubts about the spelling of names. -/
def spellingDoubts (m : Machine) : List (Finding Doubt) :=
  let unusual (role : NameRole) (labels : List Declaration) : List Doubt :=
    (labels.filter fun label => !isPascalCase label.name).map
      fun label => .unusualName m.name (some (role, label.name))
  found none <|
    (if isPascalCase m.name then [] else [.unusualName m.name none]) ++
      unusual .state m.states ++ unusual .event m.events

/-! ## Checks -/

/-- The check of names. -/
def nameCheck : Check := fun m => .ok ⟨m.nameDefects, []⟩

/-- The check of resources. -/
def resourceCheck [TargetVersion] : Check := fun m => m.resourceDefects.map (⟨·, []⟩)

/-- The check of tags. -/
def tagCheck : Check := fun m => .ok ⟨m.tagDefects, []⟩

/-- The check of targets. -/
def targetCheck : Check := fun m => .ok ⟨m.targetDefects, []⟩

/-- The check of the structure, which finds doubts only. -/
def structureCheck : Check := fun m => .ok ⟨[], m.structureDoubts⟩

/-- What checks find, one after the other. -/
def runChecks (m : Machine) : List Check → Except UnreadableType LintResult
  | [] => .ok ⟨[], []⟩
  | check :: rest => do
    let here ← check m
    let later ← m.runChecks rest
    return here.append later

/-- The checks of validation, in order. -/
def validationChecks [TargetVersion] : List Check :=
  [nameCheck, resourceCheck, tagCheck, targetCheck]

end Machine

/-- Why a machine is not compiled: its defects, or a type that fails to be read. -/
inductive Rejection
  | defective (machine : Machine) (defects : List (Finding Defect))
  | unreadable (type : Validation.UnreadableType)
  deriving DecidableEq, Repr

/-- The report of all defects of a machine, at the place of the machine. -/
def Rejection.report : Rejection → Source.Report
  | defective m defects =>
    .located (Text.unlines (defects.map (·.defectText)))
      (m.loc.map fun loc => Path.normalize loc.file) (m.loc.map (·.line))
      (m.loc.map (·.column)) (some m.name)
  | unreadable _ => ⟨Validation.nulMessage, none⟩

/-- Accept a machine without defects. -/
def Machine.validate [Validation.TargetVersion] (m : Machine) : Except Rejection Unit :=
  match m.runChecks validationChecks with
  | .error type => .error (.unreadable type)
  | .ok ⟨[], _⟩ => .ok ()
  | .ok ⟨defects, _⟩ => .error (.defective m defects)

end FsmCompiler
