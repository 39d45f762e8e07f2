/-
# Findings

What can be wrong with a machine, or doubtful about it. A finding is a cause
with the names it concerns, and the place to look at if it is known.
-/

import FsmCompiler.Machine
import FsmCompiler.Source.Excerpt

namespace FsmCompiler

open Source (Location)

/-- What a name is used for. -/
inductive NameRole
  | machine
  | state
  | event
  | resource
  deriving DecidableEq, Repr

/-- The role at the head of a message. -/
def NameRole.title : NameRole → String
  | machine => "Machine"
  | state => "State"
  | event => "Event"
  | resource => "Resource"

/-- What is wrong with a machine. -/
inductive Defect
  | notIdentifier (role : NameRole) (name : String)
  | reservedWord (role : NameRole) (name : String)
  | leadingUnderscore (role : NameRole) (name : String)
  | generatedName (role : NameRole) (name : String)
  | stateAndEvent (name : String)
  | repeatedResource (name : String)
  | resourceAndLabel (name : String)
  | invalidType (resource type : String)
  | ambiguousTag (tag : String) (owner : String × Option String) (state event : String)
  | twoTargets (event source : String) (first second : String)
  | repeatedMachine (name file : String)
  deriving DecidableEq, Repr

/-- How a state was entered, in words. -/
def entryText : Option String → String
  | none | some "" => "start"
  | some event => event

/-- The message for a defect. -/
def Defect.message : Defect → String
  | notIdentifier role name => s!"{role.title} '{name}' is not a valid Python identifier"
  | reservedWord role name => s!"{role.title} '{name}' is a Python keyword"
  | leadingUnderscore role name => s!"{role.title} '{name}' must not start with an underscore"
  | generatedName role name => s!"{role.title} '{name}' clashes with a generated name"
  | stateAndEvent name => s!"'{name}' is used both as a state and an event"
  | repeatedResource name => s!"Resource '{name}' is declared more than once"
  | resourceAndLabel name => s!"Resource '{name}' has the same name as a state or event"
  | invalidType resource type => s!"Resource '{resource}' has an invalid type '{type}'"
  | ambiguousTag tag owner state event =>
    s!"Variant tag '{tag}' is ambiguous: it names both {owner.1} by {entryText owner.2} " ++
      s!"and {state} by {event}"
  | twoTargets event source first second =>
    s!"Event '{event}' from '{source}' leads to both '{first}' and '{second}'"
  | repeatedMachine name file =>
    s!"Machine '{name}' is defined more than once (first in {file})"

/-- What is doubtful about a machine or a project. -/
inductive Doubt
  | noMachines
  | noInitialStates (machine : String)
  | unreachable (machine : String) (states : List String)
  | repeatedTransition (transition : String)
  | unusualName (machine : String) (label : Option (NameRole × String))
  deriving DecidableEq, Repr

/-- The message for a doubt. -/
def Doubt.message : Doubt → String
  | noMachines => "No machines defined in project."
  | noInitialStates machine =>
    s!"Machine '{machine}' has no initial states and cannot be instantiated"
  | unreachable machine states =>
    s!"Machine '{machine}' has states unreachable from any initial state: " ++
      Text.commaList states
  | repeatedTransition transition => s!"Duplicate transition '{transition}'"
  | unusualName machine none => s!"Machine '{machine}' should use PascalCase naming"
  | unusualName machine (some (.event, name)) =>
    s!"Machine '{machine}' event '{name}' should use PascalCase naming"
  | unusualName machine (some (_, name)) =>
    s!"Machine '{machine}' state '{name}' should use PascalCase naming"

/-- A cause and the place it concerns. -/
structure Finding (α : Type) where
  loc : Option Location
  cause : α
  deriving DecidableEq, Repr

/-- A message with the place before it. -/
def placed (loc : Option Location) (message : String) : String :=
  match loc with
  | none => message
  | some loc => s!"{loc.text}: {message}"

/-- The text of a defect that was found. -/
def Finding.defectText (finding : Finding Defect) : String :=
  placed finding.loc finding.cause.message

/-- The text of a doubt that was found. -/
def Finding.doubtText (finding : Finding Doubt) : String :=
  placed finding.loc finding.cause.message

/-- What checks found. -/
structure LintResult where
  defects : List (Finding Defect)
  doubts : List (Finding Doubt)
  deriving DecidableEq, Repr

namespace LintResult

/-- The findings of both, one after the other. -/
def append (first second : LintResult) : LintResult :=
  ⟨first.defects ++ second.defects, first.doubts ++ second.doubts⟩

/-- The texts of the defects. -/
def errors (result : LintResult) : List String := result.defects.map (·.defectText)

/-- The texts of the doubts. -/
def warnings (result : LintResult) : List String := result.doubts.map (·.doubtText)

end LintResult

end FsmCompiler
