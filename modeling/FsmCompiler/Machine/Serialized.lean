/-
# Machines from serialized data

A machine may also be given as data: a record with its name, rules, initial
states and resources. Names may be any texts here, and places any numbers.
-/

import FsmCompiler.Machine
import FsmCompiler.Schema

namespace FsmCompiler.Serialized

open Source (Location)
open Schema

/-- A place. -/
def location : Datum → Checked Location :=
  record "SourceLocation" fun value =>
    Location.mk <$> required "file" text value <*> required "line" whole value <*>
      required "column" whole value

/-- The place of a declaration, which may be missing. -/
def locField (value : Datum) : Checked (Option Location) :=
  optional "loc" none (nullable location) value

/-- A declaration of the given type. -/
def declaration (type : String) : Datum → Checked Declaration :=
  record type fun value =>
    Declaration.mk <$> required "name" text value <*> locField value

/-- A resource. -/
def resource : Datum → Checked Resource :=
  record "ResourceParam" fun value =>
    Resource.mk <$> required "name" text value <*> required "type_annotation" text value <*>
      locField value

/-- A rule. -/
def transition : Datum → Checked Transition :=
  record "TransitionDecl" fun value =>
    Transition.mk <$> required "event" (declaration "EventDecl") value <*>
      required "from_state" (declaration "StateDecl") value <*>
      required "to_state" (declaration "StateDecl") value <*> locField value

/-- A list field that may be missing, but not null. -/
def listField (name : String) (read : Datum → Checked α) (value : Datum) :
    Checked (List α) :=
  optional name [] (list read) value

/-- The type name of a serialized machine. -/
def machineType : String := "MachineSpec"

/-- The fields of a machine. -/
def machineFields : Datum → Checked Machine :=
  record machineType fun value =>
    Machine.mk <$> required "name" text value <*>
      listField "transitions" transition value <*>
      listField "initial_states" (declaration "InitialStateDecl") value <*>
      listField "guard_resources" resource value <*>
      listField "action_resources" resource value <*> locField value

/-- A machine. It has to declare a rule or an initial state. -/
def machine (value : Datum) : Checked Machine :=
  match machineFields value with
  | .error issues => Except.error issues
  | .ok m =>
    if m.transitions.isEmpty && m.initialStates.isEmpty then
      fail (.refused s!"Machine '{m.name}' needs at least one transition or initial state")
    else Except.ok m

end FsmCompiler.Serialized
