/-
# Labels of running machines

A loaded module has a class for each of its states and events. Values of such a
class carry no data: all instances with the same kind, machine and name are
equal. The classes themselves are told apart by identity, and each load of a
module makes new ones.
-/

import FsmCompiler.Datum
import FsmCompiler.Module.Basic

namespace FsmCompiler.Running

/-- The identity of a class: the load that made it, and its place there. Load 0
made the classes that every module builds on. -/
structure ClassId where
  load : Nat
  index : Nat
  deriving DecidableEq, Repr

/-- The class of a state or an event. -/
structure LabelClass where
  id : ClassId
  base : LabelBase
  machine : String
  name : String
  /-- The module and the name under which the class is defined. -/
  definedAs : String × String
  deriving DecidableEq, Repr

namespace LabelClass

/-- The module of the classes that every module builds on. -/
def baseModule : String := "smc.runtime"

/-- The class that all states build on. -/
def state : LabelClass := ⟨⟨0, 0⟩, .state, "", "", (baseModule, "State")⟩

/-- The class that all initial states build on. -/
def initialState : LabelClass := ⟨⟨0, 1⟩, .initialState, "", "", (baseModule, "InitialState")⟩

/-- The class that all events build on. -/
def event : LabelClass := ⟨⟨0, 2⟩, .event, "", "", (baseModule, "Event")⟩

/-- The class that stands for "no event". -/
def noEvent : LabelClass := ⟨⟨0, 3⟩, .event, "", "NoneEvent", (baseModule, "NoneEvent")⟩

/-- Whether instances of the class are states or events. -/
def kind (c : LabelClass) : String :=
  match c.base with
  | .state | .initialState => "state"
  | .event => "event"

/-- What instances are compared by. -/
def key (c : LabelClass) : String × String × String := (c.kind, c.machine, c.name)

/-- The class as a message shows it. -/
def shown (c : LabelClass) : String := s!"<class '{c.definedAs.1}.{c.definedAs.2}'>"

end LabelClass

/-- A value that may stand where a state or an event is expected: an instance of
a label class, the class itself, or anything else. -/
inductive Value
  | label (c : LabelClass)
  | labelClass (c : LabelClass)
  | plain (d : Datum)
  deriving Repr

namespace Value

/-- A class stands for its instance. -/
def coerce : Value → Value
  | labelClass c => label c
  | value => value

/-- The label class that the value is an instance of, if it is of any. -/
def class? : Value → Option LabelClass
  | label c => some c
  | _ => none

/-- The value as a message shows it. -/
def shown : Value → String
  | label c => c.name
  | labelClass c => c.shown
  | plain d => d.shown

/-- Whether two values are equal: instances by kind, machine and name, and
classes by identity. -/
def equal : Value → Value → Bool
  | label a, label b => a.key == b.key
  | labelClass a, labelClass b => a.id == b.id
  | plain a, plain b => a.equal b
  | _, _ => false

/-- Whether the value is the "no event" instance or null. -/
def isNoEvent : Value → Bool
  | label c => c.id == LabelClass.noEvent.id
  | plain .null => true
  | _ => false

/-- Whether a copy of the value is the value itself. -/
def copiesToItself : Value → Bool
  | plain (.list _) | plain (.record _) => false
  | _ => true

end Value

/-- What a hash value is computed from: values with equal keys have equal hash
values. -/
inductive HashKey
  | null
  | number (value : Int)
  | notANumber
  | text (value : String)
  | label (kind machine name : String)
  | labelClass (id : ClassId)
  | pair (first second : HashKey)
  deriving DecidableEq, Repr

/-- The number of bits of the prime by which numbers are reduced for hashing, which
is all ones. -/
def hashBits : Nat := 61

/-- The hash value of a whole number times two to a power: its remainder with its
sign, where minus one is avoided. Dividing by two and multiplying by the power of
two that is one less than `hashBits` are the same then. -/
def hashNumber (value power : Int) : Int :=
  let scaled := value.natAbs * Nat.pow 2 (power % (hashBits : Int)).toNat
  let reduced : Int := Int.sign value * (scaled % (Nat.pow 2 hashBits - 1) : Nat)
  if reduced = -1 then -2 else reduced

/-- The hash value of the positive infinite number. -/
def hashInfinite : Int := 314159

/-- What the hash value of a binary fraction is computed from. -/
def HashKey.ofBinary : Binary64 → HashKey
  | .finite negative significand exponent =>
    .number (hashNumber (if negative then -significand else significand) exponent)
  | .infinite negative => .number (if negative then -hashInfinite else hashInfinite)
  | .notANumber => .notANumber

/-- What the hash value of a plain value is computed from. The empty text has that
of zero. Lists and records have none, and answer with their type. -/
def HashKey.ofDatum : Datum → Except String HashKey
  | .null => .ok .null
  | .bool value => .ok (.number (if value then 1 else 0))
  | .whole value => .ok (.number (hashNumber value 0))
  | .fraction value => .ok (.ofBinary value)
  | .text value | .moment value => .ok (if value = "" then .number 0 else .text value)
  | .list _ => .error "list"
  | .record _ => .error "dict"

/-- What the hash value of a value is computed from. -/
def HashKey.ofValue : Value → Except String HashKey
  | .label c => .ok (.label c.kind c.machine c.name)
  | .labelClass c => .ok (.labelClass c.id)
  | .plain d => HashKey.ofDatum d

end FsmCompiler.Running
