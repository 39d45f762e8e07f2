/-
# Running machines

A running machine is a state together with the event that led to it. It never
changes: following an event gives a new one. What it may do is written in the
tables of its class, which are keyed by the classes of states and events, so that
labels of another load are strangers to it.
-/

import FsmCompiler.Running.Label
import FsmCompiler.Table

namespace FsmCompiler.Running

/-- What a name in a table denotes. Besides label classes these are the values
that the class of a machine holds itself, and that a state or event of the same
name would be hidden by. -/
inductive Meaning
  | label (c : LabelClass)
  | machineName
  | initialTable
  | transitionTable
  deriving DecidableEq, Repr

/-- A tag of the tag type of a module: its name, and the text that it stands for. If
a state or event takes the place of the type of texts, its class is the `base` that
the tag is shown and compared by. -/
structure TagMember where
  load : Nat
  type : String
  name : String
  value : String
  base : Option LabelClass
  deriving DecidableEq, Repr

/-- The class of a machine: its name, the states it may start in, where events
lead, and how the states reached are tagged. -/
structure MachineClass where
  load : Nat
  name : String
  initialStates : List Meaning
  transitions : Table (Meaning × Meaning) Meaning
  tagType : String
  tags : List TagMember
  variantTags : Table (Meaning × Meaning) TagMember
  deriving DecidableEq, Repr

/-- The class that the classes of all machines build on. Its tables are empty. -/
def MachineClass.bare : MachineClass := ⟨0, "", [], [], "", [], []⟩

/-- A state and the event that led to it. Other slots may be set on a machine, and
then hide the tables and operations of its class. All that have one serial number
are the same machine; a new machine has the number zero. -/
structure RunningMachine where
  kind : MachineClass
  state : Value
  event : Value
  serial : Nat
  slots : Table String Datum

/-- A tag: of a tag type, or any other value in its place. -/
inductive Tag
  | member (tag : TagMember)
  | plain (d : Datum)

/-- A running machine under a tag. -/
structure RunningVariant where
  tag : Tag
  machine : RunningMachine

/-- Why an operation on running machines fails. -/
inductive RunError
  | unsupportedTransition (machine : String) (state event : Value)
  | notInitial (machine : String) (state : Value)
  | missingGuard (machine event : String)
  | unknownVariant (machine detail : String)
  | tooManyArguments (params given : Nat)
  | missingArguments (names : List String)
  | notCallable (type : String)
  | takesNoArguments (type : String)
  | notSearchable (type : String)
  | pairInText
  | notIterable (type : String)
  | notUnpackable (type : String)
  | tooFewValues (given : Nat)
  | tooManyValues
  | noAttribute (type name : String)
  | unhashable (type : String)
  | notATag (tag : Datum) (tagType : String)
  | frozenField (field : String)
  | notAClass (type : String)
  | notARecord (type : String)
  | notWritable (field type : String)
  | raised (kind message : String)

/-- Names in a list, quoted; a comma stands between them, and "and" before the
last. -/
def quotedList (names : List String) : String :=
  let quoted := names.map Text.quoted
  match quoted.reverse with
  | [] => ""
  | [only] => only
  | [second, first] => s!"{first} and {second}"
  | last :: front => Text.commaList front.reverse ++ s!", and {last}"

/-- The message for an error. -/
def RunError.message : RunError → String
  | unsupportedTransition machine state event =>
    s!"{machine}: no transition from {state.shown} on {event.shown}"
  | notInitial machine state => s!"{machine}: {state.shown} is not an initial state"
  | missingGuard machine event => s!"{machine}: no guard registered for event {event}"
  | unknownVariant machine detail => s!"{machine}: unknown variant {detail}"
  | tooManyArguments params given =>
    s!"eval_machine() takes {params} positional argument" ++ (if params = 1 then "" else "s") ++
      s!" but {given} were given"
  | missingArguments names =>
    s!"eval_machine() missing {names.length} required positional argument" ++
      (if names.length = 1 then "" else "s") ++ s!": {quotedList names}"
  | notCallable type => s!"'{type}' object is not callable"
  | takesNoArguments type => s!"{type}() takes no arguments"
  | notSearchable type => s!"argument of type '{type}' is not iterable"
  | pairInText => "'in <string>' requires string as left operand, not tuple"
  | notIterable type => s!"'{type}' object is not iterable"
  | notUnpackable type => s!"cannot unpack non-iterable {type} object"
  | tooFewValues given => s!"not enough values to unpack (expected 2, got {given})"
  | tooManyValues => "too many values to unpack (expected 2)"
  | noAttribute type name => s!"'{type}' object has no attribute '{name}'"
  | unhashable type => s!"unhashable type: '{type}'"
  | notATag tag tagType => s!"{tag.shown} is not a valid {tagType}"
  | frozenField field => s!"cannot assign to field '{field}'"
  | notAClass type => s!"__class__ must be set to a class, not '{type}' object"
  | notARecord type => s!"__dict__ must be set to a dictionary, not a '{type}'"
  | notWritable field type => s!"attribute '{field}' of '{type}' objects is not writable"
  | raised _ message => message

namespace Tag

/-- The tag as text. -/
def text : Tag → String
  | member tag => s!"{tag.type}.{tag.name}"
  | plain d => d.plainText

/-- The tag as a message shows it. -/
def shown : Tag → String
  | member tag =>
    match tag.base with
    | none => s!"<{tag.type}.{tag.name}: {Text.quoted tag.value}>"
    | some c => c.name
  | plain d => d.shown

/-- The value that a tag is compared by: its text, or the label it builds on. -/
def value : Tag → Value
  | member tag =>
    match tag.base with
    | none => .plain (.text tag.value)
    | some c => .label c
  | plain d => .plain d

end Tag

/-- The tag of a class with the given text. -/
def MachineClass.tag? (kind : MachineClass) (tag : Datum) : Except RunError Tag :=
  match kind.tags.find? (fun member => (Datum.text member.value).equal tag) with
  | some member => .ok (.member member)
  | none => .error (.notATag tag kind.tagType)

/-! ## Slots in the place of tables -/

/-- Whether a plain value in the place of a table holds a key: none does, if the
value can be searched at all. -/
def searchSlot : Datum → Except RunError Bool
  | .list _ | .record _ => .ok false
  | .text _ => .error .pairInText
  | d => .error (.notSearchable d.typeName)

/-- Look up a key of a plain value in the place of a table: nothing is there, if
the value can be looked up in at all. -/
def lookUpSlot : Datum → Except RunError Unit
  | .record _ => .ok ()
  | d => .error (.noAttribute d.typeName "get")

/-- Whether there are two values, where `count` are given. -/
def pairOf (count : Nat) : Except RunError Unit :=
  if count < 2 then .error (.tooFewValues count)
  else if 2 < count then .error .tooManyValues
  else .ok ()

/-- Take a plain value apart into two. -/
def unpackPair : Datum → Except RunError Unit
  | .text value => pairOf value.length
  | .list items => pairOf items.length
  | .record fields => pairOf fields.length
  | d => .error (.notUnpackable d.typeName)

/-- Go through the keys of a plain value in the place of a table, each of which has
to be a pair. -/
def walkSlot : Datum → Except RunError Unit
  | .list items => items.forM unpackPair
  | .text value => value.toList.forM fun _ => pairOf 1
  | .record fields => fields.forM fun (name, _) => pairOf name.length
  | d => .error (.notIterable d.typeName)

namespace RunningMachine

/-- Start a machine. Only an instance of one of the initial states will do. -/
def new (kind : MachineClass) (state : Value) : Except RunError RunningMachine :=
  match state.coerce with
  | .label c =>
    if c.base = .initialState ∧ .label c ∈ kind.initialStates then
      .ok ⟨kind, .label c, .label .noEvent, 0, []⟩
    else .error (.notInitial kind.name (.label c))
  | other => .error (.notInitial kind.name other)

/-- A machine in any state, led there by any event. -/
def make (kind : MachineClass) (state : Value) (event : Option Value) : RunningMachine :=
  ⟨kind, state, event.getD (.label .noEvent), 0, []⟩

/-- The machine's name: that of its class, unless one was set. -/
def name (m : RunningMachine) : String :=
  match m.slots.lookup "name" with
  | some value => value.plainText
  | none => m.kind.name

/-- The key under which the tables have a state and an event; other values have
none. -/
def key? (state event : Value) : Option (Meaning × Meaning) :=
  match state.class?, event.class? with
  | some s, some e => some (.label s, .label e)
  | _, _ => none

/-- The result of an operation, unless a slot hides the operation. -/
def operation (m : RunningMachine) (name : String) (result : Except RunError α) :
    Except RunError α :=
  match m.slots.lookup name with
  | some value => .error (.notCallable value.typeName)
  | none => result

/-- The entry of a table for a state and an event. A slot of that name hides the
table. -/
def entry? (m : RunningMachine) (slot : String) (table : Table (Meaning × Meaning) α)
    (event : Value) : Except RunError (Option α) :=
  match m.slots.lookup slot with
  | some value => (lookUpSlot value).map fun _ => none
  | none => .ok ((key? m.state event).bind fun key => table.lookup key)

/-- Whether some rule lets `event` happen. -/
def canFollow (m : RunningMachine) (event : Value) : Except RunError Bool :=
  m.operation "can_transition" <|
    match m.slots.lookup "transitions" with
    | some value => searchSlot value
    | none => .ok ((key? m.state event.coerce).bind fun key => m.kind.transitions.lookup key).isSome

/-- What a table entry denotes as a target: the class of a state. -/
def targetClass : Meaning → Except RunError LabelClass
  | .label c => .ok c
  | .machineName => .error (.noAttribute "str" "name")
  | .initialTable => .error (.noAttribute "tuple" "name")
  | .transitionTable => .error (.noAttribute "dict" "name")

/-- Follow `event` to the state that the rules lead to. -/
def follow (m : RunningMachine) (event : Value) : Except RunError RunningMachine :=
  let event := event.coerce
  m.operation "transition" do
    match ← m.entry? "transitions" m.kind.transitions event with
    | some target => return ⟨m.kind, .label (← targetClass target), event, 0, []⟩
    | none => throw (.unsupportedTransition m.name m.state event)

/-- The events that some rule lets happen, in the order of the rules. -/
def allowed (m : RunningMachine) : Except RunError (List Meaning) :=
  m.operation "allowed_events" <|
    match m.slots.lookup "transitions" with
    | some value => (walkSlot value).map fun _ => []
    | none =>
      .ok <| m.kind.transitions.filterMap fun entry =>
        match m.state.class? with
        | some c => if entry.1.1 = .label c then some entry.1.2 else none
        | none => none

/-- The machine under the tag of its state and event. -/
def asVariant (m : RunningMachine) : Except RunError RunningVariant :=
  m.operation "as_variant" do
    match ← m.entry? "variant_tags" m.kind.variantTags m.event with
    | some tag => return ⟨.member tag, m⟩
    | none => throw (.unknownVariant m.name s!"{m.state.shown} by {m.event.shown}")

/-- The name of the class of all machines that can be set on. -/
def className : String := "Machine"

/-- Set a slot. State and event cannot be set, and nothing at all on a machine of
the bare class. A few slots belong to the machine as such and take only some values
or none; one of them stands for all slots together, and the event is "no event" if
they have none. -/
def set (m : RunningMachine) (field : String) (value : Datum) : Except RunError RunningMachine :=
  if m.kind.load = 0 ∨ field = "state" ∨ field = "event" then .error (.frozenField field)
  else if field = "__class__" then .error (.notAClass value.typeName)
  else if field = "__weakref__" then .error (.notWritable field className)
  else if field = "__dict__" then
    match value with
    | .record fields =>
      .ok (fields.foldl replace { m with event := .label .noEvent, slots := [] })
    | _ => .error (.notARecord value.typeName)
  else .ok { m with slots := Table.insert field value m.slots }
where
  /-- Put a value in place of what the machine holds. -/
  replace (m : RunningMachine) (field : String × Datum) : RunningMachine :=
    let (name, value) := field
    if name = "state" then { m with state := .plain value }
    else if name = "event" then { m with event := .plain value }
    else { m with slots := Table.insert name value m.slots }

/-- The state that the machine is in. -/
def currentState (m : RunningMachine) : Except RunError Value :=
  m.operation "current_state" (.ok m.state)

/-- The event that led to the state, unless it is "no event". -/
def trigger? (m : RunningMachine) : Except RunError (Option Value) :=
  m.operation "trigger" (.ok (if m.event.isNoEvent then none else some m.event))

/-- The machine as a message shows it. -/
def shown (m : RunningMachine) : String :=
  s!"Machine(state={m.state.shown}, event={m.event.shown})"

/-- Whether two machines are equal: of one class, with equal states and events. -/
def equal (a b : RunningMachine) : Bool :=
  a.kind.load == b.kind.load && a.state.equal b.state && a.event.equal b.event

/-- What the hash value of a machine is computed from. -/
def hashKey (m : RunningMachine) : Except RunError HashKey :=
  match HashKey.ofValue m.state, HashKey.ofValue m.event with
  | .ok state, .ok event => .ok (.pair state event)
  | .error type, _ | _, .error type => .error (.unhashable type)

end RunningMachine

namespace RunningVariant

/-- The variant as a message shows it. -/
def shown (v : RunningVariant) : String :=
  s!"Variant(tag={v.tag.shown}, machine={v.machine.shown})"

/-- Whether two variants are equal. -/
def equal (a b : RunningVariant) : Bool :=
  a.tag.value.equal b.tag.value && a.machine.equal b.machine

/-- What the hash value of a variant is computed from. -/
def hashKey (v : RunningVariant) : Except RunError HashKey :=
  match HashKey.ofValue v.tag.value, v.machine.hashKey with
  | .ok tag, .ok machine => .ok (.pair tag machine)
  | .error type, _ => .error (.unhashable type)
  | _, .error e => .error e

end RunningVariant

end FsmCompiler.Running
