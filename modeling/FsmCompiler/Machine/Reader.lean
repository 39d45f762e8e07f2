/-
# Reading machines

Machines are read token by token by a pushdown automaton. Its state says which
machines are complete, what has been read of the machine at hand, and what may
come next; the only stack is that of the brackets open in a type annotation.
Each token is looked at once, and a token that cannot come next is where reading
stops.
-/

import FsmCompiler.Machine.TypeText
import FsmCompiler.Machine
import FsmCompiler.Source.Excerpt
import FsmCompiler.Text.Quoted
import FsmCompiler.Token.Scan

namespace FsmCompiler.Reader

open Source (Position Location)

/-- What a token was due for. -/
inductive Purpose
  | machineName
  | machineBody (machine : String)
  | blockBody (keyword : String)
  | resourceName (keyword : String)
  | resourceType (resource : String)
  | initialState (keyword : String)
  | eventBody (event : String)
  | sourceState (event : String)
  | targetState (event : String)
  deriving DecidableEq, Repr

/-- The words for a purpose. -/
def Purpose.text : Purpose → String
  | machineName => "(machine name)"
  | machineBody machine => s!"to open machine '{machine}'"
  | blockBody keyword => s!"to open the {keyword} block"
  | resourceName keyword => s!"(resource name) in {keyword}"
  | resourceType resource => s!"after resource name '{resource}'"
  | initialState keyword => s!"(state name) in {keyword}"
  | eventBody event => s!"to open event block '{event}'"
  | sourceState event => s!"(source state) in event block '{event}'"
  | targetState event => s!"(target state) after '=>' in '{event}'"

/-- The parts of a machine body, in the order in which they have to come. -/
inductive Part
  | guardResources
  | actionResources
  | initialStates
  | events
  deriving DecidableEq, Repr

namespace Part

/-- The place of a part in the order, counted from one. -/
def rank : Part → Nat
  | guardResources => 1
  | actionResources => 2
  | initialStates => 3
  | events => 4

/-- The part that a keyword opens. -/
def ofKeyword? : TokenKind → Option Part
  | .guardResources => some guardResources
  | .actionResources => some actionResources
  | .initialStates | .states => some initialStates
  | _ => none

/-- The names of the parts that come after a part. -/
def laterNames : Part → List String
  | guardResources => ["ActionResources", "InitialStates", "event blocks"]
  | actionResources => ["InitialStates", "event blocks"]
  | initialStates => ["event blocks"]
  | events => []

end Part

/-- Why reading stopped. -/
inductive Cause
  | scan (error : Token.ScanError)
  | expected (wanted : TokenKind) (purpose : Purpose) (found : Token)
  | misplacedBlock (part : Part) (found : Token)
  | noBlock (machine : String) (found : Token)
  | noContent (machine : String)
  | noLine (event : String)
  | afterSource (source event : String) (found : Token)
  | afterInitial (state : String) (found : Token)
  | noType (resource : String)
  | openType (resource : String)
  | notInType (resource : String) (found : Token)
  | unbalancedType (resource : String) (found : Token)
  deriving DecidableEq, Repr

/-- The message for a cause. -/
def Cause.message : Cause → String
  | scan (.unexpectedCharacter c) =>
    s!"Unexpected character: {Text.quoted (String.singleton c)}"
  | scan .unterminatedString => "Unterminated string literal"
  | expected wanted purpose found =>
    s!"Expected {wanted.description} {purpose.text}, got {found.description}"
  | misplacedBlock part found =>
    s!"'{found.text}' block must come before {Text.commaList part.laterNames}" ++
      " and may appear only once"
  | noBlock machine found =>
    "Expected event block, GuardResources, ActionResources or InitialStates " ++
      s!"in machine '{machine}', got '{found.textOrEnd}'"
  | noContent machine => s!"Machine '{machine}' declares no transitions or initial states"
  | noLine event => s!"Event block '{event}' needs at least one 'From => To' line"
  | afterSource source event found =>
    s!"Expected ',' or '=>' after state '{source}' in event block '{event}', " ++
      s!"got '{found.textOrEnd}'"
  | afterInitial state found =>
    s!"Expected ',' or '\x7d' after state '{state}', got '{found.text}'"
  | noType resource => s!"Expected type annotation for resource '{resource}'"
  | openType resource => s!"Unterminated type annotation for resource '{resource}'"
  | notInType resource found =>
    s!"Unexpected '{found.text}' in type annotation for resource '{resource}'"
  | unbalancedType resource found =>
    s!"Unbalanced '{found.text}' in type annotation for resource '{resource}'"

/-- Why reading stopped, where, and in which machine. -/
structure Fault where
  cause : Cause
  pos : Position
  machine : Option String
  deriving DecidableEq, Repr

/-- What has been read of a machine: its name, the last part of its body that
has begun, and its contents. -/
structure Draft where
  name : Token
  part : Option Part
  guardResources : List Resource
  actionResources : List Resource
  initialStates : List Declaration
  transitions : List Transition
  deriving DecidableEq, Repr

namespace Draft

/-- A machine of which only the name has been read. -/
def ofName (name : Token) : Draft := ⟨name, none, [], [], [], []⟩

/-- Whether the parts read so far allow `part` to begin. -/
def allows (draft : Draft) (part : Part) : Bool :=
  match draft.part with
  | none => true
  | some last => last.rank < part.rank

/-- The draft with one more resource of the block that is open. -/
def addResource (draft : Draft) (resource : Resource) : Draft :=
  if draft.part = some .guardResources then
    { draft with guardResources := draft.guardResources ++ [resource] }
  else { draft with actionResources := draft.actionResources ++ [resource] }

/-- The draft with one more initial state. -/
def addInitial (draft : Draft) (state : Declaration) : Draft :=
  { draft with initialStates := draft.initialStates ++ [state] }

/-- The draft with the rules of one more line. -/
def addTransitions (draft : Draft) (transitions : List Transition) : Draft :=
  { draft with transitions := draft.transitions ++ transitions }

/-- Whether the machine declares nothing that could make it run. -/
def isEmpty (draft : Draft) : Bool :=
  draft.transitions.isEmpty && draft.initialStates.isEmpty

/-- The machine that has been read. -/
def machine (file : String) (draft : Draft) : Machine where
  name := draft.name.text
  transitions := draft.transitions
  initialStates := draft.initialStates
  guardResources := draft.guardResources
  actionResources := draft.actionResources
  loc := some (draft.name.pos.inFile file)

end Draft

/-- What may come next inside a machine block. -/
inductive Cursor
  /-- The opening brace of the machine. -/
  | machineOpening
  /-- A block, or the closing brace of the machine. -/
  | body
  /-- The opening brace of a resource block. -/
  | resourcesOpening (keyword : String)
  /-- A resource name, or the closing brace of the block. -/
  | resourceName (keyword : String)
  /-- The colon behind a resource name. -/
  | resourceColon (keyword : String) (name : Token)
  /-- More of a resource's type: the closers due, innermost first, and the tokens
  of the type so far. -/
  | resourceType (keyword : String) (name : Token) (closers : List TokenKind)
      (read : List Token)
  /-- The opening brace of an initial-state block. -/
  | initialsOpening (keyword : String)
  /-- An initial state, or the closing brace of the block. -/
  | initialName (keyword : String)
  /-- A comma behind an initial state, or the closing brace of the block. -/
  | initialEnd (keyword : String) (name : Token)
  /-- The opening brace of an event block. -/
  | eventOpening (event : Declaration)
  /-- A first line of an event block. -/
  | firstLine (event : Declaration)
  /-- A further line, a separator, or the closing brace of the event block. -/
  | nextLine (event : Declaration)
  /-- A further source state of a line. -/
  | source (event : Declaration) (sources : List Token)
  /-- A comma or the arrow behind the source state `last`. -/
  | sourceEnd (event : Declaration) (sources : List Token) (last : Token)
  /-- The target state of a line. -/
  | target (event : Declaration) (sources : List Token) (arrow : Token)
  deriving DecidableEq, Repr

/-- The state of the automaton: between machines, or within one. -/
inductive State
  | between (complete : List Machine)
  | within (complete : List Machine) (draft : Draft) (cursor : Cursor)
  deriving DecidableEq, Repr

namespace State

/-- Nothing has been read. -/
def start : State := .between []

/-- The machines read completely. -/
def machines : State → List Machine
  | between complete => complete
  | within complete _ _ => complete

/-- The machine at hand. -/
def machineName? : State → Option String
  | between _ => none
  | within _ draft _ => some draft.name.text

end State

/-- The name at a token, as a declaration. -/
def declare (file : String) (token : Token) : Declaration :=
  ⟨token.text, some (token.pos.inFile file)⟩

/-- The rules of one line: one for each source state, from left to right. -/
def lineTransitions (file : String) (event : Declaration) (sources : List Token)
    (arrow target : Token) : List Transition :=
  sources.map fun source =>
    ⟨event, declare file source, declare file target, some (arrow.pos.inFile file)⟩

/-- A cause, and the token to blame for it. -/
abbrev Blame := Cause × Token

/-- Accept `token` if it is of the kind that is due. -/
def require (wanted : TokenKind) (purpose : Purpose) (token : Token) (state : State) :
    Except Blame State :=
  if token.kind = wanted then .ok state
  else .error (.expected wanted purpose token, token)

/-- Read a token where a block may begin or the machine may end. -/
def stepBody (file : String) (complete : List Machine) (draft : Draft) (token : Token) :
    Except Blame State :=
  match token.kind with
  | .semicolon => .ok (.within complete draft .body)
  | .rightBrace =>
    if draft.isEmpty then .error (.noContent draft.name.text, draft.name)
    else .ok (.between (complete ++ [draft.machine file]))
  | .identifier =>
    .ok (.within complete { draft with part := some .events }
      (.eventOpening (declare file token)))
  | kind =>
    match Part.ofKeyword? kind with
    | none => .error (.noBlock draft.name.text token, token)
    | some part =>
      if draft.allows part then
        .ok (.within complete { draft with part := some part }
          (if part = .initialStates then .initialsOpening token.text
            else .resourcesOpening token.text))
      else .error (.misplacedBlock part token, token)

/-- Read a token inside a resource's type. A comma or a closing brace outside all
brackets ends the type. -/
def stepType (file : String) (complete : List Machine) (draft : Draft) (keyword : String)
    (name : Token) (closers : List TokenKind) (read : List Token) (token : Token) :
    Except Blame State :=
  if closers = [] ∧ (token.kind = .comma ∨ token.kind = .rightBrace) then
    if read = [] then .error (.noType name.text, token)
    else
      let resource : Resource :=
        ⟨name.text, TypeText.ofTokens read, some (name.pos.inFile file)⟩
      .ok (.within complete (draft.addResource resource)
        (if token.kind = .comma then .resourceName keyword else .body))
  else if token.kind = .endOfInput then .error (.openType name.text, token)
  else if !token.kind.inType then .error (.notInType name.text token, token)
  else
    let next closers := State.within complete draft
      (.resourceType keyword name closers (read ++ [token]))
    match token.kind.closer? with
    | some closer => .ok (next (closer :: closers))
    | none =>
      if token.kind = .rightBracket ∨ token.kind = .rightParen then
        match closers with
        | due :: closers =>
          if due = token.kind then .ok (next closers)
          else .error (.unbalancedType name.text token, token)
        | [] => .error (.unbalancedType name.text token, token)
      else .ok (next closers)

/-- Read a token inside a machine block. -/
def stepWithin (file : String) (complete : List Machine) (draft : Draft) (cursor : Cursor)
    (token : Token) : Except Blame State :=
  let go draft cursor := State.within complete draft cursor
  match cursor with
  | .machineOpening =>
    require .leftBrace (.machineBody draft.name.text) token (go draft .body)
  | .body => stepBody file complete draft token
  | .resourcesOpening keyword =>
    require .leftBrace (.blockBody keyword) token (go draft (.resourceName keyword))
  | .resourceName keyword =>
    if token.kind = .rightBrace then .ok (go draft .body)
    else require .identifier (.resourceName keyword) token
      (go draft (.resourceColon keyword token))
  | .resourceColon keyword name =>
    require .colon (.resourceType name.text) token (go draft (.resourceType keyword name [] []))
  | .resourceType keyword name closers read =>
    stepType file complete draft keyword name closers read token
  | .initialsOpening keyword =>
    require .leftBrace (.blockBody keyword) token (go draft (.initialName keyword))
  | .initialName keyword =>
    if token.kind = .rightBrace then .ok (go draft .body)
    else require .identifier (.initialState keyword) token
      (go (draft.addInitial (declare file token)) (.initialEnd keyword token))
  | .initialEnd keyword name =>
    if token.kind = .comma then .ok (go draft (.initialName keyword))
    else if token.kind = .rightBrace then .ok (go draft .body)
    else .error (.afterInitial name.text token, token)
  | .eventOpening event =>
    require .leftBrace (.eventBody event.name) token (go draft (.firstLine event))
  | .firstLine event =>
    if token.kind = .rightBrace then .error (.noLine event.name, token)
    else require .identifier (.sourceState event.name) token
      (go draft (.sourceEnd event [] token))
  | .nextLine event =>
    if token.kind = .rightBrace then .ok (go draft .body)
    else if token.kind = .comma ∨ token.kind = .semicolon then .ok (go draft (.nextLine event))
    else require .identifier (.sourceState event.name) token
      (go draft (.sourceEnd event [] token))
  | .source event sources =>
    require .identifier (.sourceState event.name) token
      (go draft (.sourceEnd event sources token))
  | .sourceEnd event sources last =>
    if token.kind = .comma then .ok (go draft (.source event (sources ++ [last])))
    else if token.kind = .arrow then
      .ok (go draft (.target event (sources ++ [last]) token))
    else .error (.afterSource last.text event.name token, token)
  | .target event sources arrow =>
    require .identifier (.targetState event.name) token
      (go (draft.addTransitions (lineTransitions file event sources arrow token))
        (.nextLine event))

/-- Read a token between machines: a separator, the end of the input, or the name
of a further machine. -/
def stepBetween (complete : List Machine) (token : Token) : Except Blame State :=
  if token.kind = .semicolon ∨ token.kind = .endOfInput then .ok (.between complete)
  else require .identifier .machineName token
    (.within complete (.ofName token) .machineOpening)

/-- Read one token. -/
def step (file : String) (state : State) (token : Token) : Except Fault State :=
  let outcome := match state with
    | .between complete => stepBetween complete token
    | .within complete draft cursor => stepWithin file complete draft cursor token
  outcome.mapError fun (cause, blamed) => ⟨cause, blamed.pos, state.machineName?⟩

/-- Read tokens until one cannot come next: the state reached, and the fault if
there is one. -/
def run (file : String) (state : State) : List Token → State × Option Fault
  | [] => (state, none)
  | token :: rest =>
    match step file state token with
    | .ok next => run file next rest
    | .error fault => (state, some fault)

/-- The machines that a list of tokens declares. -/
def readTokens (file : String) (tokens : List Token) : Except Fault (List Machine) :=
  match run file .start tokens with
  | (state, none) => .ok state.machines
  | (_, some fault) => .error fault

/-- A text that cannot be cut into tokens belongs to no machine. -/
def Fault.ofScan (fault : Token.ScanFault) : Fault := ⟨.scan fault.cause, fault.pos, none⟩

/-- The machines that a text declares. -/
def read (file text : String) : Except Fault (List Machine) :=
  match Token.scan text with
  | .ok tokens => readTokens file tokens
  | .error fault => .error (.ofScan fault)

/-- The machines read completely before reading ends or stops. -/
def complete (file text : String) : List Machine :=
  match Token.scan text with
  | .ok tokens => (run file .start tokens).1.machines
  | .error _ => []

/-- The report of a fault, with the lines around it if the text is at hand. -/
def Fault.report (fault : Fault) (file : String) (text : Option String) : Source.Report where
  message := fault.cause.message
  context := some
    { file := file
      line := fault.pos.line
      column := fault.pos.column
      excerpt := text.map (Source.excerpt · fault.pos.line)
      machine := fault.machine }

end FsmCompiler.Reader
