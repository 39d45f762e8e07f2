/-
# Reading does not look at places

A token that stands somewhere else is still the same word. Where the tokens of a text are put
elsewhere, reading goes on as before: it comes to the same machines with their declarations
put elsewhere, or to the same fault at the other place.
-/

import FsmCompiler.Proofs.FirstWrong

namespace FsmCompiler

open Source (Position Location)

/-! ## Other places -/

/-- The declaration at the place that `f` gives it. -/
def Declaration.relocate (f : Option Location → Option Location) (d : Declaration) : Declaration :=
  { d with loc := f d.loc }

/-- The resource at the place that `f` gives it. -/
def Resource.relocate (f : Option Location → Option Location) (r : Resource) : Resource :=
  { r with loc := f r.loc }

/-- The rule, and what it mentions, at the places that `f` gives them. -/
def Transition.relocate (f : Option Location → Option Location) (t : Transition) : Transition :=
  ⟨t.event.relocate f, t.source.relocate f, t.target.relocate f, f t.loc⟩

/-- The machine, and what it declares, at the places that `f` gives them. -/
def Machine.relocate (f : Option Location → Option Location) (m : Machine) : Machine where
  name := m.name
  transitions := m.transitions.map (·.relocate f)
  initialStates := m.initialStates.map (·.relocate f)
  guardResources := m.guardResources.map (·.relocate f)
  actionResources := m.actionResources.map (·.relocate f)
  loc := f m.loc

/-- The token at the place that `φ` gives it. -/
def Token.relocate (φ : Position → Position) (token : Token) : Token :=
  { token with pos := φ token.pos }

section Fields

variable (f g : Option Location → Option Location) (φ ψ : Position → Position)

@[simp] theorem Declaration.relocate_name (d : Declaration) : (d.relocate f).name = d.name := rfl

@[simp] theorem Declaration.relocate_loc (d : Declaration) : (d.relocate f).loc = f d.loc := rfl

@[simp] theorem Resource.relocate_name (r : Resource) : (r.relocate f).name = r.name := rfl

@[simp] theorem Resource.relocate_type (r : Resource) : (r.relocate f).type = r.type := rfl

@[simp] theorem Resource.relocate_loc (r : Resource) : (r.relocate f).loc = f r.loc := rfl

@[simp] theorem Transition.relocate_event (t : Transition) :
    (t.relocate f).event = t.event.relocate f := rfl

@[simp] theorem Transition.relocate_source (t : Transition) :
    (t.relocate f).source = t.source.relocate f := rfl

@[simp] theorem Transition.relocate_target (t : Transition) :
    (t.relocate f).target = t.target.relocate f := rfl

@[simp] theorem Transition.relocate_loc (t : Transition) : (t.relocate f).loc = f t.loc := rfl

@[simp] theorem Machine.relocate_name (m : Machine) : (m.relocate f).name = m.name := rfl

@[simp] theorem Machine.relocate_transitions (m : Machine) :
    (m.relocate f).transitions = m.transitions.map (·.relocate f) := rfl

@[simp] theorem Machine.relocate_initialStates (m : Machine) :
    (m.relocate f).initialStates = m.initialStates.map (·.relocate f) := rfl

@[simp] theorem Machine.relocate_guardResources (m : Machine) :
    (m.relocate f).guardResources = m.guardResources.map (·.relocate f) := rfl

@[simp] theorem Machine.relocate_actionResources (m : Machine) :
    (m.relocate f).actionResources = m.actionResources.map (·.relocate f) := rfl

@[simp] theorem Machine.relocate_loc (m : Machine) : (m.relocate f).loc = f m.loc := rfl

@[simp] theorem Token.relocate_kind (token : Token) : (token.relocate φ).kind = token.kind := rfl

@[simp] theorem Token.relocate_text (token : Token) : (token.relocate φ).text = token.text := rfl

@[simp] theorem Token.relocate_pos (token : Token) : (token.relocate φ).pos = φ token.pos := rfl

@[simp] theorem Token.relocate_description (token : Token) :
    (token.relocate φ).description = token.description := rfl

@[simp] theorem Token.relocate_textOrEnd (token : Token) :
    (token.relocate φ).textOrEnd = token.textOrEnd := rfl

/-- Places that are given twice are given once. -/
theorem Machine.relocate_relocate (m : Machine) :
    (m.relocate f).relocate g = m.relocate (g ∘ f) := by
  simp [Machine.relocate, Function.comp_def, Transition.relocate, Declaration.relocate,
    Resource.relocate]

end Fields

/-- The text of a type is made of the words of its tokens. -/
@[simp] theorem TypeText.ofTokens_relocate (φ : Position → Position) (tokens : List Token) :
    ofTokens (tokens.map (·.relocate φ)) = ofTokens tokens := by
  have htexts : ∀ afterWord, textsFrom afterWord (tokens.map (·.relocate φ)) =
      textsFrom afterWord tokens := by
    induction tokens with
    | nil => exact fun _ => rfl
    | cons token rest ih =>
      intro afterWord
      rw [List.map_cons, textsFrom, textsFrom, ih]
      rfl
  rw [ofTokens, ofTokens, htexts]

namespace Reader

/-- The cause, with the tokens that it mentions at the places that `φ` gives them. -/
def Cause.relocate (φ : Position → Position) : Cause → Cause
  | scan error => scan error
  | expected wanted purpose found => expected wanted purpose (found.relocate φ)
  | misplacedBlock part found => misplacedBlock part (found.relocate φ)
  | noBlock machine found => noBlock machine (found.relocate φ)
  | noContent machine => noContent machine
  | noLine event => noLine event
  | afterSource source event found => afterSource source event (found.relocate φ)
  | afterInitial state found => afterInitial state (found.relocate φ)
  | noType resource => noType resource
  | openType resource => openType resource
  | notInType resource found => notInType resource (found.relocate φ)
  | unbalancedType resource found => unbalancedType resource (found.relocate φ)

/-- No message tells a place. -/
@[simp] theorem Cause.relocate_message (φ : Position → Position) (cause : Cause) :
    (cause.relocate φ).message = cause.message := by
  cases cause <;> rfl

/-- The fault at the place that `φ` gives it. -/
def Fault.relocate (φ : Position → Position) (fault : Fault) : Fault :=
  ⟨fault.cause.relocate φ, φ fault.pos, fault.machine⟩

section Reading

variable {file : String} {φ : Position → Position} {f : Option Location → Option Location}

/-- The draft at other places. -/
def Draft.relocate (φ : Position → Position) (f : Option Location → Option Location)
    (draft : Draft) : Draft where
  name := draft.name.relocate φ
  part := draft.part
  guardResources := draft.guardResources.map (·.relocate f)
  actionResources := draft.actionResources.map (·.relocate f)
  initialStates := draft.initialStates.map (·.relocate f)
  transitions := draft.transitions.map (·.relocate f)

/-- The cursor at other places. -/
def Cursor.relocate (φ : Position → Position) (f : Option Location → Option Location) :
    Cursor → Cursor
  | machineOpening => machineOpening
  | body => body
  | resourcesOpening keyword => resourcesOpening keyword
  | resourceName keyword => resourceName keyword
  | resourceColon keyword name => resourceColon keyword (name.relocate φ)
  | resourceType keyword name closers read =>
    resourceType keyword (name.relocate φ) closers (read.map (·.relocate φ))
  | initialsOpening keyword => initialsOpening keyword
  | initialName keyword => initialName keyword
  | initialEnd keyword name => initialEnd keyword (name.relocate φ)
  | eventOpening event => eventOpening (event.relocate f)
  | firstLine event => firstLine (event.relocate f)
  | nextLine event => nextLine (event.relocate f)
  | source event sources => source (event.relocate f) (sources.map (·.relocate φ))
  | sourceEnd event sources last =>
    sourceEnd (event.relocate f) (sources.map (·.relocate φ)) (last.relocate φ)
  | target event sources arrow =>
    target (event.relocate f) (sources.map (·.relocate φ)) (arrow.relocate φ)

/-- The state at other places, behind machines that were complete before. -/
def State.relocate (φ : Position → Position) (f : Option Location → Option Location)
    (before : List Machine) : State → State
  | between complete => between (before ++ complete.map (·.relocate f))
  | within complete draft cursor =>
    within (before ++ complete.map (·.relocate f)) (draft.relocate φ f) (cursor.relocate φ f)

/-- What comes of a step, at other places. -/
def relocateStep (φ : Position → Position) (f : Option Location → Option Location)
    (before : List Machine) : Except Blame State → Except Blame State
  | .ok next => .ok (next.relocate φ f before)
  | .error (cause, blamed) => .error (cause.relocate φ, blamed.relocate φ)

variable {before complete : List Machine} {draft : Draft}

/-- What comes of a run, at other places. -/
def relocateRun (φ : Position → Position) (f : Option Location → Option Location)
    (before : List Machine) (outcome : State × Option Fault) : State × Option Fault :=
  (outcome.1.relocate φ f before, outcome.2.map (·.relocate φ))

theorem require_relocate {wanted : TokenKind} {purpose : Purpose} {token : Token} {next : State} :
    require wanted purpose (token.relocate φ) (next.relocate φ f before) =
      relocateStep φ f before (require wanted purpose token next) := by
  unfold require
  split <;> simp_all [relocateStep, Cause.relocate]

theorem Draft.isEmpty_relocate : (draft.relocate φ f).isEmpty = draft.isEmpty := by
  simp [Draft.isEmpty, Draft.relocate]

theorem Draft.addResource_relocate {resource : Resource} :
    (draft.relocate φ f).addResource (resource.relocate f) =
      (draft.addResource resource).relocate φ f := by
  unfold Draft.addResource
  by_cases hpart : draft.part = some .guardResources <;> simp [Draft.relocate, hpart]

theorem stepBetween_relocate {token : Token} :
    stepBetween (before ++ complete.map (·.relocate f)) (token.relocate φ) =
      relocateStep φ f before (stepBetween complete token) := by
  unfold stepBetween
  by_cases hend : token.kind = .semicolon ∨ token.kind = .endOfInput
  · simp [hend, relocateStep, State.relocate]
  · rw [Token.relocate_kind, if_neg hend, if_neg hend, ← require_relocate]
    rfl

/-! Where the places of `f` are those of `φ`, each step can be made elsewhere. -/

variable (hplaces : ∀ p : Position, f (some (p.inFile file)) = some ((φ p).inFile file))
include hplaces

theorem declare_relocate {token : Token} :
    declare file (token.relocate φ) = (declare file token).relocate f := by
  simp [declare, Declaration.relocate, hplaces]

theorem lineTransitions_relocate {event : Declaration} {sources : List Token}
    {arrow target : Token} :
    lineTransitions file (event.relocate f) (sources.map (·.relocate φ)) (arrow.relocate φ)
        (target.relocate φ) =
      (lineTransitions file event sources arrow target).map (·.relocate f) := by
  simp [lineTransitions, Transition.relocate, declare_relocate hplaces, hplaces]

theorem Draft.machine_relocate :
    (draft.relocate φ f).machine file = (draft.machine file).relocate f := by
  simp [Draft.machine, Draft.relocate, Machine.relocate, hplaces]

theorem stepBody_relocate {token : Token} :
    stepBody file (before ++ complete.map (·.relocate f)) (draft.relocate φ f)
        (token.relocate φ) =
      relocateStep φ f before (stepBody file complete draft token) := by
  unfold stepBody
  rw [Token.relocate_kind]
  split
  · rfl
  · rw [Draft.isEmpty_relocate]
    split
    · rfl
    · simp [relocateStep, State.relocate, Draft.machine_relocate hplaces]
  · simp [relocateStep, State.relocate, Cursor.relocate, declare_relocate hplaces, Draft.relocate]
  · split
    · rfl
    · rename_i part _
      have hallows : (draft.relocate φ f).allows part = draft.allows part := rfl
      rw [hallows]
      split
      · split <;> rfl
      · rfl

theorem stepType_relocate {keyword : String} {name token : Token} {closers : List TokenKind}
    {read : List Token} :
    stepType file (before ++ complete.map (·.relocate f)) (draft.relocate φ f) keyword
        (name.relocate φ) closers (read.map (·.relocate φ)) (token.relocate φ) =
      relocateStep φ f before (stepType file complete draft keyword name closers read token) := by
  -- A token that belongs to the type is read as one elsewhere.
  have hnext : ∀ later, State.within (before ++ complete.map (·.relocate f)) (draft.relocate φ f)
      (.resourceType keyword (name.relocate φ) later
        (read.map (·.relocate φ) ++ [token.relocate φ])) =
      (State.within complete draft (.resourceType keyword name later (read ++ [token]))).relocate
        φ f before := by
    intro later
    simp [State.relocate, Cursor.relocate]
  unfold stepType
  simp only [Token.relocate_kind, List.map_eq_nil_iff, hnext]
  split
  · split
    · rfl
    · have hresource : Resource.mk (name.relocate φ).text
          (TypeText.ofTokens (read.map (·.relocate φ)))
          (some ((name.relocate φ).pos.inFile file)) =
          (Resource.mk name.text (TypeText.ofTokens read)
            (some (name.pos.inFile file))).relocate f := by
        simp [Resource.relocate, hplaces]
      rw [hresource, Draft.addResource_relocate]
      by_cases hcomma : token.kind = .comma <;> simp [hcomma, relocateStep, State.relocate,
        Cursor.relocate]
  split
  · rfl
  split
  · rfl
  split
  · rfl
  split
  · cases closers with
    | nil => rfl
    | cons due closers => dsimp only; split <;> rfl
  · rfl

theorem stepWithin_relocate {cursor : Cursor} {token : Token} :
    stepWithin file (before ++ complete.map (·.relocate f)) (draft.relocate φ f)
        (cursor.relocate φ f) (token.relocate φ) =
      relocateStep φ f before (stepWithin file complete draft cursor token) := by
  cases cursor with
  | body => exact stepBody_relocate hplaces
  | resourceType => exact stepType_relocate hplaces
  | machineOpening | resourcesOpening | resourceColon | initialsOpening | eventOpening =>
    simp only [stepWithin, ← require_relocate]
    rfl
  | source =>
    simp only [stepWithin, ← require_relocate, State.relocate, Cursor.relocate]
    rfl
  | target =>
    simp only [stepWithin, ← require_relocate, Cursor.relocate, lineTransitions_relocate hplaces]
    simp [State.relocate, Cursor.relocate, Draft.relocate, Draft.addTransitions]
  | resourceName | initialName | firstLine =>
    by_cases hbrace : token.kind = .rightBrace
    · simp [stepWithin, hbrace, relocateStep, State.relocate, Cursor.relocate, Cause.relocate]
    · simp [stepWithin, hbrace, ← require_relocate, State.relocate, Cursor.relocate,
        Draft.relocate, Draft.addInitial, declare_relocate hplaces]
  | nextLine =>
    by_cases hbrace : token.kind = .rightBrace
    · simp [stepWithin, hbrace, relocateStep, State.relocate, Cursor.relocate]
    by_cases hseparator : token.kind = .comma ∨ token.kind = .semicolon
    · simp [stepWithin, hbrace, hseparator, relocateStep, State.relocate, Cursor.relocate]
    · simp [stepWithin, hbrace, hseparator, ← require_relocate, State.relocate, Cursor.relocate]
  | initialEnd | sourceEnd =>
    by_cases hcomma : token.kind = .comma
    · simp [stepWithin, hcomma, relocateStep, State.relocate, Cursor.relocate]
    by_cases hclosing : token.kind = .rightBrace ∨ token.kind = .arrow
    · rcases hclosing with hkind | hkind <;>
        simp [stepWithin, hkind, relocateStep, State.relocate, Cursor.relocate, Cause.relocate]
    · rw [not_or] at hclosing
      simp [stepWithin, hcomma, hclosing, relocateStep, Cursor.relocate, Cause.relocate]

/-- A step elsewhere is the step, elsewhere. -/
theorem step_relocate {state : State} {token : Token} :
    step file (state.relocate φ f before) (token.relocate φ) =
      match step file state token with
      | .ok next => .ok (next.relocate φ f before)
      | .error fault => .error (fault.relocate φ) := by
  cases state with
  | between complete =>
    simp only [step, State.relocate, stepBetween_relocate]
    cases stepBetween complete token <;> rfl
  | within complete draft cursor =>
    simp only [step, State.relocate, stepWithin_relocate hplaces]
    cases stepWithin file complete draft cursor token <;> rfl

/-- A run elsewhere is the run, elsewhere. -/
theorem run_relocate {state : State} {tokens : List Token} :
    run file (state.relocate φ f before) (tokens.map (·.relocate φ)) =
      relocateRun φ f before (run file state tokens) := by
  induction tokens generalizing state with
  | nil => rfl
  | cons token rest ih =>
    simp only [List.map_cons, run, step_relocate hplaces]
    cases step file state token with
    | ok next => exact ih
    | error fault => rfl

end Reading

end Reader

end FsmCompiler
