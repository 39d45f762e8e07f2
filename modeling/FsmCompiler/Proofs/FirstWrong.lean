/-
# The first wrong token

Reading stops at the first token that is wrong: what stands before it can be completed to a
file, and no file begins with it as well. The fault points at that token. Only a machine
block that declares nothing is reported at the name of the machine instead, because its
closing brace is where that is found out.
-/

import FsmCompiler.Proofs.Reading
import Mathlib.Data.List.Induction

namespace FsmCompiler.Reader

open Grammar TokenKind

variable {file : String} {complete : List Machine} {draft : Draft} {cursor : Cursor}
  {tokens used rest : List Token} {token : Token} {machines : List Machine}
  {state middle final next : State}

/-! ## What one step does -/

/-- The brackets that are due inside a type are closing brackets. -/
def Cursor.Bracketed : Cursor → Prop
  | .resourceType _ _ closers _ => ∀ closer ∈ closers, closer = rightBracket ∨ closer = rightParen
  | _ => True

theorem bracketed_of_closersAfter {closers later : List TokenKind} {kind : TokenKind}
    (hclosers : ∀ closer ∈ closers, closer = rightBracket ∨ closer = rightParen)
    (hlater : closersAfter closers kind = some later) :
    ∀ closer ∈ later, closer = rightBracket ∨ closer = rightParen := by
  unfold closersAfter at hlater
  split at hlater
  case h_1 | h_2 =>
    cases hlater
    intro closer hcloser
    rcases List.mem_cons.1 hcloser with rfl | hcloser
    · simp
    · exact hclosers closer hcloser
  case h_3 | h_4 =>
    split at hlater
    · split at hlater
      · cases hlater
        exact fun closer hcloser => hclosers closer (List.mem_cons_of_mem _ hcloser)
      · cases hlater
    · cases hlater
  case h_5 =>
    split at hlater
    · cases hlater
    · cases hlater
      exact hclosers
  case h_6 | h_7 | h_8 | h_9 | h_10 =>
    cases hlater
    exact hclosers
  case h_11 => cases hlater

/-- What a step within a machine comes to, cursor and token given: reading goes on within the
machine, or its closing brace is read, or the token is wrong. -/
inductive StepOutcome (file : String) (complete : List Machine) (draft : Draft) (cursor : Cursor)
    (token : Token) : Except Blame State → Prop
  /-- Reading goes on within the machine. -/
  | goesOn {later cursor'} (hname : later.name = draft.name)
      (hbracketed : cursor.Bracketed → cursor'.Bracketed) :
      StepOutcome file complete draft cursor token (.ok (.within complete later cursor'))
  /-- The brace closes a machine that declares something. -/
  | closes (hcursor : cursor = .body) (hbrace : token.kind = rightBrace) :
      StepOutcome file complete draft cursor token
        (.ok (.between (complete ++ [draft.machine file])))
  /-- The brace closes a machine that declares nothing, and the name of the machine is to blame. -/
  | closesEmpty (hcursor : cursor = .body) (hbrace : token.kind = rightBrace)
      (hempty : draft.isEmpty = true) :
      StepOutcome file complete draft cursor token (.error (.noContent draft.name.text, draft.name))
  /-- The token cannot come next, and is to blame itself. -/
  | wrong {cause} (hcause : ∀ machine, cause ≠ .noContent machine) :
      StepOutcome file complete draft cursor token (.error (cause, token))

/-- A cursor that accepts one kind of token goes on within the machine. -/
theorem outcome_of_require {wanted : TokenKind} {purpose : Purpose} {later : Draft}
    {cursor' : Cursor} (hname : later.name = draft.name) (hbracketed : cursor'.Bracketed) :
    StepOutcome file complete draft cursor token
      (require wanted purpose token (.within complete later cursor')) := by
  unfold require
  split
  · exact .goesOn hname fun _ => hbracketed
  · exact .wrong fun _ => by simp

theorem outcome_of_stepBody :
    StepOutcome file complete draft .body token (stepBody file complete draft token) := by
  unfold stepBody
  split
  · exact .goesOn rfl fun _ => trivial
  · rename_i hbrace
    split
    · rename_i hempty
      exact .closesEmpty rfl hbrace hempty
    · exact .closes rfl hbrace
  · exact .goesOn rfl fun _ => trivial
  · split
    · exact .wrong fun _ => by simp
    · split
      · refine .goesOn rfl fun _ => ?_
        split <;> trivial
      · exact .wrong fun _ => by simp

theorem outcome_of_stepType {keyword : String} {name : Token} {closers : List TokenKind}
    {read : List Token} :
    StepOutcome file complete draft (.resourceType keyword name closers read) token
      (stepType file complete draft keyword name closers read token) := by
  cases hstep : stepType file complete draft keyword name closers read token with
  | ok next =>
    rcases stepType_eq_ok_iff.1 hstep with ⟨-, -, -, rfl⟩ | ⟨later, hlater, rfl⟩
    · refine .goesOn ?_ fun _ => ?_
      · unfold Draft.addResource
        split <;> rfl
      · split <;> trivial
    · exact .goesOn rfl fun hclosers => bracketed_of_closersAfter hclosers hlater
  | error blame =>
    unfold stepType at hstep
    repeat' split at hstep
    all_goals cases hstep
    all_goals exact .wrong fun _ => by simp

theorem outcome_of_stepWithin (file : String) (complete : List Machine) (draft : Draft)
    (cursor : Cursor) (token : Token) :
    StepOutcome file complete draft cursor token (stepWithin file complete draft cursor token) := by
  cases cursor with
  | body => exact outcome_of_stepBody
  | resourceType => exact outcome_of_stepType
  | resourceColon => exact outcome_of_require rfl (by simp [Cursor.Bracketed])
  | machineOpening | resourcesOpening | initialsOpening | eventOpening | source | target =>
    exact outcome_of_require rfl trivial
  | resourceName | initialName =>
    simp only [stepWithin]
    split
    · exact .goesOn rfl fun _ => trivial
    · exact outcome_of_require rfl trivial
  | firstLine =>
    simp only [stepWithin]
    split
    · exact .wrong fun _ => by simp
    · exact outcome_of_require rfl trivial
  | nextLine =>
    simp only [stepWithin]
    split
    · exact .goesOn rfl fun _ => trivial
    · split
      · exact .goesOn rfl fun _ => trivial
      · exact outcome_of_require rfl trivial
  | initialEnd | sourceEnd =>
    simp only [stepWithin]
    split
    · exact .goesOn rfl fun _ => trivial
    · split
      · exact .goesOn rfl fun _ => trivial
      · exact .wrong fun _ => by simp

/-- A step within a machine stays within it, or it is the closing brace of a machine that
declares something. -/
theorem stepWithin_cases
    (hstep : stepWithin file complete draft cursor token = .ok next) :
    (∃ later cursor', next = .within complete later cursor' ∧ later.name = draft.name ∧
        (cursor.Bracketed → cursor'.Bracketed)) ∨
      (cursor = .body ∧ token.kind = rightBrace ∧
        next = .between (complete ++ [draft.machine file])) := by
  have houtcome := outcome_of_stepWithin file complete draft cursor token
  rw [hstep] at houtcome
  cases houtcome with
  | goesOn hname hbracketed => exact .inl ⟨_, _, rfl, hname, hbracketed⟩
  | closes hcursor hbrace => exact .inr ⟨hcursor, hbrace, rfl⟩

/-- A step between machines stays there, or it begins a machine with its name. -/
theorem stepBetween_cases (hstep : stepBetween complete token = .ok next) :
    ((token.kind = semicolon ∨ token.kind = endOfInput) ∧ next = .between complete) ∨
      (token.kind = identifier ∧
        next = .within complete (.ofName token) .machineOpening) := by
  unfold stepBetween at hstep
  split at hstep
  · rename_i hkind
    cases hstep
    exact .inl ⟨hkind, rfl⟩
  · obtain ⟨hkind, rfl⟩ := require_eq_ok_iff.1 hstep
    exact .inr ⟨hkind, rfl⟩

/-- A token that cannot come next is to blame itself, except for the brace that closes a
machine which declares nothing. -/
theorem blame_of_stepWithin {cause : Cause} {blamed : Token}
    (hstep : stepWithin file complete draft cursor token = .error (cause, blamed)) :
    (blamed = token ∧ ∀ machine, cause ≠ .noContent machine) ∨
      (cursor = .body ∧ token.kind = rightBrace ∧ draft.isEmpty = true ∧
        cause = .noContent draft.name.text ∧ blamed = draft.name) := by
  have houtcome := outcome_of_stepWithin file complete draft cursor token
  rw [hstep] at houtcome
  cases houtcome with
  | closesEmpty hcursor hbrace hempty => exact .inr ⟨hcursor, hbrace, hempty, rfl, rfl⟩
  | wrong hcause => exact .inl ⟨rfl, hcause⟩

/-! ## Runs -/

theorem run_append (hused : run file state used = (middle, none)) :
    run file state (used ++ rest) = run file middle rest := by
  induction used generalizing state with
  | nil =>
    cases hused
    rfl
  | cons token used ih =>
    simp only [run, List.cons_append] at hused ⊢
    cases hstep : step file state token with
    | error fault => simp [hstep] at hused
    | ok next =>
      rw [hstep] at hused
      exact ih hused

/-- A run over several tokens passes through a state behind each of them. -/
theorem run_append_eq_ok_iff :
    run file state (used ++ rest) = (final, none) ↔
      ∃ middle, run file state used = (middle, none) ∧ run file middle rest = (final, none) := by
  constructor
  · intro hrun
    induction used generalizing state with
    | nil => exact ⟨state, rfl, hrun⟩
    | cons token used ih =>
      simp only [run, List.cons_append] at hrun ⊢
      cases hstep : step file state token with
      | error fault => simp [hstep] at hrun
      | ok next =>
        rw [hstep] at hrun
        exact ih hrun
  · rintro ⟨middle, hused, hrest⟩
    rw [run_append hused, hrest]

/-- Where reading stops, the tokens before were read, and the next one is at fault. -/
theorem exists_of_run_error {stopped : State} {fault : Fault}
    (hrun : run file state tokens = (stopped, some fault)) :
    ∃ before token after, tokens = before ++ token :: after ∧
      run file state before = (stopped, none) ∧ step file stopped token = .error fault := by
  induction tokens generalizing state with
  | nil => simp [run] at hrun
  | cons token rest ih =>
    simp only [run] at hrun
    cases hstep : step file state token with
    | error other =>
      rw [hstep] at hrun
      cases hrun
      exact ⟨[], token, rest, rfl, rfl, hstep⟩
    | ok next =>
      rw [hstep] at hrun
      obtain ⟨before, wrong, after, rfl, hbefore, hwrong⟩ := ih hrun
      refine ⟨token :: before, wrong, after, rfl, ?_, hwrong⟩
      simp only [run, hstep, hbefore]

/-! ## How far reading has come -/

/-- How far reading has come: two for each machine that is complete, and one for the name of
the machine at hand. -/
def State.progress : State → Nat
  | between complete => 2 * complete.length
  | within complete _ _ => 2 * complete.length + 1

theorem progress_le_of_step (hstep : step file state token = .ok next) :
    state.progress ≤ next.progress := by
  cases state with
  | between complete =>
    rcases stepBetween_cases (step_between_eq_ok_iff.1 hstep) with ⟨-, rfl⟩ | ⟨-, rfl⟩
    · exact Nat.le_refl _
    · simp [State.progress]
  | within complete draft cursor =>
    rcases stepWithin_cases (step_within_eq_ok_iff.1 hstep) with ⟨_, _, rfl, -⟩ | ⟨-, -, rfl⟩
    · exact Nat.le_refl _
    · simp only [State.progress, List.length_append, List.length_singleton]
      omega

/-- Reading on, no machine is lost. -/
theorem progress_le_of_run (hrun : run file state tokens = (final, none)) :
    state.progress ≤ final.progress := by
  induction tokens generalizing state with
  | nil =>
    cases hrun
    exact Nat.le_refl _
  | cons token rest ih =>
    simp only [run] at hrun
    cases hstep : step file state token with
    | error fault => simp [hstep] at hrun
    | ok next =>
      rw [hstep] at hrun
      exact Nat.le_trans (progress_le_of_step hstep) (ih hrun)

/-- A closing brace behind which reading is between machines completes one. -/
theorem progress_lt_of_accepts (hclosing : token.kind = rightBrace)
    (haccepts : Accepts file state (rest ++ [token]) machines) :
    state.progress < 2 * machines.length := by
  obtain ⟨before, hrest, hlast⟩ := run_append_eq_ok_iff.1 haccepts
  have hle := progress_le_of_run hrest
  obtain ⟨next, hstep, hend⟩ := accepts_cons_iff.1 hlast
  have hnext := accepts_nil_iff.1 hend
  subst hnext
  cases before with
  | between complete =>
    rcases stepBetween_cases (step_between_eq_ok_iff.1 hstep) with ⟨hkind, -⟩ | ⟨hkind, -⟩
    · simp [hclosing] at hkind
    · simp [hclosing] at hkind
  | within complete draft cursor =>
    rcases stepWithin_cases (step_within_eq_ok_iff.1 hstep) with ⟨_, _, heq, -⟩ | ⟨-, -, heq⟩
    · cases heq
    · cases heq
      simp only [State.progress, List.length_append, List.length_singleton] at hle ⊢
      omega

/-! ## The machine at hand -/

theorem run_singleton_eq_ok_iff :
    run file state [token] = (final, none) ↔ step file state token = .ok final := by
  simp only [run]
  cases step file state token <;> simp

/-- What has been read within a machine is its name and more, behind a list of tokens that
ends between machines. -/
theorem exists_block_of_run
    (hrun : run file .start tokens = (.within complete draft cursor, none)) :
    ∃ whole inner, tokens = whole ++ draft.name :: inner ∧
      run file .start whole = (.between complete, none) ∧ draft.name.kind = identifier ∧
      run file (.within complete (.ofName draft.name) .machineOpening) inner =
        (.within complete draft cursor, none) ∧ cursor.Bracketed := by
  induction tokens using List.reverseRecOn generalizing draft cursor with
  | nil => cases hrun
  | append_singleton tokens token ih =>
    obtain ⟨before, hbefore, hlast⟩ := run_append_eq_ok_iff.1 hrun
    have hstep := run_singleton_eq_ok_iff.1 hlast
    cases before with
    | between complete' =>
      rcases stepBetween_cases (step_between_eq_ok_iff.1 hstep) with ⟨-, heq⟩ | ⟨hname, heq⟩
      · cases heq
      · cases heq
        exact ⟨tokens, [], rfl, hbefore, hname, rfl, trivial⟩
    | within complete' draft' cursor' =>
      rcases stepWithin_cases (step_within_eq_ok_iff.1 hstep) with
        ⟨_, _, heq, hsame, hkeeps⟩ | ⟨-, -, heq⟩
      · cases heq
        obtain ⟨whole, inner, rfl, hwhole, hname, hinner, hbracketed⟩ := ih hbefore
        rw [hsame]
        exact ⟨whole, inner ++ [token], by simp, hwhole, hname, by rw [run_append hinner, hlast],
          hkeeps hbracketed⟩
      · cases heq

/-- A machine block is read from between machines to between machines. -/
theorem accepts_of_machineBlock {machine : Machine} (hblock : MachineBlock file tokens machine) :
    Accepts file (.between complete) tokens (complete ++ [machine]) := by
  obtain ⟨name, opening, body, closing, rfl, hname, hopening, hbody, hclosing⟩ :=
    machineBlock_iff.1 hblock
  refine accepts_between_step.2 (.inr (.inr ⟨name, opening, body ++ [closing], by simp, hname,
    hopening, ?_⟩))
  exact hbody.accepts hclosing (accepts_nil_iff.2 rfl)

/-- While reading is within a machine, its block has not been closed. -/
theorem not_machineBlock_of_run {name : Token} {block inner : List Token} {machine : Machine}
    (hname : name.kind = identifier)
    (hinner : run file (.within complete (.ofName name) .machineOpening) inner =
      (.within complete draft cursor, none))
    (hpart : block <+: name :: inner) : ¬ MachineBlock file block machine := by
  intro hblock
  obtain ⟨more, hmore⟩ := hpart
  have hrun : run file (.between complete) (name :: inner) =
      (.within complete draft cursor, none) := by
    have hstep : stepBetween complete name =
        .ok (.within complete (.ofName name) .machineOpening) := by
      simp [stepBetween, require, hname]
    rw [run, step_between_eq_ok_iff.2 hstep]
    exact hinner
  have hclosed : run file (.between complete) block = (.between (complete ++ [machine]), none) :=
    accepts_of_machineBlock hblock
  rw [← hmore, run_append hclosed] at hrun
  have hle := progress_le_of_run hrun
  simp only [State.progress, List.length_append, List.length_singleton] at hle
  omega

/-! ## Machines that declare nothing -/

/-- An event block has a rule. -/
theorem rules_ne_nil_of_eventBlock {rules : List Transition}
    (hblock : EventBlock file tokens rules) : rules ≠ [] := by
  have hline : ∀ {event tokens rules}, Line file event tokens rules → rules ≠ [] := by
    intro event tokens rules hline
    cases hline with
    | intro hsources => cases hsources <;> simp
  cases hblock with
  | intro _ _ hbody _ =>
    cases hbody with
    | one hfirst => exact hline hfirst
    | cons hfirst => simp [hline hfirst]

/-- If a brace closes a machine that declares nothing, an event block put before the brace
makes it a machine with the rules of that block alone. -/
theorem machineBlock_with_event {name closing : Token} {inner eventTokens : List Token}
    {rules : List Transition} (hname : name.kind = identifier)
    (hinner : run file (.within complete (.ofName name) .machineOpening) inner =
      (.within complete draft .body, none))
    (hdraft : draft.name = name) (hempty : draft.isEmpty = true)
    (hclosing : closing.kind = rightBrace) (hevent : EventBlock file eventTokens rules) :
    MachineBlock file (name :: inner ++ eventTokens ++ [closing])
      ⟨name.text, rules, [], draft.guardResources, draft.actionResources,
        some (name.pos.inFile file)⟩ := by
  subst hdraft
  obtain ⟨htransitions, hinitials⟩ : draft.transitions = [] ∧ draft.initialStates = [] := by
    simpa [Draft.isEmpty] using hempty
  let after : Draft :=
    { draft with part := some .events, transitions := draft.transitions ++ rules }
  have hsome : after.isEmpty = false := by
    simp [after, Draft.isEmpty, rules_ne_nil_of_eventBlock hevent]
  have hmachine : after.machine file = ⟨draft.name.text, rules, [], draft.guardResources,
      draft.actionResources, some (draft.name.pos.inFile file)⟩ := by
    simp [after, Draft.machine, htransitions, hinitials]
  have hread : Accepts file (.within complete (.ofName draft.name) .machineOpening)
      (inner ++ (eventTokens ++ [] ++ closing :: [])) (complete ++ [after.machine file]) := by
    unfold Accepts
    rw [run_append hinner]
    exact (BodyRun.event hevent (.closed hsome)).accepts hclosing (accepts_nil_iff.2 rfl)
  obtain ⟨opening, later, heq, hopening, hlater⟩ :=
    (accepts_of_require (by simp) fun _ => rfl).1 hread
  obtain ⟨body, machine, ending, rest, rfl, hbody, hending, hrest⟩ :=
    exists_bodyRun_of_accepts hlater
  -- The brace at the end is the only one that can have closed the block.
  rcases List.eq_nil_or_concat rest with rfl | ⟨rest, last, rfl⟩
  · have hsame : machine = after.machine file := by
      simpa using accepts_nil_iff.1 hrest
    rw [← hmachine, ← hsame]
    refine machineBlock_iff.2
      ⟨draft.name, opening, body, ending, ?_, hname, hopening, hbody, hending⟩
    simpa using heq
  · rw [List.concat_eq_append] at hrest heq
    have hlast : last = closing := by
      have hends : (inner ++ eventTokens) ++ [closing] =
          (opening :: body ++ ending :: rest) ++ [last] := by
        simpa using heq
      simpa using (List.append_inj_right' hends rfl).symm
    subst hlast
    have hlt := progress_lt_of_accepts hclosing hrest
    simp only [State.progress, List.length_append, List.length_singleton] at hlt
    omega

/-! ## Completing what has been read -/

/-- A token of some kind. -/
def sample (kind : TokenKind) : Token := ⟨kind, "x", ⟨1, 1⟩⟩

/-- Kinds of tokens that lead from a cursor to the place where a block may begin. -/
def Cursor.wayOut : Cursor → List TokenKind
  | .body => []
  | .machineOpening => [leftBrace]
  | .resourcesOpening _ | .initialsOpening _ => [leftBrace, rightBrace]
  | .resourceName _ | .initialName _ | .initialEnd _ _ | .nextLine _ => [rightBrace]
  | .resourceColon _ _ => [colon, identifier, rightBrace]
  | .resourceType _ _ closers _ => identifier :: closers ++ [rightBrace]
  | .eventOpening _ => [leftBrace, identifier, TokenKind.arrow, identifier, rightBrace]
  | .firstLine _ | .source _ _ => [identifier, TokenKind.arrow, identifier, rightBrace]
  | .sourceEnd _ _ _ => [TokenKind.arrow, identifier, rightBrace]
  | .target _ _ _ => [identifier, rightBrace]

/-- Brackets that are due can be closed, and then a brace ends the type. -/
theorem exists_run_closers {keyword : String} {name : Token} {closers : List TokenKind}
    {read : List Token} (hread : read ≠ [])
    (hclosers : ∀ closer ∈ closers, closer = rightBracket ∨ closer = rightParen) :
    ∃ later, run file (.within complete draft (.resourceType keyword name closers read))
      ((closers ++ [rightBrace]).map sample) = (.within complete later .body, none) := by
  induction closers generalizing read with
  | nil =>
    have hstop : stepWithin file complete draft (.resourceType keyword name [] read)
        (sample rightBrace) =
          .ok (afterResource file complete draft keyword name read (sample rightBrace)) :=
      stepType_eq_ok_iff.2 (.inl ⟨rfl, .inr rfl, hread, rfl⟩)
    exact ⟨_, run_singleton_eq_ok_iff.2 (step_within_eq_ok_iff.2 hstop)⟩
  | cons closer closers ih =>
    have hnext : closersAfter (closer :: closers) (sample closer).kind = some closers := by
      rcases hclosers closer List.mem_cons_self with rfl | rfl <;> rfl
    have hstep : stepWithin file complete draft
        (.resourceType keyword name (closer :: closers) read) (sample closer) =
          .ok (.within complete draft
            (.resourceType keyword name closers (read ++ [sample closer]))) :=
      stepType_eq_ok_iff.2 (.inr ⟨closers, hnext, rfl⟩)
    rw [List.cons_append, List.map_cons, run, step_within_eq_ok_iff.2 hstep]
    exact ih (by simp) fun other hother => hclosers other (List.mem_cons_of_mem _ hother)

/-- From every cursor there is a way out. -/
theorem exists_run_wayOut (file : String) (complete : List Machine) (draft : Draft)
    (hbracketed : cursor.Bracketed) :
    ∃ later, run file (.within complete draft cursor) (cursor.wayOut.map sample) =
      (.within complete later .body, none) := by
  cases cursor with
  | resourceType keyword name closers read =>
    have hstep : stepWithin file complete draft (.resourceType keyword name closers read)
        (sample identifier) =
          .ok (.within complete draft
            (.resourceType keyword name closers (read ++ [sample identifier]))) :=
      stepType_eq_ok_iff.2 (.inr ⟨closers, rfl, rfl⟩)
    rw [Cursor.wayOut, List.cons_append, List.map_cons, run, step_within_eq_ok_iff.2 hstep]
    exact exists_run_closers (by simp) hbracketed
  | _ => exact ⟨_, rfl⟩

/-- The kinds of the tokens of an event block with one line. -/
def eventKinds : List TokenKind :=
  [identifier, leftBrace, identifier, TokenKind.arrow, identifier, rightBrace]

theorem exists_eventBlock_sample (file : String) :
    ∃ rules, EventBlock file (eventKinds.map sample) rules := by
  have hline : Line file (declare file (sample identifier))
      ([sample identifier] ++ [sample TokenKind.arrow, sample identifier]) _ :=
    .intro (.one rfl) rfl rfl
  exact ⟨_, .intro rfl rfl (.one hline .nil) rfl⟩

/-- Tokens that can be completed to a list that is accepted. -/
def Viable (file : String) (tokens : List Token) : Prop :=
  ∃ later machines, Terminated (tokens ++ later) ∧
    readTokens file (tokens ++ later) = .ok machines

theorem terminated_append_iff {ending : Token} (hending : ending.kind = endOfInput) :
    Terminated (tokens ++ [ending]) ↔ ∀ token ∈ tokens, token.kind ≠ endOfInput := by
  induction tokens with
  | nil => simp [Terminated, hending]
  | cons token rest ih =>
    rw [List.cons_append, terminated_cons_iff, ih]
    simp

/-- In a terminated list, no token before another one ends the input. -/
theorem kind_ne_endOfInput_of_terminated (hterminated : Terminated (tokens ++ token :: rest)) :
    ∀ other ∈ tokens, other.kind ≠ endOfInput := by
  induction tokens with
  | nil => simp
  | cons first tokens ih =>
    rcases terminated_cons_iff.1 hterminated with ⟨hnil, -⟩ | ⟨hfirst, hterminated⟩
    · simp at hnil
    · exact List.forall_mem_cons.2 ⟨hfirst, ih hterminated⟩

/-- No way out needs the end of the input. -/
theorem endOfInput_not_mem_wayOut (hbracketed : cursor.Bracketed) :
    endOfInput ∉ cursor.wayOut := by
  cases cursor with
  | resourceType keyword name closers read =>
    have hclosers : endOfInput ∉ closers := by
      intro hmem
      rcases hbracketed _ hmem with hkind | hkind <;> cases hkind
    simpa [Cursor.wayOut] using hclosers
  | _ => simp [Cursor.wayOut]

/-- From everywhere in a machine, some tokens before the end of the input complete it. -/
theorem exists_run_between (hbracketed : cursor.Bracketed) :
    ∃ (kinds : List TokenKind) (machines : List Machine), endOfInput ∉ kinds ∧
      run file (.within complete draft cursor) (kinds.map sample) = (.between machines, none) := by
  obtain ⟨later, hlater⟩ := exists_run_wayOut file complete draft hbracketed
  obtain ⟨rules, hevent⟩ := exists_eventBlock_sample file
  let after : Draft :=
    { later with part := some .events, transitions := later.transitions ++ rules }
  have hsome : after.isEmpty = false := by
    simp [after, Draft.isEmpty, rules_ne_nil_of_eventBlock hevent]
  have haccepts : Accepts file (.within complete later .body)
      (eventKinds.map sample ++ [] ++ sample rightBrace :: []) (complete ++ [after.machine file]) :=
    (BodyRun.event hevent (.closed hsome)).accepts rfl (accepts_nil_iff.2 rfl)
  refine ⟨cursor.wayOut ++ eventKinds ++ [rightBrace], complete ++ [after.machine file], ?_, ?_⟩
  · simp [endOfInput_not_mem_wayOut hbracketed, eventKinds]
  · rw [List.append_assoc, List.map_append, run_append hlater]
    simpa [Accepts] using haccepts

/-- What has been read can be completed: the block at hand is left, an event block and a brace
complete the machine, and the input ends. -/
theorem viable_of_run (hrun : run file .start tokens = (state, none))
    (hopen : ∀ token ∈ tokens, token.kind ≠ endOfInput) : Viable file tokens := by
  have hkinds : ∃ (kinds : List TokenKind) (machines : List Machine), endOfInput ∉ kinds ∧
      run file state (kinds.map sample) = (.between machines, none) := by
    cases state with
    | between complete => exact ⟨[], complete, by simp, rfl⟩
    | within complete draft cursor =>
      obtain ⟨-, -, -, -, -, -, hbracketed⟩ := exists_block_of_run hrun
      exact exists_run_between hbracketed
  obtain ⟨kinds, machines, hkinds, hbetween⟩ := hkinds
  have hending : (sample endOfInput).kind = endOfInput := rfl
  refine ⟨kinds.map sample ++ [sample endOfInput], machines, ?_, ?_⟩
  · rw [← List.append_assoc, terminated_append_iff hending]
    intro token htoken
    rcases List.mem_append.1 htoken with htoken | htoken
    · exact hopen token htoken
    · obtain ⟨kind, hkind, rfl⟩ := List.mem_map.1 htoken
      rintro rfl
      exact hkinds hkind
  · rw [readTokens, run_append hrun, run_append hbetween]
    rfl

/-- Tokens that end between machines are a file but for the end of the input. -/
theorem file_of_run (hrun : run file .start tokens = (.between complete, none))
    (hopen : ∀ token ∈ tokens, token.kind ≠ endOfInput) {ending : Token}
    (hending : ending.kind = endOfInput) : File file (tokens ++ [ending]) complete := by
  rw [← readTokens_eq_ok_iff_of_terminated ((terminated_append_iff hending).2 hopen), readTokens,
    run_append hrun]
  simp [run, step, stepBetween, hending, Except.mapError, State.machines]

/-! ## The place of a fault -/

/-- Whole machine blocks with semicolons between them: a file but for the end of the input. -/
def Whole (file : String) (tokens : List Token) : Prop :=
  ∃ machines, ∀ ending : Token, ending.kind = endOfInput → File file (tokens ++ [ending]) machines

/-- The name of a machine and what comes behind it, without the brace that closes its block. -/
structure OpenBlock (file : String) (name : Token) (inner : List Token) : Prop where
  named : name.kind = identifier
  unclosed : ∀ block machine, block <+: name :: inner → ¬ MachineBlock file block machine

/-- The brace closes a block with no initial state and no rule: with an event block put before
the brace, the machine has no initial state and the rules of that block alone. -/
def ClosesEmpty (file : String) (name : Token) (inner : List Token) (closing : Token) : Prop :=
  closing.kind = rightBrace ∧ ∃ guards actions, ∀ eventTokens rules,
    EventBlock file eventTokens rules →
      MachineBlock file (name :: inner ++ eventTokens ++ [closing])
        ⟨name.text, rules, [], guards, actions, some (name.pos.inFile file)⟩

/-- What a fault says about the token at which reading stops, behind the tokens before it. -/
inductive Located (file : String) (before : List Token) (token : Token) : Fault → Prop
  /-- Between machines, the fault belongs to none. -/
  | between {cause} (hbefore : Whole file before)
      (hcause : ∀ machine, cause ≠ .noContent machine) :
      Located file before token ⟨cause, token.pos, none⟩
  /-- Within a block that is open, the fault belongs to its machine. -/
  | within {whole name inner cause} (hbefore : before = whole ++ name :: inner)
      (hwhole : Whole file whole) (hblock : OpenBlock file name inner)
      (hcause : ∀ machine, cause ≠ .noContent machine) :
      Located file before token ⟨cause, token.pos, some name.text⟩
  /-- The fault of a machine that declares nothing is at its name. -/
  | empty {whole name inner} (hbefore : before = whole ++ name :: inner)
      (hwhole : Whole file whole) (hblock : OpenBlock file name inner)
      (hempty : ClosesEmpty file name inner token) :
      Located file before token ⟨.noContent name.text, name.pos, some name.text⟩

theorem whole_of_run (hrun : run file .start tokens = (.between complete, none))
    (hopen : ∀ token ∈ tokens, token.kind ≠ endOfInput) : Whole file tokens :=
  ⟨complete, fun _ hending => file_of_run hrun hopen hending⟩

/-- A fault is located where reading stops. -/
theorem located_of_step {fault : Fault} (hrun : run file .start tokens = (state, none))
    (hopen : ∀ token ∈ tokens, token.kind ≠ endOfInput)
    (hstep : step file state token = .error fault) : Located file tokens token fault := by
  cases state with
  | between complete =>
    obtain ⟨cause, blamed, hbetween, rfl⟩ : ∃ cause blamed,
        stepBetween complete token = .error (cause, blamed) ∧
          fault = ⟨cause, blamed.pos, none⟩ := by
      simp only [step] at hstep
      cases hbetween : stepBetween complete token with
      | ok next => simp [hbetween, Except.mapError] at hstep
      | error blame =>
        rw [hbetween] at hstep
        cases hstep
        exact ⟨blame.1, blame.2, rfl, rfl⟩
    have hblame : blamed = token ∧ ∀ machine, cause ≠ .noContent machine := by
      unfold stepBetween require at hbetween
      split at hbetween
      · cases hbetween
      · split at hbetween
        · cases hbetween
        · cases hbetween
          exact ⟨rfl, fun _ => by simp⟩
    obtain ⟨rfl, hcause⟩ := hblame
    exact .between (whole_of_run hrun hopen) hcause
  | within complete draft cursor =>
    obtain ⟨cause, blamed, hwithin, rfl⟩ : ∃ cause blamed,
        stepWithin file complete draft cursor token = .error (cause, blamed) ∧
          fault = ⟨cause, blamed.pos, some draft.name.text⟩ := by
      simp only [step] at hstep
      cases hwithin : stepWithin file complete draft cursor token with
      | ok next => simp [hwithin, Except.mapError] at hstep
      | error blame =>
        rw [hwithin] at hstep
        cases hstep
        exact ⟨blame.1, blame.2, rfl, rfl⟩
    obtain ⟨whole, inner, rfl, hwhole, hname, hinner, -⟩ := exists_block_of_run hrun
    have hwhole : Whole file whole :=
      whole_of_run hwhole fun token htoken => hopen token (List.mem_append_left _ htoken)
    have hblock : OpenBlock file draft.name inner :=
      ⟨hname, fun block machine hpart => not_machineBlock_of_run hname hinner hpart⟩
    rcases blame_of_stepWithin hwithin with
      ⟨rfl, hcause⟩ | ⟨rfl, hclosing, hempty, rfl, rfl⟩
    · exact .within rfl hwhole hblock hcause
    · refine .empty rfl hwhole hblock ⟨hclosing, draft.guardResources, draft.actionResources, ?_⟩
      intro eventTokens rules hevent
      exact machineBlock_with_event hname hinner rfl hempty hclosing hevent

/-- Reading stops at a token of the text that the step from the state before it refuses. -/
theorem exists_step_of_readTokens {text : String} {fault : Fault}
    (hscan : Token.scan text = .ok tokens) (hread : readTokens file tokens = .error fault) :
    ∃ before token after state, tokens = before ++ token :: after ∧
      (∀ other ∈ before, other.kind ≠ endOfInput) ∧ run file .start before = (state, none) ∧
      step file state token = .error fault := by
  have hterminated := terminated_of_scanFrom hscan
  unfold readTokens at hread
  cases hrun : run file .start tokens with
  | mk stopped found =>
    rw [hrun] at hread
    cases found with
    | none => cases hread
    | some other =>
      cases hread
      obtain ⟨before, token, after, rfl, hbefore, hstep⟩ := exists_of_run_error hrun
      exact ⟨before, token, after, stopped, rfl, kind_ne_endOfInput_of_terminated hterminated,
        hbefore, hstep⟩

/-- Reading stops at the first wrong token: what stands before it can be completed, and nothing
that begins with it as well is accepted. -/
theorem first_wrong_of_readTokens {text : String} {fault : Fault}
    (hscan : Token.scan text = .ok tokens) (hread : readTokens file tokens = .error fault) :
    ∃ before token after, tokens = before ++ token :: after ∧ Viable file before ∧
      (∀ later machines, readTokens file (before ++ token :: later) ≠ .ok machines) ∧
      Located file before token fault := by
  obtain ⟨before, token, after, state, rfl, hopen, hbefore, hstep⟩ :=
    exists_step_of_readTokens hscan hread
  refine ⟨before, token, after, rfl, viable_of_run hbefore hopen, ?_,
    located_of_step hbefore hopen hstep⟩
  intro later machines haccepted
  rw [readTokens, run_append hbefore] at haccepted
  simp [run, hstep] at haccepted

/-- A line goes on behind its target: the second arrow is the first wrong token. -/
theorem first_wrong_of_second_arrow :
    ∃ tokens fault, Token.scan "M { Go { A => B => C } }" = .ok tokens ∧
      readTokens "m" tokens = .error fault ∧ fault.pos = ⟨1, 17⟩ ∧ fault.machine = some "M" ∧
      ∃ before token after, tokens = before ++ token :: after ∧ Viable "m" before ∧
        (∀ later machines, readTokens "m" (before ++ token :: later) ≠ .ok machines) ∧
        Located "m" before token fault := by
  let fault : Fault :=
    ⟨.expected identifier (.sourceState "Go") ⟨TokenKind.arrow, "=>", ⟨1, 17⟩⟩, ⟨1, 17⟩, some "M"⟩
  have hread : read "m" "M { Go { A => B => C } }" = .error fault := by decide +kernel
  cases hscan : Token.scan "M { Go { A => B => C } }" with
  | error scanFault =>
    rw [read, hscan] at hread
    simp [fault, Fault.ofScan] at hread
  | ok tokens =>
    rw [read, hscan] at hread
    exact ⟨tokens, fault, rfl, hread, rfl, rfl, first_wrong_of_readTokens hscan hread⟩

end FsmCompiler.Reader
