/-
# Reading blocks

What the automaton that reads machines makes of the tokens that are still to come.
For every cursor one step is stated as an equivalence; from these follows,
construct by construct, what stands between a cursor and the one behind the
construct.
-/

import FsmCompiler.Proofs.Grammar

namespace FsmCompiler.Reader

open Grammar TokenKind

variable {file : String} {complete : List Machine} {draft : Draft} {tokens : List Token}
  {machines : List Machine}

/-- From `state` on, the tokens are read without a fault and end between machines. -/
def Accepts (file : String) (state : State) (tokens : List Token) (machines : List Machine) :
    Prop :=
  run file state tokens = (.between machines, none)

/-! ## One step -/

theorem accepts_nil_iff {state : State} :
    Accepts file state [] machines ↔ state = .between machines := by
  simp [Accepts, run]

theorem accepts_cons_iff {state : State} {token : Token} :
    Accepts file state (token :: tokens) machines ↔
      ∃ next, step file state token = .ok next ∧ Accepts file next tokens machines := by
  simp only [Accepts, run]
  cases hstep : step file state token with
  | ok next => simp
  | error fault => simp

theorem mapError_eq_ok_iff {ε δ α : Type} {result : Except ε α} {f : ε → δ} {value : α} :
    result.mapError f = .ok value ↔ result = .ok value := by
  constructor
  · intro hmapped
    cases result <;> cases hmapped
    rfl
  · rintro rfl
    rfl

theorem step_within_eq_ok_iff {cursor : Cursor} {token : Token} {next : State} :
    step file (.within complete draft cursor) token = .ok next ↔
      stepWithin file complete draft cursor token = .ok next :=
  mapError_eq_ok_iff

theorem step_between_eq_ok_iff {token : Token} {next : State} :
    step file (.between complete) token = .ok next ↔ stepBetween complete token = .ok next :=
  mapError_eq_ok_iff

theorem require_eq_ok_iff {wanted : TokenKind} {purpose : Purpose} {token : Token}
    {state next : State} :
    require wanted purpose token state = .ok next ↔ token.kind = wanted ∧ state = next := by
  unfold require
  split <;> simp_all

/-- Within a machine at least one more token is read. -/
theorem accepts_within_iff {cursor : Cursor} :
    Accepts file (.within complete draft cursor) tokens machines ↔
      ∃ token rest next, tokens = token :: rest ∧
        stepWithin file complete draft cursor token = .ok next ∧
        Accepts file next rest machines := by
  cases tokens with
  | nil => simp [accepts_nil_iff]
  | cons token rest =>
    simp only [accepts_cons_iff, step_within_eq_ok_iff]
    constructor
    · rintro ⟨next, hstep, hrest⟩
      exact ⟨token, rest, next, rfl, hstep, hrest⟩
    · rintro ⟨_, _, next, heq, hstep, hrest⟩
      cases heq
      exact ⟨next, hstep, hrest⟩

/-- What `R` says of tokens within a block it says of the tokens behind one more step. Where
another block may begin, nothing is asked of it. -/
def Follows (file : String) (R : State → List Token → Prop) : Prop :=
  ∀ {complete : List Machine} {draft : Draft} {cursor : Cursor} {tokens : List Token},
    cursor ≠ .body → (R (.within complete draft cursor) tokens ↔
      ∃ token rest next, tokens = token :: rest ∧
        stepWithin file complete draft cursor token = .ok next ∧ R next rest)

theorem follows_accepts : Follows file (Accepts file · · machines) :=
  fun _ => accepts_within_iff

/-- A cursor that asks for one kind of token. -/
theorem Follows.require_iff {R : State → List Token → Prop} (hfollows : Follows file R)
    {cursor : Cursor} {wanted : TokenKind} {purpose : Purpose} {after : Token → State}
    (hcursor : cursor ≠ .body)
    (hstep : ∀ token, stepWithin file complete draft cursor token =
      require wanted purpose token (after token)) :
    R (.within complete draft cursor) tokens ↔
      ∃ token rest, tokens = token :: rest ∧ token.kind = wanted ∧ R (after token) rest := by
  rw [hfollows hcursor]
  simp only [hstep, require_eq_ok_iff]
  constructor
  · rintro ⟨token, rest, next, rfl, ⟨hkind, rfl⟩, hrest⟩
    exact ⟨token, rest, rfl, hkind, hrest⟩
  · rintro ⟨token, rest, rfl, hkind, hrest⟩
    exact ⟨token, rest, _, rfl, ⟨hkind, rfl⟩, hrest⟩

theorem accepts_of_require {cursor : Cursor} {wanted : TokenKind} {purpose : Purpose}
    {after : Token → State} (hcursor : cursor ≠ .body)
    (hstep : ∀ token, stepWithin file complete draft cursor token =
      require wanted purpose token (after token)) :
    Accepts file (.within complete draft cursor) tokens machines ↔
      ∃ token rest, tokens = token :: rest ∧ token.kind = wanted ∧
        Accepts file (after token) rest machines :=
  follows_accepts.require_iff hcursor hstep

/-! ## Types -/

/-- The closing brackets due behind a token of a type, innermost first; none if the
token cannot stand there. -/
def closersAfter (closers : List TokenKind) (kind : TokenKind) : Option (List TokenKind) :=
  match kind with
  | leftBracket => some (rightBracket :: closers)
  | leftParen => some (rightParen :: closers)
  | rightBracket | rightParen =>
    match closers with
    | due :: closers => if due = kind then some closers else none
    | [] => none
  | comma => if closers = [] then none else some closers
  | identifier | number | string | dot | pipe => some closers
  | _ => none

/-- The state behind a resource that a comma or a brace ends. -/
def afterResource (file : String) (complete : List Machine) (draft : Draft) (keyword : String)
    (name : Token) (type : List Token) (stop : Token) : State :=
  .within complete
    (draft.addResource ⟨name.text, TypeText.ofTokens type, some (name.pos.inFile file)⟩)
    (if stop.kind = comma then .resourceName keyword else .body)

/-- One token of a type: it ends the type, or it is read as part of it. -/
theorem stepType_eq_ok_iff {keyword : String} {name token : Token} {closers : List TokenKind}
    {read : List Token} {next : State} :
    stepType file complete draft keyword name closers read token = .ok next ↔
      (closers = [] ∧ (token.kind = comma ∨ token.kind = rightBrace) ∧ read ≠ [] ∧
          next = afterResource file complete draft keyword name read token) ∨
        ∃ later, closersAfter closers token.kind = some later ∧
          next = .within complete draft
            (.resourceType keyword name later (read ++ [token])) := by
  cases closers with
  | nil =>
    cases hkind : token.kind <;>
      by_cases hread : read = [] <;>
      simp [stepType, hkind, hread, closersAfter, afterResource, inType, closer?, eq_comm]
  | cons due closers =>
    cases hkind : token.kind <;>
      simp [stepType, hkind, closersAfter, inType, closer?, eq_comm]
    all_goals
      by_cases hdue : due = rightBracket <;> by_cases hdue' : due = rightParen <;>
      simp [hdue, hdue', eq_comm]

/-- The closing brackets due behind several tokens. -/
def closersAfterAll (closers : List TokenKind) : List Token → Option (List TokenKind)
  | [] => some closers
  | token :: rest => (closersAfter closers token.kind).bind (closersAfterAll · rest)

/-- Tokens that close all brackets that are due, and go on as a type behind the last
of them. -/
inductive Closing : List TokenKind → List Token → Prop
  | done {rest} (hrest : TypeRun false rest) : Closing [] rest
  | close {closer closers inner closing rest} (hinner : TypeRun true inner)
      (hclosing : closing.kind = closer) (hrest : Closing closers rest) :
      Closing (closer :: closers) (inner ++ closing :: rest)

/-- A token that is no bracket may come first. -/
theorem Closing.plain {closers : List TokenKind} {token : Token} (hkind : token.kind.inType)
    (hopening : token.kind.closer? = none)
    (hclosing : token.kind ≠ rightBracket ∧ token.kind ≠ rightParen)
    (hcomma : token.kind = comma → closers ≠ []) (htokens : Closing closers tokens) :
    Closing closers (token :: tokens) := by
  cases htokens with
  | done hrest =>
    exact .done (.plain hkind hopening hclosing (fun h => absurd rfl (hcomma h)) hrest)
  | close hinner hcloser hrest =>
    exact .close (.plain hkind hopening hclosing (fun _ => rfl) hinner) hcloser hrest

/-- A group of brackets may come first. -/
theorem Closing.group {closers : List TokenKind} {opening : Token} {closer : TokenKind}
    (hopening : opening.kind.closer? = some closer)
    (htokens : Closing (closer :: closers) tokens) : Closing closers (opening :: tokens) := by
  cases htokens with
  | close hinner hcloser hrest =>
    subst hcloser
    cases hrest with
    | done hrest => exact .done (.group hopening hinner hrest)
    | close hinner' hcloser' hrest =>
      have hgroup := TypeRun.group hopening hinner hinner'
      simpa using Closing.close hgroup hcloser' hrest

theorem closing_of_closersAfterAll {closers : List TokenKind}
    (hclosers : closersAfterAll closers tokens = some []) : Closing closers tokens := by
  induction tokens generalizing closers with
  | nil =>
    cases hclosers
    exact .done .nil
  | cons token rest ih =>
    simp only [closersAfterAll, Option.bind_eq_some_iff] at hclosers
    obtain ⟨later, hstep, hrest⟩ := hclosers
    have hclosing := ih hrest
    unfold closersAfter at hstep
    split at hstep
    case h_1 hkind =>
      cases hstep
      exact hclosing.group (by rw [hkind]; rfl)
    case h_2 hkind =>
      cases hstep
      exact hclosing.group (by rw [hkind]; rfl)
    case h_3 hkind | h_4 hkind =>
      split at hstep
      · split at hstep
        · rename_i hdue
          cases hstep
          exact .close .nil hdue.symm hclosing
        · cases hstep
      · cases hstep
    case h_5 hkind =>
      split at hstep
      · cases hstep
      · rename_i hopen
        cases hstep
        exact hclosing.plain (by rw [hkind]; rfl) (by rw [hkind]; rfl) (by simp [hkind])
          fun _ => hopen
    case h_6 hkind | h_7 hkind | h_8 hkind | h_9 hkind | h_10 hkind =>
      cases hstep
      exact hclosing.plain (by rw [hkind]; rfl) (by rw [hkind]; rfl) (by simp [hkind])
        (by simp [hkind])
    case h_11 => cases hstep

/-- A nested run leaves the brackets due as they are. -/
theorem closersAfterAll_append {inBrackets : Bool} {type rest : List Token}
    (htype : TypeRun inBrackets type) {closers : List TokenKind}
    (hinside : inBrackets = true → closers ≠ []) :
    closersAfterAll closers (type ++ rest) = closersAfterAll closers rest := by
  induction htype generalizing closers rest with
  | nil => rfl
  | @plain _ token _ hkind hopening hclosing hcomma _ ih =>
    have hstep : closersAfter closers token.kind = some closers := by
      cases htoken : token.kind <;> simp_all [closersAfter, inType, closer?]
    simp [closersAfterAll, hstep, ih hinside]
  | @group _ opening _ closing _ hclosing _ _ ihinner ihrest =>
    have hopen : closersAfter closers opening.kind = some (closing.kind :: closers) := by
      cases hopening : opening.kind <;> simp_all [closersAfter, closer?]
    have hclose : closersAfter (closing.kind :: closers) closing.kind = some closers := by
      cases hopening : opening.kind <;> simp_all [closersAfter, closer?] <;>
        simp [← hclosing]
    simp [closersAfterAll, hopen, hclose, ihinner, ihrest hinside]

/-- Scanning brackets with a stack is what nesting them means. -/
theorem closersAfterAll_eq_nil_iff :
    closersAfterAll [] tokens = some [] ↔ TypeRun false tokens := by
  constructor
  · intro hclosers
    cases closing_of_closersAfterAll hclosers with
    | done hrest => exact hrest
  · intro htype
    have happend : closersAfterAll [] (tokens ++ []) = closersAfterAll [] [] :=
      closersAfterAll_append htype (by simp)
    rwa [List.append_nil] at happend

/-- The rest of a type, up to the comma or the brace that ends it. -/
theorem Follows.resourceType_iff {R : State → List Token → Prop} (hfollows : Follows file R)
    {keyword : String} {name : Token} {closers : List TokenKind} {read : List Token} :
    R (.within complete draft (.resourceType keyword name closers read)) tokens ↔
      ∃ type stop rest, tokens = type ++ stop :: rest ∧
        closersAfterAll closers type = some [] ∧
        (stop.kind = comma ∨ stop.kind = rightBrace) ∧ read ++ type ≠ [] ∧
        R (afterResource file complete draft keyword name (read ++ type) stop) rest := by
  constructor
  · intro hread
    induction tokens generalizing closers read with
    | nil =>
      obtain ⟨_, _, _, heq, -⟩ := (hfollows (by simp)).1 hread
      cases heq
    | cons token tokens ih =>
      obtain ⟨_, _, next, heq, hstep, hrest⟩ := (hfollows (by simp)).1 hread
      cases heq
      rcases stepType_eq_ok_iff.1 hstep with ⟨rfl, hstop, hsome, rfl⟩ | ⟨later, hlater, rfl⟩
      · exact ⟨[], token, tokens, rfl, rfl, hstop, by simpa using hsome, by simpa using hrest⟩
      · obtain ⟨type, stop, rest, rfl, hclosers, hstop, hsome, hafter⟩ := ih hrest
        refine ⟨token :: type, stop, rest, rfl, ?_, hstop, by simp, by simpa using hafter⟩
        simp [closersAfterAll, hlater, hclosers]
  · rintro ⟨type, stop, rest, rfl, hclosers, hstop, hsome, hafter⟩
    induction type generalizing closers read with
    | nil =>
      cases hclosers
      refine (hfollows (by simp)).2 ⟨stop, rest, _, rfl, stepType_eq_ok_iff.2 (.inl ?_), hafter⟩
      exact ⟨rfl, hstop, by simpa using hsome, by simp⟩
    | cons token type ih =>
      simp only [closersAfterAll, Option.bind_eq_some_iff] at hclosers
      obtain ⟨later, hlater, hclosers⟩ := hclosers
      refine (hfollows (by simp)).2 ⟨token, type ++ stop :: rest, _, rfl,
        stepType_eq_ok_iff.2 (.inr ⟨later, hlater, rfl⟩), ?_⟩
      exact ih hclosers (by simp) (by simpa using hafter)

/-! ## Lists of resources and of initial states -/

/-- A cursor that reads items up to the closing brace of a block, one at a time, reads
a comma list of them. -/
theorem commaList_iff {R : State → List Token → Prop} {Item : List Token → α → Prop}
    {add : Draft → α → Draft} {cursor : Cursor}
    (hitem : ∀ draft tokens, R (.within complete draft cursor) tokens ↔
      (∃ closing rest, tokens = closing :: rest ∧ closing.kind = rightBrace ∧
        R (.within complete draft .body) rest) ∨
      ∃ used item stop rest, tokens = used ++ stop :: rest ∧ Item used item ∧
        (stop.kind = comma ∨ stop.kind = rightBrace) ∧
        R (.within complete (add draft item)
          (if stop.kind = comma then cursor else .body)) rest) :
    R (.within complete draft cursor) tokens ↔
      ∃ body items closing rest, tokens = body ++ closing :: rest ∧
        CommaList Item body items ∧ closing.kind = rightBrace ∧
        R (.within complete (items.foldl add draft) .body) rest := by
  constructor
  · intro hread
    induction hlength : tokens.length using Nat.strongRecOn generalizing draft tokens with
    | _ length ih =>
      subst hlength
      rcases (hitem draft tokens).1 hread with
        ⟨closing, rest, rfl, hclosing, hrest⟩ | ⟨used, item, stop, rest, rfl, hused, hstop, hrest⟩
      · exact ⟨[], [], closing, rest, rfl, .nil, hclosing, hrest⟩
      · by_cases hcomma : stop.kind = comma
        · rw [if_pos hcomma] at hrest
          obtain ⟨body, items, closing, after, rfl, hbody, hclosing, hafter⟩ :=
            ih rest.length (by simp; omega) hrest rfl
          exact ⟨used ++ stop :: body, item :: items, closing, after, by simp,
            .cons hused hcomma hbody, hclosing, hafter⟩
        · rw [if_neg hcomma] at hrest
          exact ⟨used, [item], stop, rest, rfl, .last hused, hstop.resolve_left hcomma, hrest⟩
  · rintro ⟨body, items, closing, rest, rfl, hbody, hclosing, hrest⟩
    have hbrace : closing.kind ≠ comma := by simp [hclosing]
    induction hbody generalizing draft with
    | nil => exact (hitem _ _).2 (.inl ⟨closing, rest, rfl, hclosing, hrest⟩)
    | last hused =>
      refine (hitem _ _).2 (.inr ⟨_, _, closing, rest, rfl, hused, .inr hclosing, ?_⟩)
      rwa [if_neg hbrace]
    | @cons used item separator later items hused hcomma _ ih =>
      refine (hitem _ _).2 (.inr ⟨used, item, separator, later ++ closing :: rest, by simp,
        hused, .inl hcomma, ?_⟩)
      rw [if_pos hcomma]
      exact ih hrest

theorem Follows.resourceColon_iff {R : State → List Token → Prop} (hfollows : Follows file R)
    {keyword : String} {name : Token} :
    R (.within complete draft (.resourceColon keyword name)) tokens ↔
      ∃ separator rest, tokens = separator :: rest ∧ separator.kind = colon ∧
        R (.within complete draft (.resourceType keyword name [] [])) rest :=
  hfollows.require_iff (by simp) fun _ => rfl

/-- The closing brace of a resource block, or one resource and what ends it. -/
theorem Follows.resourceName_step {R : State → List Token → Prop} (hfollows : Follows file R)
    {keyword : String} (draft : Draft) (tokens : List Token) :
    R (.within complete draft (.resourceName keyword)) tokens ↔
      (∃ closing rest, tokens = closing :: rest ∧ closing.kind = rightBrace ∧
        R (.within complete draft .body) rest) ∨
      ∃ used item stop rest, tokens = used ++ stop :: rest ∧ ResourceItem file used item ∧
        (stop.kind = comma ∨ stop.kind = rightBrace) ∧
        R (.within complete (draft.addResource item)
          (if stop.kind = comma then .resourceName keyword else .body)) rest := by
  rw [hfollows (by simp)]
  constructor
  · rintro ⟨token, rest, next, rfl, hstep, hrest⟩
    simp only [stepWithin] at hstep
    split at hstep
    · rename_i hbrace
      cases hstep
      exact .inl ⟨token, rest, rfl, hbrace, hrest⟩
    · obtain ⟨hname, rfl⟩ := require_eq_ok_iff.1 hstep
      obtain ⟨separator, rest, rfl, hseparator, hrest⟩ := hfollows.resourceColon_iff.1 hrest
      obtain ⟨type, stop, rest, rfl, hclosers, hstop, hsome, hrest⟩ :=
        hfollows.resourceType_iff.1 hrest
      have htype := closersAfterAll_eq_nil_iff.1 hclosers
      exact .inr ⟨token :: separator :: type, _, stop, rest, rfl,
        .intro hname hseparator htype hsome, hstop, hrest⟩
  · rintro (⟨closing, rest, rfl, hclosing, hrest⟩ | ⟨_, _, stop, rest, rfl, hused, hstop, hrest⟩)
    · exact ⟨closing, rest, _, rfl, by simp [stepWithin, hclosing], hrest⟩
    · cases hused with
      | @intro name separator type hname hseparator htype hsome =>
        refine ⟨name, separator :: type ++ stop :: rest, .within complete draft
          (.resourceColon keyword name), rfl, by simp [stepWithin, require, hname], ?_⟩
        refine hfollows.resourceColon_iff.2 ⟨separator, _, rfl, hseparator, ?_⟩
        exact hfollows.resourceType_iff.2 ⟨type, stop, rest, rfl,
          closersAfterAll_eq_nil_iff.2 htype, hstop, hsome, hrest⟩

/-- The closing brace of a block of initial states, or one of them and what ends it. -/
theorem Follows.initialName_step {R : State → List Token → Prop} (hfollows : Follows file R)
    {keyword : String} (draft : Draft) (tokens : List Token) :
    R (.within complete draft (.initialName keyword)) tokens ↔
      (∃ closing rest, tokens = closing :: rest ∧ closing.kind = rightBrace ∧
        R (.within complete draft .body) rest) ∨
      ∃ used item stop rest, tokens = used ++ stop :: rest ∧ InitialItem file used item ∧
        (stop.kind = comma ∨ stop.kind = rightBrace) ∧
        R (.within complete (draft.addInitial item)
          (if stop.kind = comma then .initialName keyword else .body)) rest := by
  rw [hfollows (by simp)]
  constructor
  · rintro ⟨token, rest, next, rfl, hstep, hrest⟩
    simp only [stepWithin] at hstep
    split at hstep
    · rename_i hbrace
      cases hstep
      exact .inl ⟨token, rest, rfl, hbrace, hrest⟩
    · obtain ⟨hname, rfl⟩ := require_eq_ok_iff.1 hstep
      obtain ⟨stop, rest, next, rfl, hstep, hrest⟩ := (hfollows (by simp)).1 hrest
      refine .inr ⟨[token], _, stop, rest, rfl, .intro hname, ?_⟩
      simp only [stepWithin] at hstep
      split at hstep
      · rename_i hcomma
        cases hstep
        exact ⟨.inl hcomma, by simpa [hcomma] using hrest⟩
      · split at hstep
        · rename_i hcomma hbrace
          cases hstep
          exact ⟨.inr hbrace, by simpa [hcomma] using hrest⟩
        · cases hstep
  · rintro (⟨closing, rest, rfl, hclosing, hrest⟩ | ⟨_, _, stop, rest, rfl, hused, hstop, hrest⟩)
    · exact ⟨closing, rest, _, rfl, by simp [stepWithin, hclosing], hrest⟩
    · cases hused with
      | @intro name hname =>
        refine ⟨name, stop :: rest, .within complete (draft.addInitial (declare file name))
          (.initialEnd keyword name), rfl, by simp [stepWithin, require, hname], ?_⟩
        refine (hfollows (by simp)).2 ⟨stop, rest, _, rfl, ?_, hrest⟩
        rcases hstop with hstop | hstop <;> simp [stepWithin, hstop]

/-! ## Event blocks -/

theorem accepts_sourceEnd_iff {event : Declaration} {sources : List Token} {last : Token} :
    Accepts file (.within complete draft (.sourceEnd event sources last)) tokens machines ↔
      ∃ stop rest, tokens = stop :: rest ∧
        ((stop.kind = comma ∧
            Accepts file (.within complete draft (.source event (sources ++ [last]))) rest
              machines) ∨
          (stop.kind = TokenKind.arrow ∧
            Accepts file (.within complete draft (.target event (sources ++ [last]) stop)) rest
              machines)) := by
  rw [accepts_within_iff]
  constructor
  · rintro ⟨stop, rest, next, rfl, hstep, hrest⟩
    refine ⟨stop, rest, rfl, ?_⟩
    simp only [stepWithin] at hstep
    split at hstep
    · rename_i hcomma
      cases hstep
      exact .inl ⟨hcomma, hrest⟩
    · split at hstep
      · rename_i harrow
        cases hstep
        exact .inr ⟨harrow, hrest⟩
      · cases hstep
  · rintro ⟨stop, rest, rfl, ⟨hcomma, hrest⟩ | ⟨harrow, hrest⟩⟩
    · exact ⟨stop, rest, _, rfl, by simp [stepWithin, hcomma], hrest⟩
    · exact ⟨stop, rest, _, rfl, by simp [stepWithin, harrow], hrest⟩

theorem accepts_source_step {event : Declaration} {sources : List Token} :
    Accepts file (.within complete draft (.source event sources)) tokens machines ↔
      ∃ name rest, tokens = name :: rest ∧ name.kind = identifier ∧
        Accepts file (.within complete draft (.sourceEnd event sources name)) rest machines :=
  accepts_of_require (by simp) fun _ => rfl

theorem accepts_target_iff {event : Declaration} {sources : List Token} {arrow : Token} :
    Accepts file (.within complete draft (.target event sources arrow)) tokens machines ↔
      ∃ target rest, tokens = target :: rest ∧ target.kind = identifier ∧
        Accepts file (.within complete
          (draft.addTransitions (lineTransitions file event sources arrow target))
          (.nextLine event)) rest machines :=
  accepts_of_require (by simp) fun _ => rfl

/-- The source states of a line and its arrow. -/
theorem accepts_source_iff {event : Declaration} {sources : List Token} :
    Accepts file (.within complete draft (.source event sources)) tokens machines ↔
      ∃ used names arrow rest, tokens = used ++ arrow :: rest ∧ SourceList used names ∧
        arrow.kind = TokenKind.arrow ∧
        Accepts file (.within complete draft (.target event (sources ++ names) arrow)) rest
          machines := by
  constructor
  · intro haccepts
    induction hlength : tokens.length using Nat.strongRecOn generalizing sources tokens with
    | ind length ih =>
      subst hlength
      obtain ⟨name, rest, rfl, hname, hrest⟩ := accepts_source_step.1 haccepts
      obtain ⟨stop, rest, rfl, ⟨hcomma, hrest⟩ | ⟨harrow, hrest⟩⟩ :=
        accepts_sourceEnd_iff.1 hrest
      · obtain ⟨used, names, arrow, after, rfl, hused, harrow, hafter⟩ :=
          ih rest.length (by simp only [List.length_cons]; omega) hrest rfl
        exact ⟨name :: stop :: used, name :: names, arrow, after, rfl,
          .cons hname hcomma hused, harrow, by simpa using hafter⟩
      · exact ⟨[name], [name], stop, rest, rfl, .one hname, harrow, hrest⟩
  · rintro ⟨used, names, arrow, rest, rfl, hused, harrow, hrest⟩
    induction hused generalizing sources with
    | @one name hname =>
      refine accepts_source_step.2 ⟨name, arrow :: rest, rfl, hname, ?_⟩
      exact accepts_sourceEnd_iff.2 ⟨arrow, rest, rfl, .inr ⟨harrow, hrest⟩⟩
    | @cons name separator later names hname hcomma _ ih =>
      refine accepts_source_step.2 ⟨name, separator :: later ++ arrow :: rest, rfl, hname, ?_⟩
      refine accepts_sourceEnd_iff.2 ⟨separator, later ++ arrow :: rest, rfl, .inl ⟨hcomma, ?_⟩⟩
      exact ih (by simpa using hrest)

/-- One line of an event block. -/
theorem accepts_line_iff {event : Declaration} :
    Accepts file (.within complete draft (.source event [])) tokens machines ↔
      ∃ used rules rest, tokens = used ++ rest ∧ Line file event used rules ∧
        Accepts file (.within complete (draft.addTransitions rules) (.nextLine event)) rest
          machines := by
  rw [accepts_source_iff]
  constructor
  · rintro ⟨used, names, arrow, rest, rfl, hused, harrow, hrest⟩
    obtain ⟨target, rest, rfl, htarget, hrest⟩ := accepts_target_iff.1 hrest
    exact ⟨used ++ [arrow, target], _, rest, by simp, .intro hused harrow htarget, hrest⟩
  · rintro ⟨_, _, rest, rfl, hline, hrest⟩
    cases hline with
    | @intro used names arrow target hused harrow htarget =>
      exact ⟨used, names, arrow, target :: rest, by simp, hused, harrow,
        accepts_target_iff.2 ⟨target, rest, rfl, htarget, hrest⟩⟩

/-- Behind a line: the closing brace, a separator, or a further line. -/
theorem accepts_nextLine_step {event : Declaration} :
    Accepts file (.within complete draft (.nextLine event)) tokens machines ↔
      (∃ closing rest, tokens = closing :: rest ∧ closing.kind = rightBrace ∧
        Accepts file (.within complete draft .body) rest machines) ∨
      (∃ separator rest, tokens = separator :: rest ∧
        (separator.kind = comma ∨ separator.kind = semicolon) ∧
        Accepts file (.within complete draft (.nextLine event)) rest machines) ∨
      Accepts file (.within complete draft (.source event [])) tokens machines := by
  rw [accepts_within_iff, accepts_source_step]
  constructor
  · rintro ⟨token, rest, next, rfl, hstep, hrest⟩
    simp only [stepWithin] at hstep
    split at hstep
    · rename_i hbrace
      cases hstep
      exact .inl ⟨token, rest, rfl, hbrace, hrest⟩
    · split at hstep
      · rename_i hseparator
        cases hstep
        exact .inr (.inl ⟨token, rest, rfl, hseparator, hrest⟩)
      · obtain ⟨hname, rfl⟩ := require_eq_ok_iff.1 hstep
        exact .inr (.inr ⟨token, rest, rfl, hname, hrest⟩)
  · rintro (⟨closing, rest, rfl, hclosing, hrest⟩ | ⟨separator, rest, rfl, hseparator, hrest⟩ |
      ⟨name, rest, rfl, hname, hrest⟩)
    · exact ⟨closing, rest, _, rfl, by simp [stepWithin, hclosing], hrest⟩
    · refine ⟨separator, rest, _, rfl, ?_, hrest⟩
      rcases hseparator with hseparator | hseparator <;> simp [stepWithin, hseparator]
    · exact ⟨name, rest, _, rfl, by simp [stepWithin, require, hname], hrest⟩

/-- Behind a line: separators, and then the closing brace or a further line. -/
theorem accepts_nextLine_iff {event : Declaration} :
    Accepts file (.within complete draft (.nextLine event)) tokens machines ↔
      ∃ separators after, tokens = separators ++ after ∧ Separators separators ∧
        ((∃ closing rest, after = closing :: rest ∧ closing.kind = rightBrace ∧
            Accepts file (.within complete draft .body) rest machines) ∨
          Accepts file (.within complete draft (.source event [])) after machines) := by
  constructor
  · intro haccepts
    induction tokens with
    | nil => simp [accepts_nil_iff] at haccepts
    | cons token tokens ih =>
      rcases accepts_nextLine_step.1 haccepts with
        hclosed | ⟨separator, rest, heq, hseparator, hrest⟩ | hline
      · exact ⟨[], token :: tokens, rfl, .nil, .inl hclosed⟩
      · cases heq
        obtain ⟨separators, after, rfl, hseparators, hafter⟩ := ih hrest
        exact ⟨token :: separators, after, rfl, .cons hseparator hseparators, hafter⟩
      · exact ⟨[], token :: tokens, rfl, .nil, .inr hline⟩
  · rintro ⟨separators, after, rfl, hseparators, hafter⟩
    induction separators with
    | nil => exact accepts_nextLine_step.2 (hafter.elim .inl fun hline => .inr (.inr hline))
    | cons separator separators ih =>
      refine accepts_nextLine_step.2 (.inr (.inl ⟨separator, separators ++ after, rfl,
        hseparators separator (by simp), ?_⟩))
      exact ih fun other hmem => hseparators other (by simp [hmem])

theorem addTransitions_addTransitions (first second : List Transition) :
    (draft.addTransitions first).addTransitions second =
      draft.addTransitions (first ++ second) := by
  simp [Draft.addTransitions]

/-- The lines of an event block and its closing brace. -/
theorem accepts_lineRun_iff {event : Declaration} :
    Accepts file (.within complete draft (.source event [])) tokens machines ↔
      ∃ body rules closing rest, tokens = body ++ closing :: rest ∧
        LineRun file event body rules ∧ closing.kind = rightBrace ∧
        Accepts file (.within complete (draft.addTransitions rules) .body) rest machines := by
  constructor
  · intro haccepts
    induction hlength : tokens.length using Nat.strongRecOn generalizing draft tokens with
    | ind length ih =>
      subst hlength
      obtain ⟨used, rules, rest, rfl, hline, hrest⟩ := accepts_line_iff.1 haccepts
      obtain ⟨separators, after, rfl, hseparators,
        ⟨closing, rest, rfl, hclosing, hrest⟩ | hafter⟩ := accepts_nextLine_iff.1 hrest
      · exact ⟨used ++ separators, rules, closing, rest, by simp, .one hline hseparators,
          hclosing, hrest⟩
      · have hshorter : after.length < (used ++ (separators ++ after)).length := by
          cases hline
          simp
          omega
        obtain ⟨body, later, closing, rest, rfl, hbody, hclosing, hrest⟩ :=
          ih after.length hshorter hafter rfl
        refine ⟨used ++ separators ++ body, rules ++ later, closing, rest, by simp,
          .cons hline hseparators hbody, hclosing, ?_⟩
        rwa [addTransitions_addTransitions] at hrest
  · rintro ⟨body, rules, closing, rest, rfl, hbody, hclosing, hrest⟩
    induction hbody generalizing draft with
    | @one used rules separators hline hseparators =>
      refine accepts_line_iff.2 ⟨used, rules, separators ++ closing :: rest, by simp, hline, ?_⟩
      exact accepts_nextLine_iff.2 ⟨separators, closing :: rest, rfl, hseparators,
        .inl ⟨closing, rest, rfl, hclosing, hrest⟩⟩
    | @cons used rules separators body later hline hseparators _ ih =>
      refine accepts_line_iff.2 ⟨used, rules, separators ++ (body ++ closing :: rest), by simp,
        hline, ?_⟩
      refine accepts_nextLine_iff.2 ⟨separators, body ++ closing :: rest, rfl, hseparators,
        .inr (ih ?_)⟩
      rwa [addTransitions_addTransitions]

theorem accepts_eventOpening_iff {event : Declaration} :
    Accepts file (.within complete draft (.eventOpening event)) tokens machines ↔
      ∃ opening rest, tokens = opening :: rest ∧ opening.kind = leftBrace ∧
        Accepts file (.within complete draft (.source event [])) rest machines := by
  have hfirst : ∀ rest, Accepts file (.within complete draft (.firstLine event)) rest machines ↔
      Accepts file (.within complete draft (.source event [])) rest machines := by
    intro rest
    rw [accepts_within_iff, accepts_source_step]
    constructor
    · rintro ⟨token, rest, next, rfl, hstep, hrest⟩
      simp only [stepWithin] at hstep
      split at hstep
      · cases hstep
      · obtain ⟨hname, rfl⟩ := require_eq_ok_iff.1 hstep
        exact ⟨token, rest, rfl, hname, hrest⟩
    · rintro ⟨name, rest, rfl, hname, hrest⟩
      exact ⟨name, rest, _, rfl, by simp [stepWithin, require, hname], hrest⟩
  rw [accepts_of_require (by simp) fun _ => rfl]
  simp only [hfirst]

/-! ## The parts of a machine body -/

/-- The place of the last part that has begun; zero if none has. -/
def Draft.rank (draft : Draft) : Nat := (draft.part.map Part.rank).getD 0

@[simp] theorem Draft.rank_mk {name : Token} {part : Option Part}
    {guards actions : List Resource} {states : List Declaration} {rules : List Transition} :
    (Draft.mk name part guards actions states rules).rank = (part.map Part.rank).getD 0 := rfl

theorem Draft.allows_iff {part : Part} : draft.allows part = true ↔ draft.rank < part.rank := by
  unfold Draft.allows Draft.rank
  cases hpart : draft.part with
  | none => cases part <;> simp [Part.rank]
  | some last => simp

theorem foldl_addResource_guards (draft : Draft) (resources : List Resource)
    (hpart : draft.part = some .guardResources) :
    resources.foldl Draft.addResource draft =
      { draft with guardResources := draft.guardResources ++ resources } := by
  induction resources generalizing draft with
  | nil => simp
  | cons resource rest ih =>
    rw [List.foldl_cons, ih _ (by simp [Draft.addResource, hpart])]
    simp [Draft.addResource, hpart]

theorem foldl_addResource_actions (draft : Draft) (resources : List Resource)
    (hpart : draft.part = some .actionResources) :
    resources.foldl Draft.addResource draft =
      { draft with actionResources := draft.actionResources ++ resources } := by
  induction resources generalizing draft with
  | nil => simp
  | cons resource rest ih =>
    rw [List.foldl_cons, ih _ (by simp [Draft.addResource, hpart])]
    simp [Draft.addResource, hpart]

theorem foldl_addInitial (draft : Draft) (states : List Declaration) :
    states.foldl Draft.addInitial draft =
      { draft with initialStates := draft.initialStates ++ states } := by
  induction states generalizing draft with
  | nil => simp
  | cons state rest ih =>
    rw [List.foldl_cons, ih]
    simp [Draft.addInitial]

/-- A resource block behind its keyword. -/
theorem Follows.resourcesOpening_iff {R : State → List Token → Prop} (hfollows : Follows file R)
    {keyword : String} :
    R (.within complete draft (.resourcesOpening keyword)) tokens ↔
      ∃ opening body resources closing rest, tokens = opening :: body ++ closing :: rest ∧
        opening.kind = leftBrace ∧ CommaList (ResourceItem file) body resources ∧
        closing.kind = rightBrace ∧
        R (.within complete (resources.foldl Draft.addResource draft) .body) rest := by
  rw [hfollows.require_iff (by simp) fun _ => rfl]
  simp only [commaList_iff hfollows.resourceName_step]
  constructor
  · rintro ⟨opening, _, rfl, hopening, body, resources, closing, rest, rfl, hrest⟩
    exact ⟨opening, body, resources, closing, rest, rfl, hopening, hrest⟩
  · rintro ⟨opening, body, resources, closing, rest, rfl, hopening, hrest⟩
    exact ⟨opening, _, rfl, hopening, body, resources, closing, rest, rfl, hrest⟩

/-- A block of initial states behind its keyword. -/
theorem Follows.initialsOpening_iff {R : State → List Token → Prop} (hfollows : Follows file R)
    {keyword : String} :
    R (.within complete draft (.initialsOpening keyword)) tokens ↔
      ∃ opening body states closing rest, tokens = opening :: body ++ closing :: rest ∧
        opening.kind = leftBrace ∧ CommaList (InitialItem file) body states ∧
        closing.kind = rightBrace ∧
        R (.within complete (states.foldl Draft.addInitial draft) .body) rest := by
  rw [hfollows.require_iff (by simp) fun _ => rfl]
  simp only [commaList_iff hfollows.initialName_step]
  constructor
  · rintro ⟨opening, _, rfl, hopening, body, states, closing, rest, rfl, hrest⟩
    exact ⟨opening, body, states, closing, rest, rfl, hopening, hrest⟩
  · rintro ⟨opening, body, states, closing, rest, rfl, hopening, hrest⟩
    exact ⟨opening, _, rfl, hopening, body, states, closing, rest, rfl, hrest⟩

/-- Where a block may begin: a semicolon, the closing brace of the machine, the name of
an event, or a keyword whose part may still come. -/
theorem accepts_body_step :
    Accepts file (.within complete draft .body) tokens machines ↔
      ∃ token rest, tokens = token :: rest ∧
        ((token.kind = semicolon ∧ Accepts file (.within complete draft .body) rest machines) ∨
          (token.kind = rightBrace ∧ draft.isEmpty = false ∧
            Accepts file (.between (complete ++ [draft.machine file])) rest machines) ∨
          (token.kind = identifier ∧
            Accepts file (.within complete { draft with part := some .events }
              (.eventOpening (declare file token))) rest machines) ∨
          ∃ part, Part.ofKeyword? token.kind = some part ∧ draft.rank < part.rank ∧
            Accepts file (.within complete { draft with part := some part }
              (if part = .initialStates then .initialsOpening token.text
                else .resourcesOpening token.text)) rest machines) := by
  rw [accepts_within_iff]
  constructor
  · rintro ⟨token, rest, next, rfl, hstep, hrest⟩
    refine ⟨token, rest, rfl, ?_⟩
    simp only [stepWithin, stepBody] at hstep
    split at hstep
    · rename_i hkind
      cases hstep
      exact .inl ⟨hkind, hrest⟩
    · rename_i hkind
      split at hstep
      · cases hstep
      · rename_i hempty
        cases hstep
        exact .inr (.inl ⟨hkind, by simpa using hempty, hrest⟩)
    · rename_i hkind
      cases hstep
      exact .inr (.inr (.inl ⟨hkind, hrest⟩))
    · split at hstep
      · cases hstep
      · rename_i part hpart
        split at hstep
        · rename_i hallows
          cases hstep
          exact .inr (.inr (.inr ⟨part, hpart, Draft.allows_iff.1 hallows, hrest⟩))
        · cases hstep
  · rintro ⟨token, rest, rfl, ⟨hkind, hrest⟩ | ⟨hkind, hempty, hrest⟩ | ⟨hkind, hrest⟩ |
      ⟨part, hpart, hrank, hrest⟩⟩
    · exact ⟨token, rest, _, rfl, by simp [stepWithin, stepBody, hkind], hrest⟩
    · exact ⟨token, rest, _, rfl, by simp [stepWithin, stepBody, hkind, hempty], hrest⟩
    · exact ⟨token, rest, _, rfl, by simp [stepWithin, stepBody, hkind], hrest⟩
    · refine ⟨token, rest, _, rfl, ?_, hrest⟩
      have hallows := Draft.allows_iff.2 hrank
      cases hkind : token.kind <;> rw [hkind] at hpart <;> cases hpart <;>
        simp [stepWithin, stepBody, hkind, Part.ofKeyword?, hallows]

end FsmCompiler.Reader
