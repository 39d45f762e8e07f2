/-
# Ways to write the same machines

A line with several source states stands for several lines, and an event block with several
lines for several blocks of the event; separators may be written or left out, and one keyword
has a short form. Where tokens are replaced by others that stand for the same, what is read
from them, and from whatever is behind them, is the same.
-/

import FsmCompiler.Proofs.Leading

namespace FsmCompiler.Grammar

open TokenKind

/-! ## Places in a file -/

/-- Tokens up to a place between the blocks of a machine. -/
inductive OpenBody (file : String) : List Token → Prop
  | intro {whole name opening separators guardTokens actionTokens initialTokens eventTokens}
      {guards actions : List Resource} {initials : List Declaration} {rules : List Transition}
      (hwhole : Reader.Whole file whole) (hname : name.kind = identifier)
      (hopening : opening.kind = leftBrace) (hseparators : Semicolons separators)
      (hguards : Optional (ResourceBlock file guardResources) guardTokens guards)
      (hactions : Optional (ResourceBlock file actionResources) actionTokens actions)
      (hinitials : Optional (InitialBlock file) initialTokens initials)
      (hevents : EventRun file eventTokens rules) :
      OpenBody file (whole ++ ([name, opening] ++ separators ++ guardTokens ++ actionTokens ++
        initialTokens ++ eventTokens))

/-- The first machine of a text begins. -/
theorem OpenBody.first {file : String} {name opening : Token} (hname : name.kind = identifier)
    (hopening : opening.kind = leftBrace) : OpenBody file [name, opening] := by
  have hwhole : Reader.Whole file [] := ⟨[], fun _ hending => .intro .nil .nil hending⟩
  have hbody : OpenBody file ([] ++ ([name, opening] ++ [] ++ [] ++ [] ++ [] ++ [])) :=
    .intro hwhole hname hopening .nil .absent .absent .absent .nil
  simpa using hbody

/-- Tokens up to a place behind a line of an event block. -/
inductive BehindLine (file : String) : List Token → Prop
  | intro {front name opening lines rules} (hfront : OpenBody file front)
      (hname : name.kind = identifier) (hopening : opening.kind = leftBrace)
      (hlines : LineRun file (Reader.declare file name) lines rules) :
      BehindLine file (front ++ [name, opening] ++ lines)

/-- Tokens up to a place where a line of an event block may begin. -/
inductive BeforeLine (file : String) : List Token → Prop
  | first {front name opening} (hfront : OpenBody file front) (hname : name.kind = identifier)
      (hopening : opening.kind = leftBrace) : BeforeLine file (front ++ [name, opening])
  | next {front} (hfront : BehindLine file front) : BeforeLine file front

/-- One item or more with commas between them, and no comma behind the last. -/
inductive CommaSeparated (Item : List Token → α → Prop) : List Token → List α → Prop
  | one {tokens item} (hitem : Item tokens item) : CommaSeparated Item tokens [item]
  | cons {tokens item separator rest items} (hitem : Item tokens item)
      (hseparator : separator.kind = comma) (hrest : CommaSeparated Item rest items) :
      CommaSeparated Item (tokens ++ separator :: rest) (item :: items)

/-! ## What may be written for what -/

/-- Behind the tokens `front`, the tokens `old` and the tokens `new` are two ways to write the
same. -/
inductive Sugar (file : String) : (front old new : List Token) → Prop
  /-- A semicolon between machines. -/
  | betweenMachines {front separator} (hfront : Reader.Whole file front)
      (hseparator : separator.kind = semicolon) : Sugar file front [] [separator]
  /-- A semicolon between blocks. -/
  | betweenBlocks {front separator} (hfront : OpenBody file front)
      (hseparator : separator.kind = semicolon) : Sugar file front [] [separator]
  /-- A comma or a semicolon behind a line. -/
  | behindLine {front separator} (hfront : BehindLine file front)
      (hseparator : separator.kind = comma ∨ separator.kind = semicolon) :
      Sugar file front [] [separator]
  /-- A comma behind the last resource of a block. -/
  | lastResource {front keyword opening body resources separator closing}
      (hfront : OpenBody file front)
      (hkeyword : keyword.kind = guardResources ∨ keyword.kind = actionResources)
      (hopening : opening.kind = leftBrace)
      (hbody : CommaSeparated (ResourceItem file) body resources)
      (hseparator : separator.kind = comma) (hclosing : closing.kind = rightBrace) :
      Sugar file front (keyword :: opening :: body ++ [closing])
        (keyword :: opening :: (body ++ [separator]) ++ [closing])
  /-- A comma behind the last initial state of a block. -/
  | lastInitial {front keyword opening body initials separator closing}
      (hfront : OpenBody file front)
      (hkeyword : keyword.kind = initialStates ∨ keyword.kind = states)
      (hopening : opening.kind = leftBrace)
      (hbody : CommaSeparated (InitialItem file) body initials)
      (hseparator : separator.kind = comma) (hclosing : closing.kind = rightBrace) :
      Sugar file front (keyword :: opening :: body ++ [closing])
        (keyword :: opening :: (body ++ [separator]) ++ [closing])
  /-- A line with several source states, and a line for each of them. -/
  | splitLine {front sources names arrow target} (hfront : BeforeLine file front)
      (hsources : SourceList sources names) (harrow : arrow.kind = TokenKind.arrow)
      (htarget : target.kind = identifier) :
      Sugar file front (sources ++ [arrow, target])
        (names.flatMap fun name => [name, arrow, target])
  /-- An event block, and two blocks of the event with its lines. -/
  | splitEvent {front name opening first second rules later closing}
      (hfront : OpenBody file front) (hname : name.kind = identifier)
      (hopening : opening.kind = leftBrace)
      (hfirst : LineRun file (Reader.declare file name) first rules)
      (hsecond : LineRun file (Reader.declare file name) second later)
      (hclosing : closing.kind = rightBrace) :
      Sugar file front (name :: opening :: (first ++ second) ++ [closing])
        ((name :: opening :: first ++ [closing]) ++ (name :: opening :: second ++ [closing]))
  /-- The two keywords for a block of initial states. -/
  | keyword {front old new} (hold : old.kind = initialStates ∨ old.kind = states)
      (hnew : new.kind = initialStates ∨ new.kind = states) : Sugar file front [old] [new]

section Lists

variable {α : Type} {Item : List Token → α → Prop} {tokens : List Token} {items : List α}

theorem CommaSeparated.commaList (hitems : CommaSeparated Item tokens items) :
    CommaList Item tokens items := by
  induction hitems with
  | one hitem => exact .last hitem
  | cons hitem hseparator _ ih => exact .cons hitem hseparator ih

theorem CommaSeparated.commaList_trailing {separator : Token}
    (hitems : CommaSeparated Item tokens items) (hseparator : separator.kind = comma) :
    CommaList Item (tokens ++ [separator]) items := by
  induction hitems with
  | one hitem => exact .cons hitem hseparator .nil
  | cons hitem hcomma _ ih =>
    rw [List.append_assoc, List.cons_append]
    exact .cons hitem hcomma ih

/-- Lines of one block can be put one behind the other. -/
theorem LineRun.append {file : String} {event : Declaration} {first second : List Token}
    {rules later : List Transition} (hfirst : LineRun file event first rules)
    (hsecond : LineRun file event second later) :
    LineRun file event (first ++ second) (rules ++ later) := by
  induction hfirst with
  | one hline hseparators => exact .cons hline hseparators hsecond
  | cons hline hseparators _ ih =>
    rw [List.append_assoc _ _ second, List.append_assoc _ _ later]
    exact .cons hline hseparators ih

end Lists

end FsmCompiler.Grammar

namespace FsmCompiler.Reader

open Grammar TokenKind

variable {file : String} {complete machines : List Machine} {draft : Draft} {cursor : Cursor}
  {front old new used rest : List Token} {event : Declaration} {state next : State}

/-! ## Where the places are -/

theorem exists_leads_optional {Block : List Token → List α → Prop} {items : List α} {part : Part}
    (hblock : Optional Block used items) (hrank : draft.rank < part.rank)
    (hleads : ∀ {used items}, Block used items → draft.rank < part.rank →
      ∃ later : Draft, later.rank = part.rank ∧ Leads file (.within complete draft .body) used
        (.within complete later .body)) :
    ∃ later : Draft, later.rank ≤ part.rank ∧
      Leads file (.within complete draft .body) used (.within complete later .body) := by
  cases hblock with
  | absent => exact ⟨draft, Nat.le_of_lt hrank, .nil⟩
  | present hused hseparators =>
    obtain ⟨later, hlater, hused⟩ := hleads hused hrank
    exact ⟨later, Nat.le_of_eq hlater, hused.append (leads_semicolons hseparators)⟩

theorem exists_leads_openBody (hfront : OpenBody file front) :
    ∃ complete draft, Leads file .start front (.within complete draft .body) := by
  cases hfront with
  | @intro whole name opening _ _ _ _ _ _ _ _ _ hwhole hname hopening hseparators hguards hactions
      hinitials hevents =>
    obtain ⟨complete, hwhole⟩ := leads_of_whole hwhole
    have hopened : Leads file (.between complete) [name, opening]
        (.within complete (.ofName name) .body) := by
      simp [Leads, run, step, stepBetween, stepWithin, require, hname, hopening, Except.mapError]
    have hstart : (Draft.ofName name).rank < Part.guardResources.rank := Nat.zero_lt_one
    obtain ⟨guarded, hrank, hguards⟩ := exists_leads_optional hguards hstart
      fun hblock hrank => ⟨_, rfl, leads_guards hblock hrank⟩
    obtain ⟨acting, hrank, hactions⟩ := exists_leads_optional hactions (Nat.lt_succ_of_le hrank)
      fun hblock hrank => ⟨_, rfl, leads_actions hblock hrank⟩
    obtain ⟨started, -, hinitials⟩ := exists_leads_optional hinitials (Nat.lt_succ_of_le hrank)
      fun hblock hrank => ⟨_, rfl, leads_initials hblock hrank⟩
    obtain ⟨later, hevents⟩ := exists_leads_eventRun hevents
    exact ⟨complete, later, hwhole.append (((((hopened.append
      (leads_semicolons hseparators)).append hguards).append hactions).append hinitials).append
        hevents)⟩

theorem exists_leads_behindLine (hfront : BehindLine file front) :
    ∃ complete draft event, Leads file .start front (.within complete draft (.nextLine event)) := by
  cases hfront with
  | intro hfront hname hopening hlines =>
    obtain ⟨complete, draft, hfront⟩ := exists_leads_openBody hfront
    exact ⟨complete, _, _, (hfront.append (leads_eventOpening hname hopening)).append
      (leads_lineRun .first hlines)⟩

theorem exists_leads_beforeLine (hfront : BeforeLine file front) :
    ∃ complete draft cursor event, cursor.AtLine event ∧
      Leads file .start front (.within complete draft cursor) := by
  cases hfront with
  | first hfront hname hopening =>
    obtain ⟨complete, draft, hfront⟩ := exists_leads_openBody hfront
    exact ⟨complete, _, _, _, .first, hfront.append (leads_eventOpening hname hopening)⟩
  | next hfront =>
    obtain ⟨complete, draft, event, hfront⟩ := exists_leads_behindLine hfront
    exact ⟨complete, draft, _, event, .next, hfront⟩

/-! ## The same state behind -/

/-- What leads to the same state can be exchanged. -/
theorem accepts_exchange (hfront : Leads file .start front state) (hold : Leads file state old next)
    (hnew : Leads file state new next) :
    Accepts file .start (front ++ old ++ rest) machines ↔
      Accepts file .start (front ++ new ++ rest) machines := by
  rw [Accepts, Accepts, run_append (hfront.append hold), run_append (hfront.append hnew)]

/-- Where a block is read, its part may still come. -/
theorem rank_lt_of_accepts {part : Part} {token : Token}
    (hpart : Part.ofKeyword? token.kind = some part)
    (haccepts : Accepts file (.within complete draft .body) (token :: rest) machines) :
    draft.rank < part.rank := by
  obtain ⟨_, _, heq, hcases⟩ := accepts_body_step.1 haccepts
  obtain ⟨rfl, rfl⟩ := List.cons.inj heq
  rcases hcases with ⟨hkind, -⟩ | ⟨hkind, -⟩ | ⟨hkind, -⟩ | ⟨_, hother, hrank, -⟩
  · simp [hkind, Part.ofKeyword?] at hpart
  · simp [hkind, Part.ofKeyword?] at hpart
  · simp [hkind, Part.ofKeyword?] at hpart
  · cases hpart.symm.trans hother
    exact hrank

/-- Blocks of one part that lead to the same state can be exchanged: where the part may not come
any more, neither is read. -/
theorem accepts_exchange_block {part : Part} {token : Token}
    (hfront : Leads file .start front (.within complete draft .body))
    (hpart : Part.ofKeyword? token.kind = some part)
    (hold : draft.rank < part.rank →
      Leads file (.within complete draft .body) (token :: old) next)
    (hnew : draft.rank < part.rank →
      Leads file (.within complete draft .body) (token :: new) next) :
    Accepts file .start (front ++ token :: old ++ rest) machines ↔
      Accepts file .start (front ++ token :: new ++ rest) machines := by
  have hrank : ∀ {behind : List Token},
      Accepts file .start (front ++ token :: behind ++ rest) machines → draft.rank < part.rank := by
    intro behind haccepts
    rw [Accepts, List.append_assoc, run_append hfront] at haccepts
    exact rank_lt_of_accepts hpart haccepts
  constructor
  · intro haccepts
    have hrank := hrank haccepts
    exact (accepts_exchange hfront (hold hrank) (hnew hrank)).1 haccepts
  · intro haccepts
    have hrank := hrank haccepts
    exact (accepts_exchange hfront (hold hrank) (hnew hrank)).2 haccepts

/-- A line for each source state leads where the line of all of them leads. -/
theorem leads_split {names sources : List Token} {arrow target : Token}
    (hsources : SourceList sources names) (harrow : arrow.kind = TokenKind.arrow)
    (htarget : target.kind = identifier) (hcursor : cursor.AtLine event) :
    Leads file (.within complete draft cursor) (names.flatMap fun name => [name, arrow, target])
      (.within complete (draft.addTransitions (lineTransitions file event names arrow target))
        (.nextLine event)) := by
  have hsingle : ∀ {name : Token} {draft : Draft} {cursor : Cursor}, name.kind = identifier →
      cursor.AtLine event → Leads file (.within complete draft cursor) [name, arrow, target]
        (.within complete (draft.addTransitions (lineTransitions file event [name] arrow target))
          (.nextLine event)) :=
    fun hname hcursor => leads_line hcursor (.intro (.one hname) harrow htarget)
  induction hsources generalizing draft cursor with
  | one hname => exact hsingle hname hcursor
  | @cons name _ _ names hname _ _ ih =>
    have hrules : lineTransitions file event (name :: names) arrow target =
        lineTransitions file event [name] arrow target ++
          lineTransitions file event names arrow target := rfl
    rw [hrules, ← addTransitions_addTransitions]
    exact (hsingle hname hcursor).append (ih .next)

/-! ## The keyword of the initial states -/

/-- The keyword of the initial states is read nowhere but between the blocks of a machine. -/
theorem exists_eq_body_of_step {token : Token}
    (hkind : token.kind = initialStates ∨ token.kind = states)
    (hstep : step file state token = .ok next) :
    ∃ complete draft, state = .within complete draft .body := by
  cases state with
  | between complete =>
    rcases stepBetween_cases (step_between_eq_ok_iff.1 hstep) with ⟨hother, -⟩ | ⟨hother, -⟩ <;>
      rcases hkind with hkind | hkind <;> simp [hkind] at hother
  | within complete draft cursor =>
    have hstep := step_within_eq_ok_iff.1 hstep
    cases cursor with
    | body => exact ⟨complete, draft, rfl⟩
    | resourceType =>
      rcases stepType_eq_ok_iff.1 hstep with ⟨-, hother, -⟩ | ⟨later, hlater, -⟩ <;>
        rcases hkind with hkind | hkind <;> simp_all [closersAfter]
    | _ => rcases hkind with hkind | hkind <;> simp [stepWithin, require, hkind] at hstep

/-- Either keyword opens a block of initial states. -/
theorem accepts_of_keyword {token other : Token}
    (htoken : token.kind = initialStates ∨ token.kind = states)
    (hother : other.kind = initialStates ∨ other.kind = states)
    (haccepts : Accepts file state (token :: rest) machines) :
    Accepts file state (other :: rest) machines := by
  have hpart : ∀ {keyword : Token}, keyword.kind = initialStates ∨ keyword.kind = states →
      Part.ofKeyword? keyword.kind = some .initialStates := by
    rintro keyword (hkeyword | hkeyword) <;> rw [hkeyword] <;> rfl
  obtain ⟨next, hstep, hnext⟩ := accepts_cons_iff.1 haccepts
  obtain ⟨complete, draft, rfl⟩ := exists_eq_body_of_step htoken hstep
  have hrank := rank_lt_of_accepts (hpart htoken) haccepts
  rw [step_within_eq_ok_iff, stepWithin_keyword (hpart htoken) hrank] at hstep
  cases hstep
  refine accepts_cons_iff.2
    ⟨_, step_within_eq_ok_iff.2 (stepWithin_keyword (hpart hother) hrank), ?_⟩
  exact follows_accepts.initialsOpening_iff.2 (follows_accepts.initialsOpening_iff.1 hnext)

/-- Sugar stands for the same. Tokens are read to machines exactly if what may be written for
them is, and then to the same machines. -/
theorem accepts_iff_of_sugar (hsugar : Sugar file front old new) :
    Accepts file .start (front ++ old ++ rest) machines ↔
      Accepts file .start (front ++ new ++ rest) machines := by
  cases hsugar with
  | @betweenMachines separator hfront hseparator =>
    obtain ⟨complete, hfront⟩ := leads_of_whole hfront
    have hsemicolon : Leads file (.between complete) [separator] (.between complete) := by
      simp [Leads, run, step, stepBetween, hseparator, Except.mapError]
    exact accepts_exchange hfront .nil hsemicolon
  | betweenBlocks hfront hseparator =>
    obtain ⟨complete, draft, hfront⟩ := exists_leads_openBody hfront
    exact accepts_exchange hfront .nil (leads_semicolons (.cons hseparator .nil))
  | behindLine hfront hseparator =>
    obtain ⟨complete, draft, event, hfront⟩ := exists_leads_behindLine hfront
    exact accepts_exchange hfront .nil (leads_separators (.cons hseparator .nil))
  | lastResource hfront hkeyword hopening hbody hseparator hclosing =>
    obtain ⟨complete, draft, hfront⟩ := exists_leads_openBody hfront
    have hbodies := hbody.commaList_trailing hseparator
    rcases hkeyword with hkeyword | hkeyword
    · exact accepts_exchange_block hfront (by rw [hkeyword]; rfl)
        (leads_guards (.intro hkeyword hopening hbody.commaList hclosing))
        (leads_guards (.intro hkeyword hopening hbodies hclosing))
    · exact accepts_exchange_block hfront (by rw [hkeyword]; rfl)
        (leads_actions (.intro hkeyword hopening hbody.commaList hclosing))
        (leads_actions (.intro hkeyword hopening hbodies hclosing))
  | @lastInitial keyword _ _ _ _ _ hfront hkeyword hopening hbody hseparator hclosing =>
    obtain ⟨complete, draft, hfront⟩ := exists_leads_openBody hfront
    have hpart : Part.ofKeyword? keyword.kind = some .initialStates := by
      rcases hkeyword with hkeyword | hkeyword <;> rw [hkeyword] <;> rfl
    exact accepts_exchange_block hfront hpart
      (leads_initials (.intro hkeyword hopening hbody.commaList hclosing))
      (leads_initials (.intro hkeyword hopening (hbody.commaList_trailing hseparator) hclosing))
  | splitLine hfront hsources harrow htarget =>
    obtain ⟨complete, draft, cursor, event, hcursor, hfront⟩ := exists_leads_beforeLine hfront
    exact accepts_exchange hfront (leads_line hcursor (.intro hsources harrow htarget))
      (leads_split hsources harrow htarget hcursor)
  | splitEvent hfront hname hopening hfirst hsecond hclosing =>
    obtain ⟨complete, draft, hfront⟩ := exists_leads_openBody hfront
    have hone : Leads file (.within complete draft .body) _ _ :=
      leads_eventBlock (.intro hname hopening (hfirst.append hsecond) hclosing)
    rw [← List.append_assoc] at hone
    exact accepts_exchange hfront hone
      ((leads_eventBlock (.intro hname hopening hfirst hclosing)).append
        (leads_eventBlock (.intro hname hopening hsecond hclosing)))
  | keyword hold hnew =>
    rw [List.append_assoc, List.append_assoc]
    constructor
    · intro haccepts
      obtain ⟨middle, hfront, hold'⟩ := run_append_eq_ok_iff.1 haccepts
      exact run_append_eq_ok_iff.2 ⟨middle, hfront, accepts_of_keyword hold hnew hold'⟩
    · intro haccepts
      obtain ⟨middle, hfront, hnew'⟩ := run_append_eq_ok_iff.1 haccepts
      exact run_append_eq_ok_iff.2 ⟨middle, hfront, accepts_of_keyword hnew hold hnew'⟩

end FsmCompiler.Reader
