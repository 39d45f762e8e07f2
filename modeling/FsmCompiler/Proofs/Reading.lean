/-
# Reading agrees with the grammar

The automaton that reads machines accepts exactly the token lists of the grammar
and builds exactly the machines that they declare. A machine body is first taken
apart into a run of blocks, as the automaton takes them; that the ranks of the
parts put such a run into the order of the grammar is a matter of runs alone.
-/

import FsmCompiler.Proofs.ReadingBlock
import Mathlib.Data.List.Basic

namespace FsmCompiler.Reader

open Grammar TokenKind

variable {file : String} {complete : List Machine} {draft : Draft} {tokens : List Token}
  {machines : List Machine}

/-! ## Machine bodies -/

/-- Runs of blocks in the body of a machine, up to its closing brace: the draft before
them, their tokens, and the machine that comes of both. The order of the parts is that of
the ranks. -/
inductive BodyRun (file : String) : Draft → List Token → Machine → Prop
  | closed {draft : Draft} (hsome : draft.isEmpty = false) :
      BodyRun file draft [] (draft.machine file)
  | semicolon {draft : Draft} {token rest machine} (hkind : token.kind = semicolon)
      (hrest : BodyRun file draft rest machine) : BodyRun file draft (token :: rest) machine
  | guards {draft : Draft} {used guards rest machine}
      (hblock : ResourceBlock file guardResources used guards)
      (hrank : draft.rank < Part.guardResources.rank)
      (hrest : BodyRun file { draft with
          part := some .guardResources, guardResources := draft.guardResources ++ guards }
        rest machine) : BodyRun file draft (used ++ rest) machine
  | actions {draft : Draft} {used actions rest machine}
      (hblock : ResourceBlock file actionResources used actions)
      (hrank : draft.rank < Part.actionResources.rank)
      (hrest : BodyRun file { draft with
          part := some .actionResources, actionResources := draft.actionResources ++ actions }
        rest machine) : BodyRun file draft (used ++ rest) machine
  | initials {draft : Draft} {used states rest machine} (hblock : InitialBlock file used states)
      (hrank : draft.rank < Part.initialStates.rank)
      (hrest : BodyRun file { draft with
          part := some .initialStates, initialStates := draft.initialStates ++ states }
        rest machine) : BodyRun file draft (used ++ rest) machine
  | event {draft : Draft} {used rules rest machine} (hblock : EventBlock file used rules)
      (hrest : BodyRun file { draft with
          part := some .events, transitions := draft.transitions ++ rules }
        rest machine) : BodyRun file draft (used ++ rest) machine

/-- A block of guard resources. -/
theorem accepts_guards_iff {keyword : String} :
    Accepts file (.within complete { draft with part := some .guardResources }
        (.resourcesOpening keyword)) tokens machines ↔
      ∃ opening body guards closing rest, tokens = opening :: body ++ closing :: rest ∧
        opening.kind = leftBrace ∧ CommaList (ResourceItem file) body guards ∧
        closing.kind = rightBrace ∧
        Accepts file (.within complete { draft with
          part := some .guardResources, guardResources := draft.guardResources ++ guards }
          .body) rest machines := by
  rw [follows_accepts.resourcesOpening_iff]
  have hfold (resources : List Resource) := foldl_addResource_guards
    { draft with part := some .guardResources } resources rfl
  simp only [hfold]

/-- A block of action resources. -/
theorem accepts_actions_iff {keyword : String} :
    Accepts file (.within complete { draft with part := some .actionResources }
        (.resourcesOpening keyword)) tokens machines ↔
      ∃ opening body actions closing rest, tokens = opening :: body ++ closing :: rest ∧
        opening.kind = leftBrace ∧ CommaList (ResourceItem file) body actions ∧
        closing.kind = rightBrace ∧
        Accepts file (.within complete { draft with
          part := some .actionResources, actionResources := draft.actionResources ++ actions }
          .body) rest machines := by
  rw [follows_accepts.resourcesOpening_iff]
  have hfold (resources : List Resource) := foldl_addResource_actions
    { draft with part := some .actionResources } resources rfl
  simp only [hfold]

/-- An event block behind the name of its event. -/
theorem accepts_event_iff {event : Declaration} :
    Accepts file (.within complete { draft with part := some .events }
        (.eventOpening event)) tokens machines ↔
      ∃ opening body rules closing rest, tokens = opening :: body ++ closing :: rest ∧
        opening.kind = leftBrace ∧ LineRun file event body rules ∧ closing.kind = rightBrace ∧
        Accepts file (.within complete { draft with
          part := some .events, transitions := draft.transitions ++ rules } .body) rest
          machines := by
  rw [accepts_eventOpening_iff]
  constructor
  · rintro ⟨opening, rest, rfl, hopening, hrest⟩
    obtain ⟨body, rules, closing, rest, rfl, hbody, hclosing, hrest⟩ :=
      accepts_lineRun_iff.1 hrest
    exact ⟨opening, body, rules, closing, rest, rfl, hopening, hbody, hclosing, hrest⟩
  · rintro ⟨opening, body, rules, closing, rest, rfl, hopening, hbody, hclosing, hrest⟩
    exact ⟨opening, body ++ closing :: rest, rfl, hopening,
      accepts_lineRun_iff.2 ⟨body, rules, closing, rest, rfl, hbody, hclosing, hrest⟩⟩

/-- A block of initial states. -/
theorem accepts_initials_iff {keyword : String} :
    Accepts file (.within complete { draft with part := some .initialStates }
        (.initialsOpening keyword)) tokens machines ↔
      ∃ opening body states closing rest, tokens = opening :: body ++ closing :: rest ∧
        opening.kind = leftBrace ∧ CommaList (InitialItem file) body states ∧
        closing.kind = rightBrace ∧
        Accepts file (.within complete { draft with
          part := some .initialStates, initialStates := draft.initialStates ++ states }
          .body) rest machines := by
  rw [follows_accepts.initialsOpening_iff]
  simp only [foldl_addInitial]

/-- The body of a machine, its closing brace, and what comes behind. -/
theorem exists_bodyRun_of_accepts (haccepts : Accepts file (.within complete draft .body) tokens
    machines) :
    ∃ body machine closing rest, tokens = body ++ closing :: rest ∧
      BodyRun file draft body machine ∧ closing.kind = rightBrace ∧
      Accepts file (.between (complete ++ [machine])) rest machines := by
  induction hlength : tokens.length using Nat.strongRecOn generalizing draft tokens with
  | ind length ih =>
    subst hlength
    obtain ⟨token, rest, rfl, ⟨hkind, hrest⟩ | ⟨hkind, hsome, hrest⟩ | ⟨hkind, hrest⟩ |
      ⟨part, hpart, hrank, hrest⟩⟩ := accepts_body_step.1 haccepts
    · obtain ⟨body, machine, closing, rest, rfl, hbody, hclosing, hrest⟩ :=
        ih rest.length (by simp) hrest rfl
      exact ⟨token :: body, machine, closing, rest, rfl, .semicolon hkind hbody, hclosing, hrest⟩
    · exact ⟨[], _, token, rest, rfl, .closed hsome, hkind, hrest⟩
    · obtain ⟨opening, lines, rules, ending, rest, rfl, hopening, hlines, hending, hrest⟩ :=
        accepts_event_iff.1 hrest
      obtain ⟨body, machine, closing, rest, rfl, hbody, hclosing, hrest⟩ :=
        ih rest.length (by simp; omega) hrest rfl
      exact ⟨token :: opening :: lines ++ [ending] ++ body, machine, closing, rest, by simp,
        .event (.intro hkind hopening hlines hending) hbody, hclosing, hrest⟩
    · cases part with
      | events => cases hkind : token.kind <;> simp [hkind, Part.ofKeyword?] at hpart
      | guardResources =>
        have hkind : token.kind = guardResources := by
          cases hkind : token.kind <;> simp [hkind, Part.ofKeyword?] at hpart ⊢
        obtain ⟨opening, items, guards, ending, rest, rfl, hopening, hitems, hending, hrest⟩ :=
          accepts_guards_iff.1 hrest
        obtain ⟨body, machine, closing, rest, rfl, hbody, hclosing, hrest⟩ :=
          ih rest.length (by simp; omega) hrest rfl
        exact ⟨token :: opening :: items ++ [ending] ++ body, machine, closing, rest, by simp,
          .guards (.intro hkind hopening hitems hending) hrank hbody, hclosing, hrest⟩
      | actionResources =>
        have hkind : token.kind = actionResources := by
          cases hkind : token.kind <;> simp [hkind, Part.ofKeyword?] at hpart ⊢
        obtain ⟨opening, items, actions, ending, rest, rfl, hopening, hitems, hending, hrest⟩ :=
          accepts_actions_iff.1 hrest
        obtain ⟨body, machine, closing, rest, rfl, hbody, hclosing, hrest⟩ :=
          ih rest.length (by simp; omega) hrest rfl
        exact ⟨token :: opening :: items ++ [ending] ++ body, machine, closing, rest, by simp,
          .actions (.intro hkind hopening hitems hending) hrank hbody, hclosing, hrest⟩
      | initialStates =>
        have hkind : token.kind = initialStates ∨ token.kind = TokenKind.states := by
          cases hkind : token.kind <;> simp [hkind, Part.ofKeyword?] at hpart ⊢
        obtain ⟨opening, items, states, ending, rest, rfl, hopening, hitems, hending, hrest⟩ :=
          accepts_initials_iff.1 hrest
        obtain ⟨body, machine, closing, rest, rfl, hbody, hclosing, hrest⟩ :=
          ih rest.length (by simp; omega) hrest rfl
        exact ⟨token :: opening :: items ++ [ending] ++ body, machine, closing, rest, by simp,
          .initials (.intro hkind hopening hitems hending) hrank hbody, hclosing, hrest⟩

/-- A run of blocks is read block by block. -/
theorem BodyRun.accepts {body rest : List Token} {machine : Machine} {closing : Token}
    (hbody : BodyRun file draft body machine) (hclosing : closing.kind = rightBrace)
    (hrest : Accepts file (.between (complete ++ [machine])) rest machines) :
    Accepts file (.within complete draft .body) (body ++ closing :: rest) machines := by
  induction hbody with
  | closed hsome =>
    exact accepts_body_step.2 ⟨closing, rest, rfl, .inr (.inl ⟨hclosing, hsome, hrest⟩)⟩
  | @semicolon _ token body _ hkind _ ih =>
    exact accepts_body_step.2 ⟨token, body ++ closing :: rest, rfl, .inl ⟨hkind, ih hrest⟩⟩
  | @guards _ _ _ body _ hblock hrank _ ih =>
    cases hblock with
    | @intro keyword opening items _ ending hkind hopening hitems hending =>
      refine accepts_body_step.2 ⟨keyword, opening :: items ++ ending :: (body ++ closing :: rest),
        by simp, .inr (.inr (.inr ⟨.guardResources, by rw [hkind]; rfl, hrank, ?_⟩))⟩
      exact accepts_guards_iff.2
        ⟨opening, items, _, ending, _, rfl, hopening, hitems, hending, ih hrest⟩
  | @actions _ _ _ body _ hblock hrank _ ih =>
    cases hblock with
    | @intro keyword opening items _ ending hkind hopening hitems hending =>
      refine accepts_body_step.2 ⟨keyword, opening :: items ++ ending :: (body ++ closing :: rest),
        by simp, .inr (.inr (.inr ⟨.actionResources, by rw [hkind]; rfl, hrank, ?_⟩))⟩
      exact accepts_actions_iff.2
        ⟨opening, items, _, ending, _, rfl, hopening, hitems, hending, ih hrest⟩
  | @initials _ _ _ body _ hblock hrank _ ih =>
    cases hblock with
    | @intro keyword opening items _ ending hkind hopening hitems hending =>
      have hpart : Part.ofKeyword? keyword.kind = some .initialStates := by
        rcases hkind with hkind | hkind <;> rw [hkind] <;> rfl
      refine accepts_body_step.2 ⟨keyword, opening :: items ++ ending :: (body ++ closing :: rest),
        by simp, .inr (.inr (.inr ⟨.initialStates, hpart, hrank, ?_⟩))⟩
      exact accepts_initials_iff.2
        ⟨opening, items, _, ending, _, rfl, hopening, hitems, hending, ih hrest⟩
  | @event _ _ _ body _ hblock _ ih =>
    cases hblock with
    | @intro name opening lines _ ending hname hopening hlines hending =>
      refine accepts_body_step.2 ⟨name, opening :: lines ++ ending :: (body ++ closing :: rest),
        by simp, .inr (.inr (.inl ⟨hname, ?_⟩))⟩
      exact accepts_event_iff.2
        ⟨opening, lines, _, ending, _, rfl, hopening, hlines, hending, ih hrest⟩

/-! ## The order of the parts -/

/-- What the grammar allows between a place in the body of a machine, where `draft` has
been read, and the closing brace; and the machine that comes of it. -/
inductive BodyRest (file : String) (draft : Draft) : List Token → Machine → Prop
  | intro {separators guardTokens actionTokens initialTokens eventTokens}
      {guards actions : List Resource} {initials : List Declaration} {rules : List Transition}
      (hseparators : Semicolons separators)
      (hguards : Optional (ResourceBlock file guardResources) guardTokens guards)
      (hguardRank : guardTokens ≠ [] → draft.rank < Part.guardResources.rank)
      (hactions : Optional (ResourceBlock file actionResources) actionTokens actions)
      (hactionRank : actionTokens ≠ [] → draft.rank < Part.actionResources.rank)
      (hinitials : Optional (InitialBlock file) initialTokens initials)
      (hinitialRank : initialTokens ≠ [] → draft.rank < Part.initialStates.rank)
      (hevents : EventRun file eventTokens rules)
      (hsome : draft.initialStates ++ initials ≠ [] ∨ draft.transitions ++ rules ≠ []) :
      BodyRest file draft
        (separators ++ guardTokens ++ actionTokens ++ initialTokens ++ eventTokens)
        ⟨draft.name.text, draft.transitions ++ rules, draft.initialStates ++ initials,
          draft.guardResources ++ guards, draft.actionResources ++ actions,
          some (draft.name.pos.inFile file)⟩

/-- A block whose part may not begin any more is missing. -/
theorem missing_of_rank {Block : List Token → List α → Prop} {items : List α} {part last : Part}
    (hblock : Optional Block tokens items) (hsome : ∀ items, ¬ Block [] items)
    (hrank : tokens ≠ [] → draft.rank < part.rank) (hpart : draft.part = some last)
    (hle : part.rank ≤ last.rank) : tokens = [] ∧ items = [] := by
  have hdraft : draft.rank = last.rank := by simp [Draft.rank, hpart]
  have hnil : tokens = [] := by
    refine Classical.byContradiction fun hne => Nat.not_lt.2 hle ?_
    exact hdraft ▸ hrank hne
  refine ⟨hnil, ?_⟩
  cases hblock with
  | absent => rfl
  | present hused _ =>
    obtain ⟨rfl, -⟩ := List.append_eq_nil_iff.1 hnil
    exact absurd hused (hsome _)

theorem not_resourceBlock_nil {kind : TokenKind} (resources : List Resource) :
    ¬ ResourceBlock file kind [] resources := by
  intro hblock
  cases hblock

theorem not_initialBlock_nil (states : List Declaration) : ¬ InitialBlock file [] states := by
  intro hblock
  cases hblock

theorem BodyRest.closed (hsome : draft.isEmpty = false) :
    BodyRest file draft [] (draft.machine file) := by
  have hcontent : draft.initialStates ++ [] ≠ [] ∨ draft.transitions ++ [] ≠ [] := by
    simpa [Draft.isEmpty, Classical.or_iff_not_imp_right] using hsome
  have hrest : BodyRest file draft ([] ++ [] ++ [] ++ [] ++ []) _ :=
    .intro .nil .absent (absurd rfl) .absent (absurd rfl) .absent (absurd rfl) .nil hcontent
  simpa [Draft.machine] using hrest

theorem BodyRest.semicolon {token : Token} {machine : Machine} (hkind : token.kind = semicolon)
    (hrest : BodyRest file draft tokens machine) :
    BodyRest file draft (token :: tokens) machine := by
  cases hrest with
  | intro hseparators hguards hguardRank hactions hactionRank hinitials hinitialRank hevents
      hsome =>
    simpa using BodyRest.intro (.cons hkind hseparators) hguards hguardRank hactions hactionRank
      hinitials hinitialRank hevents hsome

theorem BodyRest.guards {used : List Token} {guards : List Resource} {machine : Machine}
    (hblock : ResourceBlock file guardResources used guards)
    (hrank : draft.rank < Part.guardResources.rank)
    (hrest : BodyRest file { draft with
      part := some .guardResources, guardResources := draft.guardResources ++ guards }
      tokens machine) :
    BodyRest file draft (used ++ tokens) machine := by
  cases hrest with
  | intro hseparators hguards hguardRank hactions hactionRank hinitials hinitialRank hevents
      hsome =>
    obtain ⟨rfl, rfl⟩ :=
      missing_of_rank hguards not_resourceBlock_nil hguardRank rfl (Nat.le_refl _)
    have hbody := BodyRest.intro .nil (.present hblock hseparators) (fun _ => hrank) hactions
      (fun _ => Nat.lt_trans hrank (by decide)) hinitials
      (fun _ => Nat.lt_trans hrank (by decide)) hevents hsome
    simpa using hbody

theorem BodyRest.actions {used : List Token} {actions : List Resource} {machine : Machine}
    (hblock : ResourceBlock file actionResources used actions)
    (hrank : draft.rank < Part.actionResources.rank)
    (hrest : BodyRest file { draft with
      part := some .actionResources, actionResources := draft.actionResources ++ actions }
      tokens machine) :
    BodyRest file draft (used ++ tokens) machine := by
  cases hrest with
  | intro hseparators hguards hguardRank hactions hactionRank hinitials hinitialRank hevents
      hsome =>
    obtain ⟨rfl, rfl⟩ := missing_of_rank hguards not_resourceBlock_nil hguardRank rfl (by decide)
    obtain ⟨rfl, rfl⟩ :=
      missing_of_rank hactions not_resourceBlock_nil hactionRank rfl (Nat.le_refl _)
    have hbody := BodyRest.intro .nil .absent (absurd rfl)
      (.present hblock hseparators) (fun _ => hrank) hinitials
      (fun _ => Nat.lt_trans hrank (by decide)) hevents hsome
    simpa using hbody

theorem BodyRest.initials {used : List Token} {states : List Declaration} {machine : Machine}
    (hblock : InitialBlock file used states) (hrank : draft.rank < Part.initialStates.rank)
    (hrest : BodyRest file { draft with
      part := some .initialStates, initialStates := draft.initialStates ++ states }
      tokens machine) :
    BodyRest file draft (used ++ tokens) machine := by
  cases hrest with
  | intro hseparators hguards hguardRank hactions hactionRank hinitials hinitialRank hevents
      hsome =>
    obtain ⟨rfl, rfl⟩ := missing_of_rank hguards not_resourceBlock_nil hguardRank rfl (by decide)
    obtain ⟨rfl, rfl⟩ := missing_of_rank hactions not_resourceBlock_nil hactionRank rfl (by decide)
    obtain ⟨rfl, rfl⟩ :=
      missing_of_rank hinitials not_initialBlock_nil hinitialRank rfl (Nat.le_refl _)
    have hbody := BodyRest.intro .nil .absent (absurd rfl) .absent
      (absurd rfl) (.present hblock hseparators) (fun _ => hrank) hevents
      (by simpa using hsome)
    simpa using hbody

theorem BodyRest.event {used : List Token} {rules : List Transition} {machine : Machine}
    (hblock : EventBlock file used rules)
    (hrest : BodyRest file { draft with
      part := some .events, transitions := draft.transitions ++ rules } tokens machine) :
    BodyRest file draft (used ++ tokens) machine := by
  cases hrest with
  | intro hseparators hguards hguardRank hactions hactionRank hinitials hinitialRank hevents
      hsome =>
    obtain ⟨rfl, rfl⟩ := missing_of_rank hguards not_resourceBlock_nil hguardRank rfl (by decide)
    obtain ⟨rfl, rfl⟩ := missing_of_rank hactions not_resourceBlock_nil hactionRank rfl (by decide)
    obtain ⟨rfl, rfl⟩ := missing_of_rank hinitials not_initialBlock_nil hinitialRank rfl (by decide)
    have hbody := BodyRest.intro .nil .absent (absurd rfl) .absent
      (absurd rfl) .absent (absurd rfl) (.cons hblock hseparators hevents)
      (by simpa using hsome)
    simpa using hbody

/-- A run of blocks keeps to the order of the grammar. -/
theorem BodyRun.bodyRest {machine : Machine} (hbody : BodyRun file draft tokens machine) :
    BodyRest file draft tokens machine := by
  induction hbody with
  | closed hsome => exact .closed hsome
  | semicolon hkind _ ih => exact ih.semicolon hkind
  | guards hblock hrank _ ih => exact ih.guards hblock hrank
  | actions hblock hrank _ ih => exact ih.actions hblock hrank
  | initials hblock hrank _ ih => exact ih.initials hblock hrank
  | event hblock _ ih => exact ih.event hblock

theorem BodyRun.semicolons {separators : List Token} {machine : Machine}
    (hseparators : Semicolons separators) (hbody : BodyRun file draft tokens machine) :
    BodyRun file draft (separators ++ tokens) machine := by
  induction separators with
  | nil => exact hbody
  | cons separator separators ih =>
    refine .semicolon (hseparators separator (by simp)) (ih ?_)
    exact fun other hmem => hseparators other (by simp [hmem])

/-- Guard resources may come while no part has begun. -/
theorem bodyRun_of_guards {guards : List Resource} {rest : List Token} {machine : Machine}
    (hguards : Optional (ResourceBlock file guardResources) tokens guards)
    (hpart : draft.part = none)
    (hrest : ∀ part, part = none ∨ part = some .guardResources →
      BodyRun file { draft with part, guardResources := draft.guardResources ++ guards } rest
        machine) :
    BodyRun file draft (tokens ++ rest) machine := by
  cases hguards with
  | absent => simpa [← hpart] using hrest none (.inl rfl)
  | present hblock hseparators =>
    rw [List.append_assoc]
    refine .guards hblock (by simp [Draft.rank, hpart, Part.rank]) ?_
    exact (hrest _ (.inr rfl)).semicolons hseparators

/-- Action resources may come behind guard resources. -/
theorem bodyRun_of_actions {actions : List Resource} {rest : List Token} {machine : Machine}
    (hactions : Optional (ResourceBlock file actionResources) tokens actions)
    (hrank : draft.rank < Part.actionResources.rank)
    (hrest : ∀ part, part = draft.part ∨ part = some .actionResources →
      BodyRun file { draft with part, actionResources := draft.actionResources ++ actions } rest
        machine) :
    BodyRun file draft (tokens ++ rest) machine := by
  cases hactions with
  | absent => simpa using hrest draft.part (.inl rfl)
  | present hblock hseparators =>
    rw [List.append_assoc]
    exact .actions hblock hrank ((hrest _ (.inr rfl)).semicolons hseparators)

/-- Initial states may come behind resources. -/
theorem bodyRun_of_initials {states : List Declaration} {rest : List Token} {machine : Machine}
    (hinitials : Optional (InitialBlock file) tokens states)
    (hrank : draft.rank < Part.initialStates.rank)
    (hrest : ∀ part, BodyRun file
      { draft with part, initialStates := draft.initialStates ++ states } rest machine) :
    BodyRun file draft (tokens ++ rest) machine := by
  cases hinitials with
  | absent => simpa using hrest draft.part
  | present hblock hseparators =>
    rw [List.append_assoc]
    exact .initials hblock hrank ((hrest _).semicolons hseparators)

/-- Event blocks may come anywhere, and the machine may end behind them. -/
theorem bodyRun_of_events (draft : Draft) {rules : List Transition}
    (hevents : EventRun file tokens rules)
    (hsome : draft.initialStates ≠ [] ∨ draft.transitions ++ rules ≠ []) :
    BodyRun file draft tokens ((draft.addTransitions rules).machine file) := by
  induction hevents generalizing draft with
  | nil =>
    have hempty : draft.isEmpty = false := by
      simpa [Draft.isEmpty, Classical.or_iff_not_imp_right] using hsome
    simpa [Draft.addTransitions] using BodyRun.closed hempty
  | cons hblock hseparators _ ih =>
    rw [List.append_assoc]
    refine .event hblock (.semicolons hseparators ?_)
    have hmachine := ih { draft with
      part := some .events, transitions := draft.transitions ++ _ } (by simpa using hsome)
    simpa [Draft.addTransitions, Draft.machine] using hmachine

/-- A machine block is a name and, in braces, a run of blocks. -/
theorem machineBlock_iff {machine : Machine} :
    MachineBlock file tokens machine ↔
      ∃ name opening body closing, tokens = name :: opening :: body ++ [closing] ∧
        name.kind = identifier ∧ opening.kind = leftBrace ∧
        BodyRun file (.ofName name) body machine ∧ closing.kind = rightBrace := by
  constructor
  · intro hmachine
    cases hmachine with
    | @intro name opening separators guardTokens actionTokens initialTokens eventTokens closing
        guards actions initials rules hname hopening hseparators hguards hactions hinitials hevents
        hclosing hsome =>
      refine ⟨name, opening, separators ++ (guardTokens ++ (actionTokens ++ (initialTokens ++
        eventTokens))), closing, by simp, hname, hopening, .semicolons hseparators ?_, hclosing⟩
      refine bodyRun_of_guards hguards rfl fun part hpart => ?_
      refine bodyRun_of_actions hactions ?_ fun part' hpart' => ?_
      · rcases hpart with rfl | rfl <;> simp [Part.rank]
      refine bodyRun_of_initials hinitials ?_ fun _ => ?_
      · rcases hpart' with rfl | rfl
        · rcases hpart with rfl | rfl <;> simp [Part.rank]
        · simp [Part.rank]
      exact bodyRun_of_events _ hevents (by simpa [Draft.ofName] using hsome)
  · rintro ⟨name, opening, body, closing, rfl, hname, hopening, hbody, hclosing⟩
    cases hbody.bodyRest with
    | intro hseparators hguards _ hactions _ hinitials _ hevents hsome =>
      have hmachine := MachineBlock.intro hname hopening hseparators hguards hactions hinitials
        hevents hclosing (by simpa [Draft.ofName] using hsome)
      simpa [Draft.ofName] using hmachine

/-! ## Files -/

/-- One token, at the end, is the end of the input. -/
def Terminated : List Token → Prop
  | [] => False
  | [last] => last.kind = endOfInput
  | token :: rest => token.kind ≠ endOfInput ∧ Terminated rest

theorem terminated_cons_iff {token : Token} {rest : List Token} :
    Terminated (token :: rest) ↔
      (rest = [] ∧ token.kind = endOfInput) ∨ (token.kind ≠ endOfInput ∧ Terminated rest) := by
  cases rest <;> simp [Terminated]

/-- What follows a token that does not end the input is terminated in turn. -/
theorem Terminated.behind {used rest : List Token} {token : Token}
    (hterminated : Terminated (used ++ token :: rest)) (hkind : token.kind ≠ endOfInput) :
    Terminated rest := by
  induction used with
  | nil => exact ((terminated_cons_iff.1 hterminated).resolve_left fun h => hkind h.2).2
  | cons first used ih =>
    rcases terminated_cons_iff.1 hterminated with ⟨hnil, -⟩ | ⟨-, hrest⟩
    · simp at hnil
    · exact ih hrest

/-- Within a machine the input must not end. -/
theorem kind_ne_endOfInput_of_stepWithin {cursor : Cursor} {token : Token} {next : State}
    (hstep : stepWithin file complete draft cursor token = .ok next) :
    token.kind ≠ endOfInput := by
  intro hend
  cases cursor with
  | body => simp [stepWithin, stepBody, hend, Part.ofKeyword?] at hstep
  | resourceType => simp [stepWithin, stepType, hend] at hstep
  | _ => simp [stepWithin, require, hend] at hstep

/-- If terminated tokens are read without a fault, reading ends between machines. -/
theorem accepts_of_run {state final : State} (hterminated : Terminated tokens)
    (hrun : run file state tokens = (final, none)) : Accepts file state tokens final.machines := by
  induction tokens generalizing state with
  | nil => cases hterminated
  | cons token rest ih =>
    simp only [run] at hrun
    cases hstep : step file state token with
    | error fault => simp [hstep] at hrun
    | ok next =>
      rw [hstep] at hrun
      refine accepts_cons_iff.2 ⟨next, hstep, ?_⟩
      rcases terminated_cons_iff.1 hterminated with ⟨rfl, hend⟩ | ⟨-, hrest⟩
      · cases hrun
        cases state with
        | between complete =>
          have hnext := step_between_eq_ok_iff.1 hstep
          simp only [stepBetween, hend, or_true, if_true] at hnext
          cases hnext
          rfl
        | within complete draft cursor =>
          exact absurd hend (kind_ne_endOfInput_of_stepWithin (step_within_eq_ok_iff.1 hstep))
      · exact ih hrest hrun

/-- Between machines: a semicolon, the end of the input, or a machine. -/
theorem accepts_between_step :
    Accepts file (.between complete) tokens machines ↔
      (tokens = [] ∧ complete = machines) ∨
      (∃ token rest, tokens = token :: rest ∧
        (token.kind = semicolon ∨ token.kind = endOfInput) ∧
        Accepts file (.between complete) rest machines) ∨
      ∃ name opening rest, tokens = name :: opening :: rest ∧ name.kind = identifier ∧
        opening.kind = leftBrace ∧
        Accepts file (.within complete (.ofName name) .body) rest machines := by
  cases tokens with
  | nil => simp [accepts_nil_iff]
  | cons token rest =>
    rw [accepts_cons_iff]
    simp only [step_between_eq_ok_iff, stepBetween]
    by_cases hskipped : token.kind = semicolon ∨ token.kind = endOfInput
    · have hname : token.kind ≠ identifier := by
        rcases hskipped with hkind | hkind <;> simp [hkind]
      rw [if_pos hskipped]
      constructor
      · rintro ⟨_, ⟨⟩, hrest⟩
        exact .inr (.inl ⟨token, rest, rfl, hskipped, hrest⟩)
      · rintro (⟨hnil, -⟩ | ⟨_, _, heq, -, hrest⟩ | ⟨_, _, _, heq, hkind, -⟩)
        · cases hnil
        · cases heq
          exact ⟨_, rfl, hrest⟩
        · cases heq
          exact absurd hkind hname
    · rw [if_neg hskipped]
      simp only [require_eq_ok_iff]
      constructor
      · rintro ⟨next, ⟨hname, rfl⟩, hrest⟩
        obtain ⟨opening, rest, rfl, hopening, hrest⟩ :=
          (accepts_of_require (by simp) fun _ => rfl).1 hrest
        exact .inr (.inr ⟨token, opening, rest, rfl, hname, hopening, hrest⟩)
      · rintro (⟨hnil, -⟩ | ⟨_, _, heq, hkind, -⟩ | ⟨_, opening, rest, heq, hname, hopening, hrest⟩)
        · cases hnil
        · cases heq
          exact absurd hkind hskipped
        · cases heq
          refine ⟨_, ⟨hname, rfl⟩, ?_⟩
          exact (accepts_of_require (by simp) fun _ => rfl).2 ⟨opening, rest, rfl, hopening, hrest⟩

/-- What is read between machines up to the end of the input. -/
theorem exists_machineRun_of_accepts (hterminated : Terminated tokens)
    (haccepts : Accepts file (.between complete) tokens machines) :
    ∃ separators body ending later, tokens = separators ++ body ++ [ending] ∧
      Semicolons separators ∧ MachineRun file body later ∧ ending.kind = endOfInput ∧
      machines = complete ++ later := by
  induction hlength : tokens.length using Nat.strongRecOn generalizing complete tokens with
  | ind length ih =>
    subst hlength
    rcases accepts_between_step.1 haccepts with ⟨rfl, -⟩ | ⟨token, rest, rfl, hkind, hrest⟩ |
      ⟨name, opening, rest, rfl, hname, hopening, hrest⟩
    · cases hterminated
    · rcases terminated_cons_iff.1 hterminated with ⟨rfl, hend⟩ | ⟨hnot, hterminated⟩
      · have hcomplete := accepts_nil_iff.1 hrest
        cases hcomplete
        exact ⟨[], [], token, [], rfl, .nil, .nil, hend, by simp⟩
      · obtain ⟨separators, body, ending, later, rfl, hseparators, hbody, hending, hlater⟩ :=
          ih rest.length (by simp) hterminated hrest rfl
        exact ⟨token :: separators, body, ending, later, rfl,
          .cons (hkind.resolve_right hnot) hseparators, hbody, hending, hlater⟩
    · obtain ⟨blocks, machine, closing, rest, rfl, hblocks, hclosing, hrest⟩ :=
        exists_bodyRun_of_accepts hrest
      have hbehind : Terminated rest := by
        have hblocks : Terminated ((name :: opening :: blocks) ++ closing :: rest) := hterminated
        exact hblocks.behind (by simp [hclosing])
      obtain ⟨separators, body, ending, later, rfl, hseparators, hbody, hending, rfl⟩ :=
        ih rest.length (by simp; omega) hbehind hrest rfl
      have hmachine := machineBlock_iff.2
        ⟨name, opening, blocks, closing, rfl, hname, hopening, hblocks, hclosing⟩
      exact ⟨[], name :: opening :: blocks ++ [closing] ++ separators ++ body, ending,
        machine :: later, by simp, .nil, .cons hmachine hseparators hbody, hending, by simp⟩

theorem accepts_of_semicolons {separators : List Token} (hseparators : Semicolons separators)
    (hrest : Accepts file (.between complete) tokens machines) :
    Accepts file (.between complete) (separators ++ tokens) machines := by
  induction separators with
  | nil => exact hrest
  | cons separator separators ih =>
    refine accepts_between_step.2 (.inr (.inl ⟨separator, separators ++ tokens, rfl,
      .inl (hseparators separator (by simp)), ?_⟩))
    exact ih fun other hmem => hseparators other (by simp [hmem])

/-- Machine blocks are read one by one. -/
theorem accepts_of_machineRun (complete : List Machine) {body : List Token}
    {later : List Machine} {ending : Token} (hbody : MachineRun file body later)
    (hending : ending.kind = endOfInput) :
    Accepts file (.between complete) (body ++ [ending]) (complete ++ later) := by
  induction hbody generalizing complete with
  | nil =>
    refine accepts_between_step.2 (.inr (.inl ⟨ending, [], rfl, .inr hending, ?_⟩))
    simp [accepts_nil_iff]
  | @cons block machine separators rest _ hblock hseparators _ ih =>
    obtain ⟨name, opening, blocks, closing, rfl, hname, hopening, hblocks, hclosing⟩ :=
      machineBlock_iff.1 hblock
    refine accepts_between_step.2 (.inr (.inr ⟨name, opening,
      blocks ++ closing :: (separators ++ (rest ++ [ending])), by simp, hname, hopening, ?_⟩))
    refine hblocks.accepts hclosing (accepts_of_semicolons hseparators ?_)
    simpa using ih (complete ++ [machine])

/-- Reading agrees with the grammar on terminated tokens. -/
theorem readTokens_eq_ok_iff_of_terminated (hterminated : Terminated tokens) :
    readTokens file tokens = .ok machines ↔ File file tokens machines := by
  constructor
  · intro hread
    have haccepts : Accepts file (.between []) tokens machines := by
      unfold readTokens at hread
      split at hread
      · rename_i final hrun
        cases hread
        exact accepts_of_run hterminated hrun
      · cases hread
    obtain ⟨separators, body, ending, later, rfl, hseparators, hbody, hending, rfl⟩ :=
      exists_machineRun_of_accepts hterminated haccepts
    exact .intro hseparators hbody hending
  · intro hfile
    cases hfile with
    | @intro separators body _ ending hseparators hbody hending =>
      have haccepts :
          Accepts file State.start (separators ++ (body ++ [ending])) ([] ++ machines) :=
        accepts_of_semicolons hseparators (accepts_of_machineRun _ hbody hending)
      rw [List.append_assoc, readTokens, haccepts]
      rfl

/-- No word is the end of the input. -/
theorem ofWord_ne_endOfInput (word : String) : TokenKind.ofWord word ≠ endOfInput := by
  unfold TokenKind.ofWord keywords
  simp only [List.lookup_cons]
  repeat' split
  all_goals simp

/-- No piece of a text is the end of the input. -/
theorem piece_kind_ne_endOfInput {c : Char} {rest : List Char} {piece : Token.Piece}
    (hpiece : Token.Piece.first c rest = .ok piece) : piece.kind ≠ some endOfInput := by
  unfold Token.Piece.first at hpiece
  split at hpiece
  · cases hpiece; simp
  split at hpiece
  · cases hpiece; simp [Token.Piece.while]
  split at hpiece
  · cases hpiece; simp [Token.Piece.while, ofWord_ne_endOfInput]
  split at hpiece
  · cases hpiece; simp [Token.Piece.while]
  split at hpiece
  · split at hpiece <;> cases hpiece
    simp
  split at hpiece
  · cases hpiece; simp
  split at hpiece
  · rename_i kind hkind
    cases hpiece
    unfold TokenKind.ofPunctuation at hkind
    split at hkind <;> cases hkind <;> simp
  · cases hpiece

/-- The tokens of a text are terminated. -/
theorem terminated_of_scanFrom {pos : Source.Position} {text : List Char}
    (hscan : Token.scanFrom pos text = .ok tokens) : Terminated tokens := by
  fun_induction Token.scanFrom pos text generalizing tokens with
  | case1 => cases hscan; rfl
  | case2 => cases hscan
  | case3 =>
    rename_i ih
    exact ih hscan
  | case4 =>
    rename_i hpiece later _ hkind ih
    cases hlater : later with
    | error fault => simp [hlater, Except.map] at hscan
    | ok rest =>
      simp only [hlater, Except.map, Except.ok.injEq] at hscan
      subst hscan
      refine terminated_cons_iff.2 (.inr ⟨?_, ih hlater⟩)
      intro hend
      exact piece_kind_ne_endOfInput hpiece (hkind.trans (congrArg some hend))

/-- Reading agrees with the grammar. The tokens of a text are read without a fault if
and only if they are a file of the grammar, and what is read are the machines that the
file declares. -/
theorem readTokens_eq_ok_iff_file {text : String} (hscan : Token.scan text = .ok tokens) :
    readTokens file tokens = .ok machines ↔ File file tokens machines :=
  readTokens_eq_ok_iff_of_terminated (terminated_of_scanFrom hscan)

/-- Texts are read by way of their tokens. -/
theorem read_eq_ok_iff {text : String} :
    read file text = .ok machines ↔
      ∃ tokens, Token.scan text = .ok tokens ∧ readTokens file tokens = .ok machines := by
  unfold read
  cases Token.scan text <;> simp

/-- The machines of a text that is read are those of a file of the grammar. -/
theorem exists_file_of_read {text : String} (hread : read file text = .ok machines) :
    ∃ tokens, Token.scan text = .ok tokens ∧ File file tokens machines := by
  obtain ⟨tokens, hscan, htokens⟩ := read_eq_ok_iff.1 hread
  exact ⟨tokens, hscan,
    (readTokens_eq_ok_iff_of_terminated (terminated_of_scanFrom hscan)).1 htokens⟩

/-- A lamp with two source states in one line. -/
theorem file_of_lamp :
    ∃ tokens, Token.scan "Lamp { States { Off } Press { Off, Dim => On; } }" = .ok tokens ∧
      File "lamp" tokens
        [⟨"Lamp",
          [⟨⟨"Press", some ⟨"lamp", 1, 23⟩⟩, ⟨"Off", some ⟨"lamp", 1, 31⟩⟩,
              ⟨"On", some ⟨"lamp", 1, 43⟩⟩, some ⟨"lamp", 1, 40⟩⟩,
            ⟨⟨"Press", some ⟨"lamp", 1, 23⟩⟩, ⟨"Dim", some ⟨"lamp", 1, 36⟩⟩,
              ⟨"On", some ⟨"lamp", 1, 43⟩⟩, some ⟨"lamp", 1, 40⟩⟩],
          [⟨"Off", some ⟨"lamp", 1, 17⟩⟩], [], [], some ⟨"lamp", 1, 1⟩⟩] := by
  refine (read_eq_ok_iff.1 ?_).imp fun tokens ⟨hscan, hread⟩ =>
    ⟨hscan, (readTokens_eq_ok_iff_file hscan).1 hread⟩
  decide +kernel

end FsmCompiler.Reader
