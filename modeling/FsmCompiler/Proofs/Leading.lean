/-
# Where constructs lead

From a place in a machine where a construct of the grammar may stand, reading the construct
leads to the place behind it. Nothing has to be known of what follows.
-/

import FsmCompiler.Proofs.FirstWrong

namespace FsmCompiler.Reader

open Grammar TokenKind

variable {file keyword : String} {complete : List Machine} {draft : Draft} {cursor : Cursor}
  {event : Declaration} {used rest tokens separators names : List Token} {closing : Token}
  {state middle next : State}

/-- Reading the tokens leads from one state to another without a fault. -/
def Leads (file : String) (state : State) (tokens : List Token) (next : State) : Prop :=
  run file state tokens = (next, none)

theorem Leads.nil : Leads file state [] state := rfl

theorem Leads.append (hused : Leads file state used middle) (hrest : Leads file middle rest next) :
    Leads file state (used ++ rest) next := by
  rw [Leads, run_append hused]
  exact hrest

theorem Leads.cons {token : Token} (middle : State)
    (hstep : stepWithin file complete draft cursor token = .ok middle)
    (hrest : Leads file middle rest next) :
    Leads file (.within complete draft cursor) (token :: rest) next := by
  rw [Leads, run, step_within_eq_ok_iff.2 hstep]
  exact hrest

theorem Leads.single {token : Token}
    (hstep : stepWithin file complete draft cursor token = .ok next) :
    Leads file (.within complete draft cursor) [token] next := .cons next hstep .nil

/-! ## Files -/

/-- The input ends between machines. -/
theorem eq_between_of_step {ending : Token} (hending : ending.kind = endOfInput)
    (hstep : step file state ending = .ok next) :
    state = .between next.machines ∧ next = .between next.machines := by
  cases state with
  | between complete =>
    rcases stepBetween_cases (step_between_eq_ok_iff.1 hstep) with ⟨-, rfl⟩ | ⟨hkind, -⟩
    · exact ⟨rfl, rfl⟩
    · rw [hending] at hkind
      cases hkind
  | within complete draft cursor =>
    exact absurd hending (kind_ne_endOfInput_of_stepWithin (step_within_eq_ok_iff.1 hstep))

/-- Before the end of the input, reading has come between machines. -/
theorem leads_of_run_ending {front : List Token} {ending : Token}
    (hending : ending.kind = endOfInput)
    (hrun : run file state (front ++ [ending]) = (next, none)) :
    Leads file state front (.between next.machines) ∧ next = .between next.machines := by
  obtain ⟨middle, hfront, hlast⟩ := run_append_eq_ok_iff.1 hrun
  obtain ⟨rfl, hnext⟩ := eq_between_of_step hending (run_singleton_eq_ok_iff.1 hlast)
  exact ⟨hfront, hnext⟩

theorem accepts_of_file {machines : List Machine} (hfile : File file tokens machines) :
    Accepts file .start tokens machines := by
  cases hfile with
  | intro hseparators hbody hending =>
    rw [List.append_assoc]
    exact accepts_of_semicolons hseparators (accepts_of_machineRun _ hbody hending)

/-- Whole machine blocks lead between machines. -/
theorem leads_of_whole (hwhole : Whole file tokens) :
    ∃ machines, Leads file .start tokens (.between machines) := by
  obtain ⟨machines, hfile⟩ := hwhole
  exact ⟨machines, (leads_of_run_ending rfl (accepts_of_file (hfile (sample endOfInput) rfl))).1⟩

/-! ## Lists -/

theorem leads_type {name : Token} {closers later : List TokenKind} {read type : List Token}
    (hclosers : closersAfterAll closers type = some later) :
    Leads file (.within complete draft (.resourceType keyword name closers read)) type
      (.within complete draft (.resourceType keyword name later (read ++ type))) := by
  induction type generalizing closers read with
  | nil =>
    cases hclosers
    rw [List.append_nil]
    exact .nil
  | cons token type ih =>
    simp only [closersAfterAll, Option.bind_eq_some_iff] at hclosers
    obtain ⟨due, hdue, hclosers⟩ := hclosers
    have hrest : Leads file
        (.within complete draft (.resourceType keyword name due (read ++ [token]))) type
        (.within complete draft
          (.resourceType keyword name later (read ++ [token] ++ type))) := ih hclosers
    rw [List.append_assoc] at hrest
    exact .cons _ (stepType_eq_ok_iff.2 (.inr ⟨due, hdue, rfl⟩)) hrest

/-- A resource and what ends it. -/
theorem leads_resource {resource : Resource} {stop : Token}
    (hitem : ResourceItem file used resource) (hstop : stop.kind = comma ∨ stop.kind = rightBrace) :
    Leads file (.within complete draft (.resourceName keyword)) (used ++ [stop])
      (.within complete (draft.addResource resource)
        (if stop.kind = comma then .resourceName keyword else .body)) := by
  cases hitem with
  | @intro name separator type hname hseparator htype hsome =>
    have htype : Leads file (.within complete draft (.resourceType keyword name [] [])) type
        (.within complete draft (.resourceType keyword name [] type)) :=
      leads_type (closersAfterAll_eq_nil_iff.2 htype)
    refine .cons (.within complete draft (.resourceColon keyword name))
      (by simp [stepWithin, require, hname]) ?_
    refine .cons (.within complete draft (.resourceType keyword name [] []))
      (by simp [stepWithin, require, hseparator]) ?_
    exact htype.append (.single (stepType_eq_ok_iff.2 (.inl ⟨rfl, hstop, hsome, rfl⟩)))

/-- An initial state and what ends it. -/
theorem leads_initial {initial : Declaration} {stop : Token}
    (hitem : InitialItem file used initial) (hstop : stop.kind = comma ∨ stop.kind = rightBrace) :
    Leads file (.within complete draft (.initialName keyword)) (used ++ [stop])
      (.within complete (draft.addInitial initial)
        (if stop.kind = comma then .initialName keyword else .body)) := by
  cases hitem with
  | @intro name hname =>
    refine .cons (.within complete (draft.addInitial (declare file name))
      (.initialEnd keyword name)) (by simp [stepWithin, require, hname]) (.single ?_)
    rcases hstop with hstop | hstop <;> simp [stepWithin, hstop]

/-- A comma list of items and its closing brace. -/
theorem leads_commaList {Item : List Token → α → Prop} {add : Draft → α → Draft}
    {body : List Token} {items : List α}
    (hend : ∀ draft closing, closing.kind = rightBrace →
      Leads file (.within complete draft cursor) [closing] (.within complete draft .body))
    (hitem : ∀ draft used item stop, Item used item →
      (stop.kind = comma ∨ stop.kind = rightBrace) →
      Leads file (.within complete draft cursor) (used ++ [stop])
        (.within complete (add draft item) (if stop.kind = comma then cursor else .body)))
    (hbody : CommaList Item body items) (hclosing : closing.kind = rightBrace) :
    Leads file (.within complete draft cursor) (body ++ [closing])
      (.within complete (items.foldl add draft) .body) := by
  induction hbody generalizing draft with
  | nil => exact hend draft closing hclosing
  | @last used item hused =>
    have hlast := hitem draft used item closing hused (.inr hclosing)
    rwa [if_neg (by simp [hclosing])] at hlast
  | @cons used item separator later items hused hcomma _ ih =>
    have hfirst := hitem draft used item separator hused (.inl hcomma)
    rw [if_pos hcomma] at hfirst
    simpa using hfirst.append ih

/-! ## Blocks -/

theorem leads_semicolons (hseparators : Semicolons separators) :
    Leads file (.within complete draft .body) separators (.within complete draft .body) := by
  induction separators with
  | nil => exact .nil
  | cons separator separators ih =>
    have hsemicolon := hseparators separator List.mem_cons_self
    exact .cons _ (by simp [stepWithin, stepBody, hsemicolon])
      (ih fun other hother => hseparators other (List.mem_cons_of_mem _ hother))

/-- The keyword of a block whose part may still come. -/
theorem stepWithin_keyword {part : Part} {token : Token}
    (hpart : Part.ofKeyword? token.kind = some part) (hrank : draft.rank < part.rank) :
    stepWithin file complete draft .body token = .ok (.within complete
      { draft with part := some part }
      (if part = .initialStates then .initialsOpening token.text
        else .resourcesOpening token.text)) := by
  have hallows := Draft.allows_iff.2 hrank
  cases hkind : token.kind <;> rw [hkind] at hpart <;> cases hpart <;>
    simp [stepWithin, stepBody, hkind, Part.ofKeyword?, hallows]

/-- The resources of a block. -/
theorem leads_resources {opening : Token} {body : List Token} {resources : List Resource}
    (hopening : opening.kind = leftBrace) (hbody : CommaList (ResourceItem file) body resources)
    (hclosing : closing.kind = rightBrace) :
    Leads file (.within complete draft (.resourcesOpening keyword)) (opening :: body ++ [closing])
      (.within complete (resources.foldl Draft.addResource draft) .body) := by
  refine .cons (.within complete draft (.resourceName keyword))
    (by simp [stepWithin, require, hopening]) ?_
  refine leads_commaList ?_ (fun _ _ _ _ => leads_resource) hbody hclosing
  exact fun draft closing hclosing => .single (by simp [stepWithin, hclosing])

theorem leads_guards {guards : List Resource}
    (hblock : ResourceBlock file guardResources used guards)
    (hrank : draft.rank < Part.guardResources.rank) :
    Leads file (.within complete draft .body) used (.within complete { draft with
      part := some .guardResources, guardResources := draft.guardResources ++ guards } .body) := by
  cases hblock with
  | @intro keyword opening body _ closing hkeyword hopening hbody hclosing =>
    refine .cons _ (stepWithin_keyword (by rw [hkeyword]; rfl) hrank) ?_
    have hfold := foldl_addResource_guards { draft with part := some .guardResources } guards rfl
    rw [← hfold]
    exact leads_resources hopening hbody hclosing

theorem leads_actions {actions : List Resource}
    (hblock : ResourceBlock file actionResources used actions)
    (hrank : draft.rank < Part.actionResources.rank) :
    Leads file (.within complete draft .body) used (.within complete { draft with
      part := some .actionResources, actionResources := draft.actionResources ++ actions }
      .body) := by
  cases hblock with
  | @intro keyword opening body _ closing hkeyword hopening hbody hclosing =>
    refine .cons _ (stepWithin_keyword (by rw [hkeyword]; rfl) hrank) ?_
    have hfold := foldl_addResource_actions { draft with part := some .actionResources } actions
      rfl
    rw [← hfold]
    exact leads_resources hopening hbody hclosing

theorem leads_initials {initials : List Declaration} (hblock : InitialBlock file used initials)
    (hrank : draft.rank < Part.initialStates.rank) :
    Leads file (.within complete draft .body) used (.within complete { draft with
      part := some .initialStates, initialStates := draft.initialStates ++ initials } .body) := by
  cases hblock with
  | @intro keyword opening body _ closing hkeyword hopening hbody hclosing =>
    have hpart : Part.ofKeyword? keyword.kind = some .initialStates := by
      rcases hkeyword with hkeyword | hkeyword <;> rw [hkeyword] <;> rfl
    refine .cons _ (stepWithin_keyword hpart hrank) ?_
    refine .cons (.within complete { draft with part := some .initialStates }
      (.initialName keyword.text)) (by simp [stepWithin, require, hopening]) ?_
    have hfold := foldl_addInitial { draft with part := some .initialStates } initials
    rw [← hfold]
    refine leads_commaList ?_ (fun _ _ _ _ => leads_initial) hbody hclosing
    exact fun draft closing hclosing => .single (by simp [stepWithin, hclosing])

/-! ## Lines and event blocks -/

/-- The places where a line may begin. -/
inductive Cursor.AtLine (event : Declaration) : Cursor → Prop
  | first : AtLine event (.firstLine event)
  | next : AtLine event (.nextLine event)
  | source : AtLine event (.source event [])

/-- Behind the name of its first source state, it makes no difference where a line began. -/
theorem run_of_atLine {name : Token} (hcursor : cursor.AtLine event)
    (hname : name.kind = identifier) :
    run file (.within complete draft cursor) (name :: rest) =
      run file (.within complete draft (.source event [])) (name :: rest) := by
  have hstep : ∀ {cursor : Cursor}, cursor.AtLine event →
      stepWithin file complete draft cursor name =
        .ok (.within complete draft (.sourceEnd event [] name)) := by
    intro cursor hcursor
    cases hcursor <;> simp [stepWithin, require, hname]
  rw [run, run, step_within_eq_ok_iff.2 (hstep hcursor), step_within_eq_ok_iff.2 (hstep .source)]

/-- Further source states and the arrow. -/
theorem leads_sources {sources : List Token} {arrow : Token} (hused : SourceList used names)
    (harrow : arrow.kind = TokenKind.arrow) :
    Leads file (.within complete draft (.source event sources)) (used ++ [arrow])
      (.within complete draft (.target event (sources ++ names) arrow)) := by
  induction hused generalizing sources with
  | @one name hname =>
    exact .cons (.within complete draft (.sourceEnd event sources name))
      (by simp [stepWithin, require, hname]) (.single (by simp [stepWithin, harrow]))
  | @cons name separator later names hname hseparator _ ih =>
    refine .cons (.within complete draft (.sourceEnd event sources name))
      (by simp [stepWithin, require, hname]) ?_
    have hlater : Leads file (.within complete draft (.source event (sources ++ [name])))
        (later ++ [arrow])
        (.within complete draft (.target event (sources ++ [name] ++ names) arrow)) := ih
    rw [List.append_assoc] at hlater
    exact .cons _ (by simp [stepWithin, hseparator]) hlater

/-- A line leads to the place behind it from wherever it may begin. -/
theorem leads_line {rules : List Transition} (hcursor : cursor.AtLine event)
    (hline : Line file event used rules) :
    Leads file (.within complete draft cursor) used
      (.within complete (draft.addTransitions rules) (.nextLine event)) := by
  cases hline with
  | @intro sourceTokens names arrow target hsources harrow htarget =>
    have harrow : Leads file (.within complete draft cursor) (sourceTokens ++ [arrow])
        (.within complete draft (.target event names arrow)) := by
      have hsource : Leads file (.within complete draft (.source event []))
          (sourceTokens ++ [arrow]) (.within complete draft (.target event names arrow)) :=
        leads_sources hsources harrow
      cases hsources with
      | one hname => exact (run_of_atLine hcursor hname).trans hsource
      | cons hname => exact (run_of_atLine hcursor hname).trans hsource
    have htarget : Leads file (.within complete draft (.target event names arrow)) [target]
        (.within complete (draft.addTransitions (lineTransitions file event names arrow target))
          (.nextLine event)) :=
      .single (by simp [stepWithin, require, htarget])
    have hline := harrow.append htarget
    rwa [List.append_assoc] at hline

theorem leads_separators (hseparators : Separators separators) :
    Leads file (.within complete draft (.nextLine event)) separators
      (.within complete draft (.nextLine event)) := by
  induction separators with
  | nil => exact .nil
  | cons separator separators ih =>
    refine .cons (.within complete draft (.nextLine event)) ?_
      (ih fun other hother => hseparators other (List.mem_cons_of_mem _ hother))
    rcases hseparators separator List.mem_cons_self with hkind | hkind <;>
      simp [stepWithin, hkind]

theorem leads_lineRun {rules : List Transition} (hcursor : cursor.AtLine event)
    (hlines : LineRun file event used rules) :
    Leads file (.within complete draft cursor) used
      (.within complete (draft.addTransitions rules) (.nextLine event)) := by
  induction hlines generalizing draft cursor with
  | one hline hseparators => exact (leads_line hcursor hline).append (leads_separators hseparators)
  | cons hline hseparators _ ih =>
    rw [← addTransitions_addTransitions]
    exact ((leads_line hcursor hline).append (leads_separators hseparators)).append (ih .next)

/-- The name of an event and the opening brace of its block. -/
theorem leads_eventOpening {name opening : Token} (hname : name.kind = identifier)
    (hopening : opening.kind = leftBrace) :
    Leads file (.within complete draft .body) [name, opening] (.within complete
      { draft with part := some .events } (.firstLine (declare file name))) :=
  .cons (.within complete { draft with part := some .events } (.eventOpening (declare file name)))
    (by simp [stepWithin, stepBody, hname])
    (.single (by simp [stepWithin, require, hopening]))

theorem leads_eventBlock {rules : List Transition} (hblock : EventBlock file used rules) :
    Leads file (.within complete draft .body) used (.within complete { draft with
      part := some .events, transitions := draft.transitions ++ rules } .body) := by
  cases hblock with
  | intro hname hopening hbody hclosing =>
    exact ((leads_eventOpening hname hopening).append (leads_lineRun .first hbody)).append
      (.single (by simp [stepWithin, hclosing, Draft.addTransitions]))

theorem exists_leads_eventRun {rules : List Transition} (hevents : EventRun file used rules) :
    ∃ later, Leads file (.within complete draft .body) used (.within complete later .body) := by
  induction hevents generalizing draft with
  | nil => exact ⟨draft, .nil⟩
  | cons hblock hseparators _ ih =>
    obtain ⟨later, hlater⟩ := ih
    exact ⟨later, ((leads_eventBlock hblock).append (leads_semicolons hseparators)).append hlater⟩

end FsmCompiler.Reader
