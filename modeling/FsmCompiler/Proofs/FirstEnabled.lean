/-
# The first enabled rule fires

Dispatching on a variant of a running machine tries the rules that leave the state, in
declaration order: the guards are asked one after the other, the first rule whose guard
accepts fires, and if none does the variant stays as it is. This holds over all runs, exactly
if the events of the rules that can be tried and the resources stay apart as identifiers from
each other and from what the dispatch function uses itself.
-/

import FsmCompiler.Proofs.Conformance
import FsmCompiler.Proofs.DispatchArms
import FsmCompiler.Proofs.FrameRun
import Mathlib.Data.List.Nodup

namespace FsmCompiler.Running

open Text (compatible)
open Dispatch (runIn)

variable {m : FsmCompiler.Machine} {load : Nat} {source : Option String} {module : LoadedModule}
  {hooks : Hooks} {r : RunningMachine} {v : RunningVariant} {guardValues actionValues : List Datum}

/-! ## Branches -/

/-- The branch of a variant asks the events of the rules that leave its state. -/
theorem find?_branch {w : Variant} (hw : w ∈ m.variants)
    (hnodup : (m.variants.map fun v => compatible v.tag).Nodup) :
    (m.arms.map Machine.branchDef).find? (compatible ·.tag == compatible w.tag) =
      some ⟨w.tag, (m.transitionsFrom w.state.name).map (·.event.name)⟩ := by
  cases hfound : (m.arms.map Machine.branchDef).find? (compatible ·.tag == compatible w.tag) with
  | none =>
    obtain ⟨arm, harm, rfl⟩ := Machine.exists_arm hw
    rw [List.find?_eq_none] at hfound
    exact absurd (beq_self_eq_true _) (hfound _ (List.mem_map.2 ⟨arm, harm, rfl⟩))
  | some branch =>
    obtain ⟨arm, harm, rfl⟩ := List.mem_map.1 (List.mem_of_find?_eq_some hfound)
    have htag : compatible arm.variant.tag = compatible w.tag := by
      simpa [Machine.branchDef] using List.find?_some hfound
    obtain ⟨hmem, hchain⟩ := Machine.arm_of_mem harm
    have hsame : arm.variant = w := List.inj_on_of_nodup_map hnodup hmem hw htag
    simp only [Machine.branchDef, hchain, hsame, Machine.chainFrom, List.map_map]
    rfl

/-- The tags of a loaded module are different identifiers. -/
theorem nodup_tagIdentifiers (hload : LoadedModule.ofMachine load m source = .ok module) :
    (m.variants.map fun v => compatible v.tag).Nodup := by
  obtain ⟨-, -, -, kind, -, hkind, -⟩ := ofMachine_eq_ok_iff.1 hload
  obtain ⟨tags, -, -, -, htags, -⟩ := machineClass_eq_ok_iff.1 hkind
  obtain ⟨rfl, hnodup⟩ := tagMembers_eq_ok htags (by simp)
  have hmap : m.variants.map (fun v => compatible v.tag) =
      ([] ++ (m.compile source).tags.map (tagOf load (globalsOf m load))).map TagMember.name := by
    change _ = ((m.variants.map (·.tag)).map (tagOf load (globalsOf m load))).map TagMember.name
    rw [List.map_map, List.map_map]
    rfl
  rw [hmap]
  exact hnodup

/-! ## What is promised -/

/-- What a call of the dispatch function on the variant `v` may give, where `rules` are
still to be tried: the guards are asked one after the other, and the first rule whose guard
accepts fires, after its action. Related are the rules, the values for guards and actions,
and the outcome. -/
inductive Answers (m : FsmCompiler.Machine) (module : LoadedModule) (hooks : Hooks)
    (v : RunningVariant) : List Transition → List Datum → List Datum → Outcome RunningVariant → Prop
  /-- No rule is left. -/
  | stays {given acting} : Answers m module hooks v [] given acting ⟨.ok v, [], given ++ acting⟩
  /-- The guard refuses, and the next rule is tried. -/
  | refused {t rest given acting asked left result calls args}
      (hguard : isEnabled hooks (m.classOf module.load t.event.name) given =
        ⟨.ok false, asked, left⟩)
      (hrest : Answers m module hooks v rest (overwrite given left) acting ⟨result, calls, args⟩) :
      Answers m module hooks v (t :: rest) given acting ⟨result, asked ++ calls, args⟩
  /-- The guard is missing or fails. -/
  | guardFails {t rest given acting asked left e}
      (hguard : isEnabled hooks (m.classOf module.load t.event.name) given =
        ⟨.error e, asked, left⟩) :
      Answers m module hooks v (t :: rest) given acting
        ⟨.error e, asked, overwrite given left ++ acting⟩
  /-- The guard accepts, and the action fails. -/
  | actionFails {t rest given acting asked left acted actingLeft e}
      (hguard : isEnabled hooks (m.classOf module.load t.event.name) given =
        ⟨.ok true, asked, left⟩)
      (haction : runAction hooks (m.classOf module.load t.event.name) acting =
        ⟨.error e, acted, actingLeft⟩) :
      Answers m module hooks v (t :: rest) given acting
        ⟨.error e, asked ++ acted, overwrite given left ++ overwrite acting actingLeft⟩
  /-- The guard accepts, the action runs, and the rule leads to its target. -/
  | fires {t rest given acting asked left acted actingLeft r tag}
      (hguard : isEnabled hooks (m.classOf module.load t.event.name) given =
        ⟨.ok true, asked, left⟩)
      (haction : runAction hooks (m.classOf module.load t.event.name) acting =
        ⟨.ok (), acted, actingLeft⟩)
      (hstate : InState m module t.target.name r)
      (hentered : EnteredBy m module.load r (some t.event.name))
      (htag : tag ∈ module.kind.tags)
      (hvalue : tag.value = Naming.transitionTag t.target.name t.event.name) :
      Answers m module hooks v (t :: rest) given acting
        ⟨.ok ⟨.member tag, r⟩, asked ++ acted, overwrite given left ++ overwrite acting actingLeft⟩

/-- Machines that come of starting a machine, following events and dispatching, in any
order. -/
inductive Live (module : LoadedModule) : RunningMachine → Prop
  | new {state r} (hnew : RunningMachine.new module.kind state = .ok r) : Live module r
  | follow {r event r'} (hlive : Live module r) (hfollow : r.follow event = .ok r') :
      Live module r'
  | dispatch {r v hooks args v'} (hlive : Live module r) (hvariant : r.asVariant = .ok v)
      (hdispatch : (dispatch module hooks v args).result = .ok v') : Live module v'.machine

/-- Dispatching fires the first enabled rule. -/
structure Dispatches (m : FsmCompiler.Machine) (module : LoadedModule) : Prop where
  /-- A live machine is in a state and was led there by an event, if it has not just started,
  and its tag says so. -/
  live : ∀ r, Live module r → ∃ s event tag, InState m module s r ∧
    EnteredBy m module.load r event ∧ r.asVariant = .ok ⟨.member tag, r⟩ ∧
    tag ∈ module.kind.tags ∧ tag.value = Machine.tagText s event
  /-- On the variant of a live machine, the rules that leave its state are tried, with a
  value for each resource. -/
  answers : ∀ s v, Live module v.machine → InState m module s v.machine →
    v.machine.asVariant = .ok v → ∀ guardValues actionValues,
      guardValues.length = m.guardResources.length →
      actionValues.length = m.actionResources.length → ∀ hooks,
        Answers m module hooks v (m.transitionsFrom s) guardValues actionValues
          (dispatch module hooks v (guardValues ++ actionValues))

/-! ## Live machines -/

theorem machine_of_asVariant (hvariant : r.asVariant = .ok v) : v.machine = r := by
  unfold RunningMachine.asVariant RunningMachine.operation at hvariant
  split at hvariant
  · cases hvariant
  · obtain ⟨tag?, -, htag⟩ := bind_eq_ok_iff.1 hvariant
    cases tag? with
    | none => cases htag
    | some tag =>
      cases htag
      rfl

/-- Dispatching gives the variant of the machine itself or of one behind an event that it
follows. -/
theorem eq_or_follow_of_dispatch {args : List Datum} {v' : RunningVariant}
    (hdispatch : (dispatch module hooks v args).result = .ok v') :
    v.machine.asVariant = .ok v' ∨
      ∃ c r', v.machine.follow (.label c) = .ok r' ∧ r'.asVariant = .ok v' := by
  cases harity : arityError? module.params args.length with
  | some fault =>
    rw [dispatch_of_arity harity] at hdispatch
    cases hdispatch
  | none =>
    rw [dispatch_of_length (arityError?_eq_none_iff.1 harity)] at hdispatch
    change (runIn Dispatch.run _).1 = .ok v' at hdispatch
    by_cases hvisible : Dispatch.TagsVisible (Frame.starting module hooks v args)
    · rw [Dispatch.runIn_run_of_tagsVisible hvisible] at hdispatch
      split at hdispatch
      · exact Dispatch.eq_or_follow_of_firstEnabled hdispatch
      · obtain ⟨e, hunknown⟩ := Dispatch.runIn_unknown
        rw [hunknown] at hdispatch
        cases hdispatch
    · obtain ⟨e, hhidden⟩ := Dispatch.runIn_run_of_not_tagsVisible hvisible
      rw [hhidden] at hdispatch
      cases hdispatch

/-- Dispatching reaches nothing that following events does not reach. -/
theorem Live.reached (hlive : Live module r) : Reached module.kind r := by
  induction hlive with
  | new hnew => exact .new hnew
  | follow _ hfollow ih => exact .follow ih hfollow
  | dispatch _ hvariant hdispatch ih =>
    rw [← machine_of_asVariant hvariant] at ih
    rcases eq_or_follow_of_dispatch hdispatch with hsame | ⟨c, r', hfollow, hnext⟩
    · rw [machine_of_asVariant hsame]
      exact ih
    · rw [machine_of_asVariant hnext]
      exact .follow ih hfollow

/-! ## Declared machines keep the promise -/

/-- The parameters behind the variant are those of the resources. -/
def ResourceParams (module : LoadedModule) : Prop :=
  module.params = (module.code.guardResources ++ module.code.actionResources).map parameterOf

theorem map_snd_zip {keys : List String} {values : List Datum}
    (hlength : keys.length = values.length) : (keys.zip values).map (·.2) = values :=
  List.map_snd_zip (Nat.le_of_eq hlength.symm)

theorem values_holding {calls : List Call}
    (hsupplied : Supplied module.code guardValues actionValues) :
    (Frame.holding module hooks v guardValues actionValues calls).values.map (·.2) =
      guardValues ++ actionValues := by
  rw [Frame.holding, List.map_append, map_snd_zip (by simpa using hsupplied.guards),
    map_snd_zip (by simpa using hsupplied.actions)]

/-- Dispatching runs in a frame that holds the values of the resources. -/
theorem dispatch_of_supplied (hooks : Hooks) (v : RunningVariant) (hparams : ResourceParams module)
    (hsupplied : Supplied module.code guardValues actionValues) :
    dispatch module hooks v (guardValues ++ actionValues) =
      let (result, frame) := Dispatch.run.runIn
        (Frame.holding module hooks v guardValues actionValues [])
      ⟨result, frame.calls, frame.values.map (·.2)⟩ := by
  have hlength : module.params.length = (guardValues ++ actionValues).length := by
    rw [hparams, List.length_map, List.length_append, List.length_append, hsupplied.guards,
      hsupplied.actions]
  have hvalues : module.params.zip (guardValues ++ actionValues) =
      (Frame.holding module hooks v guardValues actionValues []).values := by
    rw [hparams, List.map_append, List.zip_append (by simpa using hsupplied.guards)]
    rfl
  rw [dispatch_of_length hlength, Frame.starting, hvalues]
  rfl

/-- An event name that means its class in the dispatch function: no local name and no
parameter hides it. -/
structure EventVisible (m : FsmCompiler.Machine) (module : LoadedModule) (name : String) :
    Prop where
  owns : module.globals.find? name = some (m.classOf module.load name)
  free : compatible name ∉ Validation.dispatchNames
  apart : compatible name ∉
    (module.code.guardResources ++ module.code.actionResources).map parameterOf

theorem EventVisible.event {name : String} {calls : List Call}
    (hvisible : EventVisible m module name)
    (hsupplied : Supplied module.code guardValues actionValues) :
    (Frame.holding module hooks v guardValues actionValues calls).event name =
      .ok (m.classOf module.load name) := by
  have hlocal : (Frame.holding module hooks v guardValues actionValues calls).localType? name =
      none := (Frame.localType?_holding hsupplied).2 ⟨hvisible.free, hvisible.apart⟩
  have howns : (Frame.holding module hooks v guardValues actionValues calls).module.globals.find?
      name = some (m.classOf module.load name) := hvisible.owns
  exact Frame.event_eq_ok_iff.2 ⟨hlocal, howns⟩

theorem runIn_ask_holding {c : LabelClass} {calls asked : List Call} {left : List Datum}
    {result : Except RunError Bool} (hplain : PlainResources module.code)
    (hsupplied : Supplied module.code guardValues actionValues)
    (hguard : isEnabled hooks c guardValues = ⟨result, asked, left⟩) :
    (Dispatch.ask c).runIn (Frame.holding module hooks v guardValues actionValues calls) =
      (result, Frame.holding module hooks v (overwrite guardValues left) actionValues
        (calls ++ asked)) := by
  rw [Dispatch.runIn_ask, Frame.module_holding, Frame.hooks_holding,
    Frame.argsOf_guards hplain hsupplied, hguard, Frame.afterCall_guards hplain hsupplied]

theorem runIn_act_holding {c : LabelClass} {calls acted : List Call} {left : List Datum}
    {result : Except RunError Unit} (hplain : PlainResources module.code)
    (hsupplied : Supplied module.code guardValues actionValues)
    (haction : runAction hooks c actionValues = ⟨result, acted, left⟩) :
    (Dispatch.act c).runIn (Frame.holding module hooks v guardValues actionValues calls) =
      (result, Frame.holding module hooks v guardValues (overwrite actionValues left)
        (calls ++ acted)) := by
  rw [Dispatch.runIn_act, Frame.module_holding, Frame.hooks_holding,
    Frame.argsOf_actions hplain hsupplied, haction, Frame.afterCall_actions hplain hsupplied]

/-- Behind a rule a machine is at the variant of the rule. -/
theorem exists_variant_of_rule {s : String} {t : Transition} (hvalid : m.Valid)
    (hload : module.load = load + 1) (hkind : module.kind = declaredKind m module.load)
    (ht : t ∈ m.transitionsFrom s) (hstate : InState m module s r) :
    ∃ r' tag, (r.follow (.label (m.classOf module.load t.event.name))).bind
        RunningMachine.asVariant = .ok ⟨.member tag, r'⟩ ∧
      InState m module t.target.name r' ∧ EnteredBy m module.load r' (some t.event.name) ∧
      tag ∈ module.kind.tags ∧ tag.value = Naming.transitionTag t.target.name t.event.name := by
  obtain ⟨hmem, hsource⟩ := List.mem_filter.1 ht
  rw [← beq_iff_eq.1 hsource] at hstate
  have hstands : StandsFor m module.load (.label (m.classOf module.load t.event.name))
      t.event.name := rfl
  have hentered : EnteredBy m module.load
      ⟨module.kind, .label (m.classOf module.load t.target.name),
      .label (m.classOf module.load t.event.name), 0, []⟩ (some t.event.name) := by
    rw [hload]
    exact enteredBy_some _
  obtain ⟨w, hw, hstate', hevent'⟩ := hvalid.exists_entered_variant hmem
  have hat : AtVariant m module w ⟨module.kind, .label (m.classOf module.load t.target.name),
      .label (m.classOf module.load t.event.name), 0, []⟩ :=
    ⟨hw, ⟨rfl, by rw [hstate'], rfl⟩, hevent' ▸ hentered⟩
  rw [follow_of_rule hvalid hkind hmem hstate hstands]
  refine ⟨_, _, hat.asVariant hload hkind, ⟨rfl, rfl, rfl⟩, hentered, ?_, ?_⟩
  · rw [hkind]
    exact List.mem_map.2 ⟨w, hw, rfl⟩
  · rw [tagOf, Machine.variant_tag hw, hstate', hevent']
    rfl

/-- Where the guard of the first rule accepts, its action runs, and the rule leads to its
target. -/
theorem answers_of_accepted {s : String} {t : Transition} {rest : List Transition}
    {calls asked : List Call} {left : List Datum} {result : Except RunError RunningVariant}
    {frame : Frame} (hvalid : m.Valid) (hload : module.load = load + 1)
    (hkind : module.kind = declaredKind m module.load) (hplain : PlainResources module.code)
    (hsupplied : Supplied module.code guardValues actionValues)
    (hstate : InState m module s v.machine) (ht : t ∈ m.transitionsFrom s)
    (hvisible : EventVisible m module t.event.name)
    (hguard : isEnabled hooks (m.classOf module.load t.event.name) guardValues =
      ⟨.ok true, asked, left⟩)
    (hrun : (Dispatch.firstEnabled v.machine (t.event.name :: rest.map (·.event.name))).runIn
      (Frame.holding module hooks v guardValues actionValues calls) = (result, frame)) :
    ∃ later, frame.calls = calls ++ later ∧
      Answers m module hooks v (t :: rest) guardValues actionValues
        ⟨result, later, frame.values.map (·.2)⟩ := by
  cases haction : runAction hooks (m.classOf module.load t.event.name) actionValues with
  | mk ran acted actingLeft =>
    have hlast := (hsupplied.afterGuard left).afterAction actingLeft
    cases ran with
    | error e =>
      rw [Dispatch.runIn_firstEnabled_of_act_error (hvisible.event hsupplied)
        (runIn_ask_holding hplain hsupplied hguard)
        (runIn_act_holding hplain (hsupplied.afterGuard left) haction)] at hrun
      cases hrun
      refine ⟨asked ++ acted, List.append_assoc _ _ _, ?_⟩
      rw [values_holding hlast]
      exact .actionFails hguard haction
    | ok =>
      obtain ⟨r', tag, hnext, hstate', hentered, htag, hvalue⟩ :=
        exists_variant_of_rule hvalid hload hkind ht hstate
      rw [Dispatch.runIn_firstEnabled_of_accepted (hvisible.event hsupplied)
        (runIn_ask_holding hplain hsupplied hguard)
        (runIn_act_holding hplain (hsupplied.afterGuard left) haction), hnext] at hrun
      cases hrun
      refine ⟨asked ++ acted, List.append_assoc _ _ _, ?_⟩
      rw [values_holding hlast]
      exact .fires hguard haction hstate' hentered htag hvalue

/-- The search answers for the rules whose events it is given. The induction follows the
rules; the values of the guards and the calls change from one to the next. -/
theorem answers_of_firstEnabled {s : String} {rules : List Transition} {calls : List Call}
    {result : Except RunError RunningVariant} {frame : Frame} (hvalid : m.Valid)
    (hload : module.load = load + 1) (hkind : module.kind = declaredKind m module.load)
    (hplain : rules ≠ [] → PlainResources module.code)
    (hsupplied : Supplied module.code guardValues actionValues)
    (hstate : InState m module s v.machine) (hvariant : v.machine.asVariant = .ok v)
    (hrules : ∀ t ∈ rules, t ∈ m.transitionsFrom s ∧ EventVisible m module t.event.name)
    (hrun : (Dispatch.firstEnabled v.machine (rules.map (·.event.name))).runIn
      (Frame.holding module hooks v guardValues actionValues calls) = (result, frame)) :
    ∃ later, frame.calls = calls ++ later ∧
      Answers m module hooks v rules guardValues actionValues
        ⟨result, later, frame.values.map (·.2)⟩ := by
  induction rules generalizing guardValues calls with
  | nil =>
    rw [List.map_nil, Dispatch.runIn_firstEnabled_nil, hvariant] at hrun
    cases hrun
    refine ⟨[], (List.append_nil _).symm, ?_⟩
    rw [values_holding hsupplied]
    exact .stays
  | cons t rest ih =>
    obtain ⟨ht, hvisible⟩ := hrules t (by simp)
    have hplain : PlainResources module.code := hplain (by simp)
    rw [List.map_cons] at hrun
    cases hguard : isEnabled hooks (m.classOf module.load t.event.name) guardValues with
    | mk enabled asked left =>
      cases enabled with
      | error e =>
        rw [Dispatch.runIn_firstEnabled_of_ask_error (hvisible.event hsupplied)
          (runIn_ask_holding hplain hsupplied hguard)] at hrun
        cases hrun
        refine ⟨asked, rfl, ?_⟩
        rw [values_holding (hsupplied.afterGuard left)]
        exact .guardFails hguard
      | ok enabled =>
        cases enabled with
        | false =>
          rw [Dispatch.runIn_firstEnabled_of_refused (hvisible.event hsupplied)
            (runIn_ask_holding hplain hsupplied hguard)] at hrun
          obtain ⟨later, hcalls, hanswers⟩ := ih (fun _ => hplain) (hsupplied.afterGuard left)
            (fun u hu => hrules u (by simp [hu])) hrun
          exact ⟨asked ++ later, by rw [hcalls, List.append_assoc], .refused hguard hanswers⟩
        | true =>
          exact answers_of_accepted hvalid hload hkind hplain hsupplied hstate ht hvisible
            hguard hrun

/-- The states that runs reach: the initial ones, and the targets of the rules that leave
them. -/
inductive Reaches (m : FsmCompiler.Machine) : String → Prop
  | initial {s} (hs : s ∈ m.initialNames) : Reaches m s
  | rule {t} (ht : t ∈ m.transitions) (hsource : Reaches m t.source.name) :
      Reaches m t.target.name

/-- The names that the dispatch function uses stay apart: as identifiers, the events of the
rules that a run can try differ from its local variables and its parameters, and no
parameter takes the place of the tag, of the machine or of the tags of the module, where they
are used. -/
structure DispatchApart (m : FsmCompiler.Machine) : Prop where
  events : ∀ t ∈ m.transitions, Reaches m t.source.name →
    compatible t.event.name ∉ Validation.dispatchNames ∧
      compatible t.event.name ∉ (m.guardResources ++ m.actionResources).map parameterOf
  locals : ∀ t ∈ m.transitions, Reaches m t.source.name → ∀ name ∈ [tagLocal, machineLocal],
    name ∉ (m.guardResources ++ m.actionResources).map parameterOf
  tags : m.initialNames ≠ [] →
    tagTypeName ∉ (m.guardResources ++ m.actionResources).map parameterOf

theorem Reaches.initialNames_ne_nil {s : String} (hreaches : Reaches m s) :
    m.initialNames ≠ [] := by
  induction hreaches with
  | initial hs => exact List.ne_nil_of_mem hs
  | rule _ _ ih => exact ih

theorem InState.unique {s s' : String} (hs : InState m module s r) (hs' : InState m module s' r) :
    s = s' := by
  have hstate := hs.state.symm.trans hs'.state
  rw [Value.label.injEq, Machine.classOf_inj] at hstate
  exact hstate

/-- A machine that is reached is in a state that runs reach. -/
theorem Reached.reaches (hvalid : m.Valid) (hkind : module.kind = declaredKind m module.load)
    (hreached : Reached module.kind r) : ∃ s, InState m module s r ∧ Reaches m s := by
  induction hreached with
  | new hnew =>
    obtain ⟨s, hs, rfl⟩ := new_cases hkind hnew
    exact ⟨s, ⟨rfl, rfl, rfl⟩, .initial hs⟩
  | follow _ hfollow ih =>
    obtain ⟨s, hr, hreaches⟩ := ih
    obtain ⟨t, ht, rfl, rfl⟩ := follow_cases hvalid hkind hr hfollow
    exact ⟨t.target.name, ⟨rfl, rfl, rfl⟩, .rule ht hreaches⟩

/-- Each state that runs reach is that of a live machine. -/
theorem Reaches.exists_live {s : String} (hvalid : m.Valid)
    (hkind : module.kind = declaredKind m module.load) (hreaches : Reaches m s) :
    ∃ r, Live module r ∧ InState m module s r := by
  induction hreaches with
  | initial hs =>
    exact ⟨_, .new (new_eq_ok hkind hs (show StandsFor m module.load
      (.label (m.classOf module.load _)) _ from rfl)), ⟨rfl, rfl, rfl⟩⟩
  | @rule t ht _ ih =>
    obtain ⟨r, hlive, hr⟩ := ih
    exact ⟨_, .follow hlive (follow_of_rule hvalid hkind ht hr (show StandsFor m module.load
      (.label (m.classOf module.load t.event.name)) _ from rfl)), ⟨rfl, rfl, rfl⟩⟩

/-- The variant of a machine at a variant. -/
theorem AtVariant.tag {w : Variant} (hload : module.load = load + 1)
    (hkind : module.kind = declaredKind m module.load) (hat : AtVariant m module w v.machine)
    (hvariant : v.machine.asVariant = .ok v) :
    v.tag = .member (tagOf module.load (globalsOf m module.load) w.tag) := by
  rw [hat.asVariant hload hkind] at hvariant
  exact congrArg RunningVariant.tag (Except.ok.inj hvariant).symm

/-- The branch of a variant of a loaded module. -/
theorem branch?_of_tag {w : Variant} {tag : Tag}
    (hload : LoadedModule.ofMachine load m source = .ok module) (hw : w ∈ m.variants)
    (htag : tag = .member (tagOf module.load (globalsOf m module.load) w.tag)) :
    Dispatch.branch? module tag =
      some ⟨w.tag, (m.transitionsFrom w.state.name).map (·.event.name)⟩ := by
  have hfound := find?_branch hw (nodup_tagIdentifiers hload)
  obtain ⟨-, doc, signature, kind, -, -, rfl⟩ := ofMachine_eq_ok_iff.1 hload
  rw [htag]
  exact (if_pos rfl).trans hfound

theorem compatible_tagTypeName : compatible tagTypeName = tagTypeName := by
  decide +kernel

/-- The tags are hidden only by a parameter. -/
theorem tagsVisible_of_not_mem (hooks : Hooks) (v : RunningVariant)
    (hsupplied : Supplied module.code guardValues actionValues)
    (htags : tagTypeName ∉
      (module.code.guardResources ++ module.code.actionResources).map parameterOf) :
    Dispatch.TagsVisible (Frame.holding module hooks v guardValues actionValues []) := by
  refine .inr ((Frame.localType?_holding hsupplied).2 ?_)
  rw [compatible_tagTypeName]
  exact ⟨by decide, htags⟩

/-- Dispatching searches the events of the branch. -/
theorem runIn_run_holding {branch : BranchDef}
    (hvisible : Dispatch.TagsVisible (Frame.holding module hooks v guardValues actionValues []))
    (hbranch : Dispatch.branch? module v.tag = some branch) :
    Dispatch.run.runIn (Frame.holding module hooks v guardValues actionValues []) =
      (Dispatch.firstEnabled v.machine branch.events).runIn
        (Frame.holding module hooks v guardValues actionValues []) := by
  have hrun := Dispatch.runIn_run_of_tagsVisible hvisible
  rw [Frame.holding, hbranch, ← Frame.holding] at hrun
  exact hrun

/-- Each resource has a parameter of its own. -/
theorem supplied_of_length (hload : LoadedModule.ofMachine load m source = .ok module)
    (hparams : ResourceParams module) (hnodup : module.params.Nodup)
    (hguards : guardValues.length = m.guardResources.length)
    (hactions : actionValues.length = m.actionResources.length) :
    Supplied module.code guardValues actionValues := by
  have hcode := (loadedFrom_of_ofMachine hload).code
  refine ⟨hparams ▸ hnodup, ?_, ?_⟩
  · rw [hcode]
    exact hguards.symm
  · rw [hcode]
    exact hactions.symm

theorem dispatches_of_dispatchApart (hapart : NamesApart m) (hdispatch : DispatchApart m)
    (hload : LoadedModule.ofMachine (load + 1) m source = .ok module)
    (hparams : ResourceParams module) (hnodup : module.params.Nodup) : Dispatches m module := by
  have hkind := kind_of_ofMachine hapart hload
  obtain ⟨hvalid, hcode, hglobals, hmodule⟩ := loadedFrom_of_ofMachine hload
  constructor
  case live =>
    intro r hlive
    obtain ⟨w, hw⟩ := hlive.reached.exists_atVariant hvalid hmodule hkind
    refine ⟨_, _, _, hw.state, hw.entered, hw.asVariant hmodule hkind, ?_,
      Machine.variant_tag hw.declared⟩
    rw [hkind]
    exact List.mem_map.2 ⟨w, hw.declared, rfl⟩
  case answers =>
    intro s v hlive hs hvariant guardValues actionValues hguards hactions hooks
    have hsupplied := supplied_of_length hload hparams hnodup hguards hactions
    obtain ⟨w, hw⟩ := hlive.reached.exists_atVariant hvalid hmodule hkind
    obtain ⟨s', hs', hreaches⟩ := hlive.reached.reaches hvalid hkind
    obtain rfl := hs.unique hs'
    have hsame := hs.unique hw.state
    have hvisible : Dispatch.TagsVisible
        (Frame.holding module hooks v guardValues actionValues []) :=
      tagsVisible_of_not_mem _ _ hsupplied (hcode ▸ hdispatch.tags hreaches.initialNames_ne_nil)
    have hrun := runIn_run_holding hvisible
      (branch?_of_tag hload hw.declared (hw.tag hmodule hkind hvariant))
    rw [← hsame] at hrun
    have hsource : ∀ t ∈ m.transitionsFrom s, t ∈ m.transitions ∧ Reaches m t.source.name := by
      intro t ht
      obtain ⟨hmem, hname⟩ := List.mem_filter.1 ht
      exact ⟨hmem, (beq_iff_eq.1 hname).symm ▸ hreaches⟩
    have hplain : m.transitionsFrom s ≠ [] → PlainResources module.code := by
      intro hne
      obtain ⟨t, ht⟩ := List.exists_mem_of_ne_nil _ hne
      obtain ⟨hmem, hfrom⟩ := hsource t ht
      intro r hr hlocal
      rw [hcode] at hr
      exact hdispatch.locals t hmem hfrom _ hlocal (List.mem_map.2 ⟨r, hr, rfl⟩)
    have hrules : ∀ t ∈ m.transitionsFrom s,
        t ∈ m.transitionsFrom s ∧ EventVisible m module t.event.name := by
      intro t ht
      obtain ⟨hmem, hfrom⟩ := hsource t ht
      obtain ⟨hfree, hnone⟩ := hdispatch.events t hmem hfrom
      refine ⟨ht, ?_, hfree, hcode ▸ hnone⟩
      rw [hglobals]
      exact (distinctLabels_iff hvalid).1 hapart.distinct _ (Machine.event_mem_labelNames hmem)
    rw [dispatch_of_supplied _ _ hparams hsupplied]
    cases hout : Dispatch.run.runIn (Frame.holding module hooks v guardValues actionValues []) with
    | mk result frame =>
      rw [hout] at hrun
      obtain ⟨calls, hcalls, hanswers⟩ := answers_of_firstEnabled hvalid hmodule hkind hplain
        hsupplied hs hvariant hrules hrun.symm
      rw [List.nil_append] at hcalls
      rw [← hcalls] at hanswers
      exact hanswers

/-! ## Names that do not stay apart -/

/-- Every guard gives the same answer, and every action succeeds. Hooks of the base of all
events are those of each event. -/
def uniformHooks (enabled : Bool) : Hooks :=
  [(LabelClass.event.id, ⟨some (some ⟨"", fun args => ⟨.ok (.bool enabled), args⟩⟩),
    some (some ⟨"", fun args => ⟨.ok .null, args⟩⟩)⟩)]

theorem find?_uniformHooks (enabled : Bool) (role : HookRole) (c : ClassId) :
    (uniformHooks enabled).find? role c =
      match role with
      | .guard => some ⟨"", fun args => ⟨.ok (.bool enabled), args⟩⟩
      | .action => some ⟨"", fun args => ⟨.ok .null, args⟩⟩ := by
  by_cases hc : c = LabelClass.event.id
  · subst hc
    cases role <;> rfl
  · have hne : (c == LabelClass.event.id) = false := beq_eq_false_iff_ne.2 hc
    have hown : Hooks.own (uniformHooks enabled) c = .untouched := by
      simp [Hooks.own, uniformHooks, List.lookup_cons, hne]
    rw [Hooks.find?, if_neg hc, Hooks.findAlong, hown]
    cases role <;> rfl

theorem isEnabled_uniformHooks (enabled : Bool) (c : LabelClass) (args : List Datum) :
    isEnabled (uniformHooks enabled) c args = ⟨.ok enabled, [⟨.guard, "", args⟩], args⟩ := by
  unfold isEnabled
  rw [find?_uniformHooks]
  rfl

theorem runAction_uniformHooks (enabled : Bool) (c : LabelClass) (args : List Datum) :
    runAction (uniformHooks enabled) c args = ⟨.ok (), [⟨.action, "", args⟩], args⟩ := by
  unfold runAction
  rw [find?_uniformHooks]
  rfl

/-- Where every guard refuses, the variant stays as it is. -/
theorem Answers.result_of_refusing {rules : List Transition} {given acting : List Datum}
    {outcome : Outcome RunningVariant}
    (hanswers : Answers m module (uniformHooks false) v rules given acting outcome) :
    outcome.result = .ok v := by
  induction hanswers with
  | stays => rfl
  | refused _ _ ih => exact ih
  | guardFails hguard =>
    rw [isEnabled_uniformHooks] at hguard
    cases hguard
  | actionFails hguard _ =>
    rw [isEnabled_uniformHooks] at hguard
    cases hguard
  | fires hguard _ _ _ _ _ =>
    rw [isEnabled_uniformHooks] at hguard
    cases hguard

/-- Where every guard accepts, the first rule fires, with the values that were given. -/
theorem Answers.calls_of_accepting {t : Transition} {rest : List Transition}
    {given acting : List Datum} {outcome : Outcome RunningVariant}
    (hanswers : Answers m module (uniformHooks true) v (t :: rest) given acting outcome) :
    (∃ v', outcome.result = .ok v') ∧
      outcome.calls = [⟨.guard, "", given⟩, ⟨.action, "", acting⟩] := by
  cases hanswers with
  | refused hguard _ =>
    rw [isEnabled_uniformHooks] at hguard
    cases hguard
  | guardFails hguard =>
    rw [isEnabled_uniformHooks] at hguard
    cases hguard
  | actionFails _ haction =>
    rw [runAction_uniformHooks] at haction
    cases haction
  | fires hguard haction _ _ _ _ =>
    rw [isEnabled_uniformHooks] at hguard
    rw [runAction_uniformHooks] at haction
    cases hguard
    cases haction
    exact ⟨⟨_, rfl⟩, rfl⟩

/-- A resource that is a local variable is given as a text. -/
theorem exists_text_mem_argsOf {frame : Frame} {tag : TagMember} {resources : List Resource}
    {resource : Resource} (htag : frame.variant.tag = .member tag) (hmem : resource ∈ resources)
    (hlocal : parameterOf resource ∈ [tagLocal, machineLocal]) :
    ∃ text, .text text ∈ frame.argsOf resources := by
  have hvalue : ∃ text, frame.localValue? (compatible resource.name) = some (.text text) := by
    rcases List.mem_pair.1 hlocal with hname | hname
    · refine ⟨tag.value, (if_pos hname).trans ?_⟩
      rw [htag]
    · have hname : compatible resource.name = machineLocal := hname
      rw [hname]
      exact ⟨_, rfl⟩
  obtain ⟨text, hvalue⟩ := hvalue
  refine ⟨text, List.mem_map.2 ⟨resource, hmem, ?_⟩⟩
  simp only [hvalue]

/-- Where every guard refuses, a search that succeeds has found every event. -/
theorem not_hidden_of_firstEnabled {names : List String} {calls : List Call} {v' : RunningVariant}
    (hplain : PlainResources module.code)
    (hsupplied : Supplied module.code guardValues actionValues)
    (hresult : ((Dispatch.firstEnabled r names).runIn
      (Frame.holding module (uniformHooks false) v guardValues actionValues calls)).1 = .ok v') :
    ∀ name ∈ names, compatible name ∉ Validation.dispatchNames ∧
      compatible name ∉
        (module.code.guardResources ++ module.code.actionResources).map parameterOf := by
  induction names generalizing calls with
  | nil => simp
  | cons name names ih =>
    cases hevent : (Frame.holding module (uniformHooks false) v guardValues actionValues
        calls).event name with
    | error e =>
      rw [Dispatch.runIn_firstEnabled_of_event_error hevent] at hresult
      cases hresult
    | ok c =>
      have hguard := isEnabled_uniformHooks false c guardValues
      rw [Dispatch.runIn_firstEnabled_of_refused hevent (runIn_ask_holding hplain hsupplied hguard),
        overwrite_self] at hresult
      intro other hother
      rcases List.mem_cons.1 hother with rfl | hother
      · exact (Frame.localType?_holding hsupplied).1 (Frame.event_eq_ok_iff.1 hevent).1
      · exact ih hresult other hother

theorem exists_asked {frame : Frame} (c : LabelClass) (hhooks : frame.hooks = uniformHooks true) :
    ∃ next, (Dispatch.ask c).runIn frame = (.ok true, next) ∧ next.variant = frame.variant ∧
      next.hooks = frame.hooks ∧ next.module = frame.module ∧ next.calls = frame.calls ++
        [⟨.guard, "", frame.argsOf frame.module.code.guardResources⟩] := by
  rw [Dispatch.runIn_ask, hhooks, isEnabled_uniformHooks]
  exact ⟨_, rfl, rfl, hhooks, rfl, rfl⟩

theorem exists_acted {frame : Frame} (c : LabelClass) (hhooks : frame.hooks = uniformHooks true) :
    ∃ next, (Dispatch.act c).runIn frame = (.ok (), next) ∧ next.calls = frame.calls ++
      [⟨.action, "", frame.argsOf frame.module.code.actionResources⟩] := by
  rw [Dispatch.runIn_act, hhooks, runAction_uniformHooks]
  exact ⟨_, rfl, rfl⟩

/-- Where every guard accepts, a search that succeeds has given the first guard and its
action the values of the resources. -/
theorem calls_of_firstEnabled {frame : Frame} {name : String} {names : List String}
    {v' : RunningVariant} (hhooks : frame.hooks = uniformHooks true)
    (hresult : ((Dispatch.firstEnabled r (name :: names)).runIn frame).1 = .ok v') :
    ∃ next : Frame, next.variant = frame.variant ∧
      ((Dispatch.firstEnabled r (name :: names)).runIn frame).2.calls =
        frame.calls ++ [⟨.guard, "", frame.argsOf frame.module.code.guardResources⟩,
          ⟨.action, "", next.argsOf frame.module.code.actionResources⟩] := by
  cases hevent : frame.event name with
  | error e =>
    rw [Dispatch.runIn_firstEnabled_of_event_error hevent] at hresult
    cases hresult
  | ok c =>
    obtain ⟨next, hask, hvariant, hsame, hmodule, hcalls⟩ := exists_asked c hhooks
    obtain ⟨last, hact, hlast⟩ := exists_acted c (hsame.trans hhooks)
    refine ⟨next, hvariant, ?_⟩
    rw [Dispatch.runIn_firstEnabled_of_accepted hevent hask hact, hlast, hcalls, hmodule,
      List.append_assoc]
    rfl

/-- A call of the dispatch function that every guard answers in one way. -/
theorem Dispatches.exists_call {s : String} (hdispatches : Dispatches m module) (hvalid : m.Valid)
    (hkind : module.kind = declaredKind m module.load) (hmodule : module.load = load + 1)
    (hreaches : Reaches m s) (guardValues actionValues : List Datum)
    (hguards : guardValues.length = m.guardResources.length)
    (hactions : actionValues.length = m.actionResources.length) :
    ∃ v w, AtVariant m module w v.machine ∧ w.state.name = s ∧
      v.tag = .member (tagOf module.load (globalsOf m module.load) w.tag) ∧
      ∀ enabled, Answers m module (uniformHooks enabled) v (m.transitionsFrom s) guardValues
        actionValues (dispatch module (uniformHooks enabled) v (guardValues ++ actionValues)) := by
  obtain ⟨r, hlive, hr⟩ := hreaches.exists_live hvalid hkind
  obtain ⟨w, hw⟩ := hlive.reached.exists_atVariant hvalid hmodule hkind
  have hvariant := hw.asVariant hmodule hkind
  exact ⟨⟨.member (tagOf module.load (globalsOf m module.load) w.tag), r⟩, w, hw,
    hw.state.unique hr, rfl, fun enabled => hdispatches.answers s _ hlive hr hvariant _ _ hguards
      hactions _⟩

theorem tagsVisible_of_result {frame : Frame} {v' : RunningVariant}
    (hresult : (Dispatch.run.runIn frame).1 = .ok v') : Dispatch.TagsVisible frame := by
  by_cases hvisible : Dispatch.TagsVisible frame
  · exact hvisible
  · obtain ⟨e, hhidden⟩ := Dispatch.runIn_run_of_not_tagsVisible hvisible
    rw [hhidden] at hresult
    cases hresult

/-- Where the tags mean themselves and there is a branch, no parameter has the name of their
type. -/
theorem not_mem_of_tagsVisible {branch : BranchDef}
    (hsupplied : Supplied module.code guardValues actionValues)
    (hbranch : Dispatch.branch? module v.tag = some branch)
    (hvisible : Dispatch.TagsVisible (Frame.holding module hooks v guardValues actionValues [])) :
    tagTypeName ∉
      (module.code.guardResources ++ module.code.actionResources).map parameterOf := by
  rcases hvisible with hempty | hlocal
  · have hempty : module.code.branches = [] := hempty
    cases htag : v.tag <;> simp [Dispatch.branch?, htag, hempty] at hbranch
  · have hfree := ((Frame.localType?_holding hsupplied).1 hlocal).2
    rwa [compatible_tagTypeName] at hfree

/-- Where every guard accepts and the first guard and its action are given the values that were
passed, none of which is a text, no resource is a local variable: that would be given as one. -/
theorem plainResources_of_calls {tag : TagMember} {name : String} {names : List String}
    {v' : RunningVariant} (htag : v.tag = .member tag)
    (hguards : ∀ text, .text text ∉ guardValues) (hactions : ∀ text, .text text ∉ actionValues)
    (hresult : ((Dispatch.firstEnabled r (name :: names)).runIn
      (Frame.holding module (uniformHooks true) v guardValues actionValues [])).1 = .ok v')
    (hcalls : ((Dispatch.firstEnabled r (name :: names)).runIn
      (Frame.holding module (uniformHooks true) v guardValues actionValues [])).2.calls =
        [⟨.guard, "", guardValues⟩, ⟨.action, "", actionValues⟩]) :
    PlainResources module.code := by
  obtain ⟨next, hvariant, hmade⟩ := calls_of_firstEnabled rfl hresult
  rw [hmade] at hcalls
  have hasked : (Frame.holding module (uniformHooks true) v guardValues actionValues []).argsOf
      module.code.guardResources = guardValues := congrArg Call.args (List.cons.inj hcalls).1
  have hacted : next.argsOf module.code.actionResources = actionValues :=
    congrArg Call.args (List.cons.inj (List.cons.inj hcalls).2).1
  intro resource hresource hlocal
  rcases List.mem_append.1 hresource with hguard | haction
  · have hheld : (Frame.holding module (uniformHooks true) v guardValues actionValues
        []).variant.tag = .member tag := htag
    obtain ⟨text, htext⟩ := exists_text_mem_argsOf hheld hguard hlocal
    rw [hasked] at htext
    exact hguards text htext
  · have hnext := (congrArg RunningVariant.tag hvariant).trans htag
    obtain ⟨text, htext⟩ := exists_text_mem_argsOf hnext haction hlocal
    rw [hacted] at htext
    exact hactions text htext

/-- Where dispatching keeps its promise on the variant of a state, the names that it uses
there mean themselves. -/
theorem Dispatches.apart_of_reaches {s : String} (hdispatches : Dispatches m module)
    (hapart : NamesApart m) (hload : LoadedModule.ofMachine (load + 1) m source = .ok module)
    (hparams : ResourceParams module) (hnodup : module.params.Nodup) (hreaches : Reaches m s) :
    tagTypeName ∉ (m.guardResources ++ m.actionResources).map parameterOf ∧
      ∀ t ∈ m.transitionsFrom s,
        (∀ name ∈ [tagLocal, machineLocal],
          name ∉ (m.guardResources ++ m.actionResources).map parameterOf) ∧
        compatible t.event.name ∉ Validation.dispatchNames ∧
        compatible t.event.name ∉ (m.guardResources ++ m.actionResources).map parameterOf := by
  have hkind := kind_of_ofMachine hapart hload
  obtain ⟨hvalid, hcode, -, hmodule⟩ := loadedFrom_of_ofMachine hload
  let nulls (resources : List Resource) : List Datum := resources.map fun _ => .null
  obtain ⟨v, w, hw, rfl, htag, hanswers⟩ := hdispatches.exists_call hvalid hkind hmodule hreaches
    (nulls m.guardResources) (nulls m.actionResources) (by simp [nulls]) (by simp [nulls])
  have hsupplied : Supplied module.code (nulls m.guardResources) (nulls m.actionResources) :=
    supplied_of_length hload hparams hnodup (by simp [nulls]) (by simp [nulls])
  have hbranch := branch?_of_tag hload hw.declared htag
  have hdispatch := fun enabled => dispatch_of_supplied (uniformHooks enabled) v hparams
    hsupplied
  have hresult := (hanswers false).result_of_refusing
  rw [hdispatch] at hresult
  have htags := not_mem_of_tagsVisible hsupplied hbranch (tagsVisible_of_result hresult)
  have hrun := fun enabled => runIn_run_holding
    (tagsVisible_of_not_mem (uniformHooks enabled) v hsupplied htags) hbranch
  rw [hrun] at hresult
  rw [hcode] at htags
  refine ⟨htags, fun t ht => ?_⟩
  have hplain : PlainResources module.code := by
    obtain ⟨first, rest, hrules⟩ := List.exists_cons_of_ne_nil (List.ne_nil_of_mem ht)
    have haccepting := hanswers true
    rw [hrules, hdispatch] at haccepting
    obtain ⟨⟨v', hok⟩, hcalls⟩ := haccepting.calls_of_accepting
    simp only [hrun, hrules, List.map_cons] at hok hcalls
    exact plainResources_of_calls htag (by simp [nulls]) (by simp [nulls]) hok hcalls
  have hnames := not_hidden_of_firstEnabled hplain hsupplied hresult t.event.name
    (List.mem_map.2 ⟨t, ht, rfl⟩)
  rw [hcode] at hnames
  refine ⟨?_, hnames⟩
  intro name hname hmem
  obtain ⟨resource, hresource, rfl⟩ := List.mem_map.1 hmem
  exact hplain resource (by rw [hcode]; exact hresource) hname

/-- Where dispatching keeps its promise, the names that it uses stay apart. -/
theorem Dispatches.dispatchApart (hdispatches : Dispatches m module) (hapart : NamesApart m)
    (hload : LoadedModule.ofMachine (load + 1) m source = .ok module)
    (hparams : ResourceParams module) (hnodup : module.params.Nodup) : DispatchApart m := by
  have hreached := fun s (hs : Reaches m s) =>
    hdispatches.apart_of_reaches hapart hload hparams hnodup hs
  have hfrom : ∀ t ∈ m.transitions, t ∈ m.transitionsFrom t.source.name :=
    fun t ht => List.mem_filter.2 ⟨ht, beq_self_eq_true _⟩
  constructor
  case events =>
    intro t ht hsource
    exact ((hreached _ hsource).2 t (hfrom t ht)).2
  case locals =>
    intro t ht hsource
    exact ((hreached _ hsource).2 t (hfrom t ht)).1
  case tags =>
    intro hne
    obtain ⟨s, hs⟩ := List.exists_mem_of_ne_nil _ hne
    exact (hreached s (.initial hs)).1

end FsmCompiler.Running
