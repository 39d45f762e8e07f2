/-
# Computations in a frame

What the steps of the dispatch function do to the frame they run in. Where every
parameter is that of a resource and none is the local variable for the tag, guards get the
values of the guard resources and actions those of the action resources, in order, and a
hook leaves behind the values that it was given, as it has changed them.
-/

import FsmCompiler.Proofs.TableLookup
import FsmCompiler.Running.Dispatch

namespace FsmCompiler.Running

open Text (compatible)

/-- What a computation gives in a frame, and the frame that it leaves. -/
def Dispatch.runIn (x : Dispatch α) (frame : Frame) : Except RunError α × Frame :=
  StateT.run (ExceptT.run x) frame

namespace Dispatch

variable {frame : Frame} {r : RunningMachine} {c : LabelClass} {e : RunError}

/-! ## Steps -/

theorem runIn_get : (get : Dispatch Frame).runIn frame = (.ok frame, frame) := rfl

theorem runIn_set (next : Frame) : (set next : Dispatch PUnit).runIn frame = (.ok ⟨⟩, next) := rfl

theorem runIn_liftM (x : Except RunError α) : (liftM x : Dispatch α).runIn frame = (x, frame) := by
  cases x <;> rfl

/-- A failure ends a computation; otherwise it goes on in the frame that was left. -/
theorem runIn_bind (x : Dispatch α) (f : α → Dispatch β) :
    (x >>= f).runIn frame =
      match x.runIn frame with
      | (.ok a, next) => (f a).runIn next
      | (.error e, next) => (.error e, next) := by
  simp only [runIn, ExceptT.run, StateT.run, bind, ExceptT.bind, ExceptT.mk, ExceptT.bindCont,
    StateT.bind]
  rcases x frame with ⟨_ | _, _⟩ <;> rfl

/-- A hook is called once, with the values of the resources. -/
theorem runIn_call (resources : List Resource) (hook : Hooks → List Datum → Outcome α) :
    (call resources hook).runIn frame =
      ((hook frame.hooks (frame.argsOf resources)).result,
        frame.afterCall resources (hook frame.hooks (frame.argsOf resources))) := by
  simp only [call, runIn_bind, runIn_get, runIn_set]
  exact runIn_liftM _

theorem runIn_ask (frame : Frame) (c : LabelClass) :
    (ask c).runIn frame =
      ((isEnabled frame.hooks c (frame.argsOf frame.module.code.guardResources)).result,
        frame.afterCall frame.module.code.guardResources
          (isEnabled frame.hooks c (frame.argsOf frame.module.code.guardResources))) := by
  simp only [ask, runIn_bind, runIn_get]
  exact runIn_call _ _

theorem runIn_act (frame : Frame) (c : LabelClass) :
    (act c).runIn frame =
      ((runAction frame.hooks c (frame.argsOf frame.module.code.actionResources)).result,
        frame.afterCall frame.module.code.actionResources
          (runAction frame.hooks c (frame.argsOf frame.module.code.actionResources))) := by
  simp only [act, runIn_bind, runIn_get]
  exact runIn_call _ _

theorem runIn_firstEnabled_nil : (firstEnabled r []).runIn frame = (r.asVariant, frame) :=
  runIn_liftM _

/-- A name that is hidden ends the search. -/
theorem runIn_firstEnabled_of_event_error {name : String} {names : List String}
    (hevent : frame.event name = .error e) :
    (firstEnabled r (name :: names)).runIn frame = (.error e, frame) := by
  simp only [firstEnabled, runIn_bind, runIn_get, runIn_liftM, hevent]

/-- A guard that refuses leads on to the next event. -/
theorem runIn_firstEnabled_of_refused {name : String} {names : List String} {next : Frame}
    (hevent : frame.event name = .ok c) (hask : (ask c).runIn frame = (.ok false, next)) :
    (firstEnabled r (name :: names)).runIn frame = (firstEnabled r names).runIn next := by
  simp [firstEnabled, runIn_bind, runIn_get, runIn_liftM, hevent, hask]

theorem runIn_firstEnabled_of_ask_error {name : String} {names : List String} {next : Frame}
    (hevent : frame.event name = .ok c) (hask : (ask c).runIn frame = (.error e, next)) :
    (firstEnabled r (name :: names)).runIn frame = (.error e, next) := by
  simp only [firstEnabled, runIn_bind, runIn_get, runIn_liftM, hevent, hask]

/-- A guard that accepts leads to the action, and then to the target. -/
theorem runIn_firstEnabled_of_accepted {name : String} {names : List String} {next last : Frame}
    (hevent : frame.event name = .ok c) (hask : (ask c).runIn frame = (.ok true, next))
    (hact : (act c).runIn next = (.ok (), last)) :
    (firstEnabled r (name :: names)).runIn frame =
      ((r.follow (.label c)).bind RunningMachine.asVariant, last) := by
  simp only [firstEnabled, runIn_bind, runIn_get, runIn_liftM, hevent, hask, hact, if_true]
  cases r.follow (.label c) <;> rfl

theorem runIn_firstEnabled_of_act_error {name : String} {names : List String}
    {next last : Frame} (hevent : frame.event name = .ok c)
    (hask : (ask c).runIn frame = (.ok true, next))
    (hact : (act c).runIn next = (.error e, last)) :
    (firstEnabled r (name :: names)).runIn frame = (.error e, last) := by
  simp only [firstEnabled, runIn_bind, runIn_get, runIn_liftM, hevent, hask, hact, if_true]

/-- The search ends at the machine itself or behind an event that it follows. -/
theorem eq_or_follow_of_firstEnabled {names : List String} {v : RunningVariant}
    (hresult : ((firstEnabled r names).runIn frame).1 = .ok v) :
    r.asVariant = .ok v ∨ ∃ c r', r.follow (.label c) = .ok r' ∧ r'.asVariant = .ok v := by
  induction names generalizing frame with
  | nil =>
    rw [runIn_firstEnabled_nil] at hresult
    exact .inl hresult
  | cons name names ih =>
    cases hevent : frame.event name with
    | error e =>
      rw [runIn_firstEnabled_of_event_error hevent] at hresult
      cases hresult
    | ok c =>
      cases hask : (ask c).runIn frame with
      | mk asked next =>
        cases asked with
        | error e =>
          rw [runIn_firstEnabled_of_ask_error hevent hask] at hresult
          cases hresult
        | ok enabled =>
          cases enabled with
          | false =>
            rw [runIn_firstEnabled_of_refused hevent hask] at hresult
            exact ih hresult
          | true =>
            cases hact : (act c).runIn next with
            | mk acted last =>
              cases acted with
              | error e =>
                rw [runIn_firstEnabled_of_act_error hevent hask hact] at hresult
                cases hresult
              | ok =>
                rw [runIn_firstEnabled_of_accepted hevent hask hact] at hresult
                cases hfollow : r.follow (.label c) with
                | error e => simp [hfollow, Except.bind] at hresult
                | ok r' =>
                  rw [hfollow] at hresult
                  exact .inr ⟨c, r', hfollow, hresult⟩

/-! ## The whole function -/

/-- Without a branch there is a failure. -/
theorem runIn_unknown : ∃ e, (unknown : Dispatch α).runIn frame = (.error e, frame) := by
  unfold unknown
  simp only [runIn_bind, runIn_get]
  split
  · exact ⟨_, rfl⟩
  split
  · exact ⟨_, rfl⟩
  split
  · exact ⟨_, rfl⟩
  · exact ⟨_, rfl⟩

/-- The failure says what is missing, unless a name that it is made of is hidden. -/
theorem runIn_unknown_of_visible (htext : frame.localType? textTypeName = none)
    (hglobal : frame.module.globals.find? textTypeName = none)
    (hfailure : frame.localType? "_UnknownVariant" = none)
    (hname : frame.values.lookup CompiledModule.machineNameConstant = none) :
    (unknown : Dispatch α).runIn frame =
      (.error (.unknownVariant frame.module.code.machine frame.variant.tag.text), frame) := by
  unfold unknown
  simp only [runIn_bind, runIn_get, htext, hglobal, hfailure, hname]
  rfl

/-- The tags of the module mean themselves, if there is any branch. -/
def TagsVisible (frame : Frame) : Prop :=
  frame.module.code.branches = [] ∨ frame.localType? tagTypeName = none

theorem runIn_run_of_tagsVisible (hvisible : TagsVisible frame) :
    run.runIn frame =
      match branch? frame.module frame.variant.tag with
      | some branch => (firstEnabled frame.variant.machine branch.events).runIn frame
      | none => unknown.runIn frame := by
  unfold run
  simp only [runIn_bind, runIn_get]
  rcases hvisible with hempty | htags
  · rw [hempty]
    cases branch? frame.module frame.variant.tag <;> rfl
  · rw [htags]
    cases frame.module.code.branches.head? <;> cases branch? frame.module frame.variant.tag <;> rfl

/-- A parameter that hides the tags has no attribute for the first of them. -/
theorem runIn_run_of_hidden {first : BranchDef} {type : String}
    (hfirst : frame.module.code.branches.head? = some first)
    (htype : frame.localType? tagTypeName = some type) :
    run.runIn frame = (.error (.noAttribute type (compatible first.tag)), frame) := by
  unfold run
  simp only [runIn_bind, runIn_get, hfirst, htype]
  rfl

theorem runIn_run_of_not_tagsVisible (hhidden : ¬ TagsVisible frame) :
    ∃ e, run.runIn frame = (.error e, frame) := by
  obtain ⟨hbranches, htags⟩ := not_or.1 hhidden
  obtain ⟨first, rest, hfirst⟩ := List.exists_cons_of_ne_nil hbranches
  obtain ⟨type, htype⟩ := Option.ne_none_iff_exists'.1 htags
  exact ⟨_, runIn_run_of_hidden (by rw [hfirst, List.head?_cons]) htype⟩

end Dispatch

/-! ## Values of the parameters -/

/-- The identifier of a resource, which is the parameter for its value. -/
def parameterOf (r : Resource) : String := compatible r.name

/-- The values behind a call: those that a hook gave back take the place of those that it
was given. -/
def overwrite : List Datum → List Datum → List Datum
  | _ :: given, value :: left => value :: overwrite given left
  | given, _ => given

@[simp] theorem length_overwrite (given left : List Datum) :
    (overwrite given left).length = given.length := by
  fun_induction overwrite given left with
  | case1 _ _ _ _ ih => simp [ih]
  | case2 => rfl

@[simp] theorem overwrite_self (given : List Datum) : overwrite given given = given := by
  induction given with
  | nil => rfl
  | cons first rest ih => rw [overwrite, ih]

theorem lookup_append_singleton_eq_none {key other : String} {value : Datum}
    {table : Table String Datum} (htable : table.lookup key = none) (hne : key ≠ other) :
    (table ++ [(other, value)]).lookup key = none := by
  rw [List.lookup_append, htable]
  simp [List.lookup_cons, beq_eq_false_iff_ne.2 hne]

/-- Values that stand behind their keys are found under them. -/
theorem map_lookup_zip {keys : List String} {values : List Datum}
    (before after : Table String Datum) (hlength : keys.length = values.length)
    (hnodup : keys.Nodup) (hbefore : ∀ key ∈ keys, before.lookup key = none) :
    keys.map (fun key => (before ++ keys.zip values ++ after).lookup key) = values.map some := by
  induction keys generalizing values before with
  | nil =>
    cases values with
    | nil => rfl
    | cons value values => cases hlength
  | cons key keys ih =>
    cases values with
    | nil => cases hlength
    | cons value values =>
      rw [List.nodup_cons] at hnodup
      have hfirst : (before ++ (key :: keys).zip (value :: values) ++ after).lookup key =
          some value := by
        rw [List.append_assoc, List.lookup_append, hbefore key (by simp)]
        simp
      have hmoved : before ++ (key :: keys).zip (value :: values) ++ after =
          (before ++ [(key, value)]) ++ keys.zip values ++ after := by
        simp
      rw [List.map_cons, List.map_cons, hfirst, hmoved]
      refine congrArg _ (ih _ (by simpa using hlength) hnodup.2 fun other hother => ?_)
      refine lookup_append_singleton_eq_none (hbefore other (by simp [hother])) ?_
      rintro rfl
      exact hnodup.1 hother

theorem insert_append {key : String} {old value : Datum} {before after : Table String Datum}
    (hbefore : before.lookup key = none) :
    Table.insert key value (before ++ (key, old) :: after) = before ++ (key, value) :: after := by
  induction before with
  | nil => simp [Table.insert]
  | cons entry rest ih =>
    obtain ⟨k, v⟩ := entry
    rw [List.lookup_cons] at hbefore
    split at hbefore
    · cases hbefore
    · rename_i hk
      have hne : (k == key) = false := by
        rw [beq_eq_false_iff_ne] at hk ⊢
        exact Ne.symm hk
      simp [Table.insert, hne, ih hbefore]

/-- Putting values in the place of resources changes nothing else. -/
theorem foldl_put_zip {resources : List Resource} {values : List Datum}
    (before after : Table String Datum) (left : List Datum)
    (hlength : resources.length = values.length)
    (hnodup : (resources.map parameterOf).Nodup)
    (hbefore : ∀ r ∈ resources, before.lookup (parameterOf r) = none)
    (hplain : ∀ r ∈ resources, parameterOf r ∉ [tagLocal, machineLocal]) :
    (resources.zip left).foldl Frame.afterCall.put
        (before ++ (resources.map parameterOf).zip values ++ after) =
      before ++ (resources.map parameterOf).zip (overwrite values left) ++ after := by
  induction resources generalizing values left before with
  | nil => simp
  | cons r rest ih =>
    cases values with
    | nil => cases hlength
    | cons value values =>
      cases left with
      | nil => simp [overwrite]
      | cons new left =>
        rw [List.map_cons, List.nodup_cons] at hnodup
        have hput : Frame.afterCall.put
            (before ++ ((r :: rest).map parameterOf).zip (value :: values) ++ after) (r, new) =
              (before ++ [(parameterOf r, new)]) ++ (rest.map parameterOf).zip values ++ after := by
          have hr : ¬ (compatible r.name = tagLocal ∨ compatible r.name = machineLocal) := by
            simpa [parameterOf] using hplain r (by simp)
          simp only [Frame.afterCall.put, if_neg hr, List.map_cons, List.zip_cons_cons,
            List.append_assoc, List.cons_append]
          rw [← parameterOf, insert_append (hbefore r (by simp))]
          simp
        rw [List.zip_cons_cons, List.foldl_cons, hput, ih _ _ (by simpa using hlength) hnodup.2 ?_
          fun s hs => hplain s (by simp [hs])]
        · simp [overwrite]
        · intro s hs
          refine lookup_append_singleton_eq_none (hbefore s (by simp [hs])) fun hsame => ?_
          exact hnodup.1 (hsame ▸ List.mem_map.2 ⟨s, hs, rfl⟩)

/-- No resource is the local variable for the tag or the machine. -/
def PlainResources (code : CompiledModule) : Prop :=
  ∀ r ∈ code.guardResources ++ code.actionResources, parameterOf r ∉ [tagLocal, machineLocal]

/-- There is a value for each resource, and each resource has a parameter of its own. -/
structure Supplied (code : CompiledModule) (guardValues actionValues : List Datum) : Prop where
  distinct : ((code.guardResources ++ code.actionResources).map parameterOf).Nodup
  guards : code.guardResources.length = guardValues.length
  actions : code.actionResources.length = actionValues.length

variable {code : CompiledModule} {guardValues actionValues : List Datum}

theorem Supplied.afterGuard (hsupplied : Supplied code guardValues actionValues)
    (left : List Datum) : Supplied code (overwrite guardValues left) actionValues :=
  ⟨hsupplied.distinct, by simpa using hsupplied.guards, hsupplied.actions⟩

theorem Supplied.afterAction (hsupplied : Supplied code guardValues actionValues)
    (left : List Datum) : Supplied code guardValues (overwrite actionValues left) :=
  ⟨hsupplied.distinct, hsupplied.guards, by simpa using hsupplied.actions⟩

namespace Frame

variable {module : LoadedModule} {hooks : Hooks} {variant : RunningVariant} {calls : List Call}

/-- A frame in which the parameters are those of the resources. -/
def holding (module : LoadedModule) (hooks : Hooks) (variant : RunningVariant)
    (guardValues actionValues : List Datum) (calls : List Call) : Frame where
  module := module
  hooks := hooks
  variant := variant
  values := (module.code.guardResources.map parameterOf).zip guardValues ++
    (module.code.actionResources.map parameterOf).zip actionValues
  calls := calls

theorem lookup_eq_none_iff {table : Table String Datum} {key : String} :
    table.lookup key = none ↔ key ∉ table.keys := by
  rw [List.lookup_eq_none_iff, Table.keys, List.mem_map]
  constructor
  · rintro hnone ⟨entry, hentry, rfl⟩
    simpa using hnone entry hentry
  · intro hkey entry hentry
    rw [bne_iff_ne]
    rintro rfl
    exact hkey ⟨entry, hentry, rfl⟩

theorem keys_zip {keys : List String} {values : List Datum}
    (hlength : keys.length = values.length) :
    Table.keys (keys.zip values) = keys :=
  List.map_fst_zip (Nat.le_of_eq hlength)

/-- The parameters are those of the resources. -/
theorem keys_holding (hsupplied : Supplied module.code guardValues actionValues) :
    (holding module hooks variant guardValues actionValues calls).values.keys =
      (module.code.guardResources ++ module.code.actionResources).map parameterOf := by
  rw [holding, Table.keys, List.map_append, List.map_append, ← Table.keys, ← Table.keys,
    keys_zip (by simpa using hsupplied.guards), keys_zip (by simpa using hsupplied.actions)]

/-- No parameter of a guard is one of an action. -/
theorem lookup_guards_eq_none (hsupplied : Supplied module.code guardValues actionValues)
    {r : Resource} (hr : r ∈ module.code.actionResources) :
    ((module.code.guardResources.map parameterOf).zip guardValues).lookup (parameterOf r) =
      none := by
  rw [lookup_eq_none_iff, keys_zip (by simpa using hsupplied.guards)]
  intro hguard
  have hdistinct := hsupplied.distinct
  rw [List.map_append, List.nodup_append] at hdistinct
  exact hdistinct.2.2 _ hguard _ (List.mem_map.2 ⟨r, hr, rfl⟩) rfl

theorem argsOf_of_plain {frame : Frame} {resources : List Resource} {values : List Datum}
    (hplain : ∀ r ∈ resources, parameterOf r ∉ [tagLocal, machineLocal])
    (hvalues : resources.map (fun r => frame.values.lookup (parameterOf r)) = values.map some) :
    frame.argsOf resources = values := by
  have hargs : frame.argsOf resources =
      (resources.map fun r => frame.values.lookup (parameterOf r)).map (·.getD .null) := by
    rw [List.map_map]
    refine List.map_congr_left fun r hr => ?_
    have hlocal : frame.localValue? (compatible r.name) = none := by
      obtain ⟨htag, hmachine⟩ := not_or.1 (mt List.mem_pair.2 (hplain r hr))
      exact (if_neg htag).trans (if_neg hmachine)
    simp only [hlocal]
    rfl
  rw [hargs, hvalues, List.map_map]
  exact List.map_id _

@[simp] theorem module_holding :
    (holding module hooks variant guardValues actionValues calls).module = module := rfl

@[simp] theorem hooks_holding :
    (holding module hooks variant guardValues actionValues calls).hooks = hooks := rfl

/-- Guards get the values of the guard resources. -/
theorem argsOf_guards (hplain : PlainResources module.code)
    (hsupplied : Supplied module.code guardValues actionValues) :
    (holding module hooks variant guardValues actionValues calls).argsOf
      module.code.guardResources = guardValues := by
  refine argsOf_of_plain (fun r hr => hplain r (List.mem_append_left _ hr)) ?_
  have hnodup := hsupplied.distinct
  rw [List.map_append, List.nodup_append] at hnodup
  have hlength : (module.code.guardResources.map parameterOf).length = guardValues.length := by
    simpa using hsupplied.guards
  have hlookup := map_lookup_zip [] ((module.code.actionResources.map parameterOf).zip actionValues)
    hlength hnodup.1 (fun _ _ => rfl)
  rwa [List.map_map] at hlookup

/-- Actions get the values of the action resources. -/
theorem argsOf_actions (hplain : PlainResources module.code)
    (hsupplied : Supplied module.code guardValues actionValues) :
    (holding module hooks variant guardValues actionValues calls).argsOf
      module.code.actionResources = actionValues := by
  refine argsOf_of_plain (fun r hr => hplain r (List.mem_append_right _ hr)) ?_
  have hnodup := hsupplied.distinct
  rw [List.map_append, List.nodup_append] at hnodup
  have hlength : (module.code.actionResources.map parameterOf).length = actionValues.length := by
    simpa using hsupplied.actions
  have hlookup := map_lookup_zip ((module.code.guardResources.map parameterOf).zip guardValues) []
    hlength hnodup.2.1 (fun key hkey => by
      obtain ⟨r, hr, rfl⟩ := List.mem_map.1 hkey
      exact lookup_guards_eq_none hsupplied hr)
  rwa [List.map_map, List.append_nil] at hlookup

/-- A guard changes nothing but its own values, and its calls are recorded. -/
theorem afterCall_guards {outcome : Outcome α} (hplain : PlainResources module.code)
    (hsupplied : Supplied module.code guardValues actionValues) :
    (holding module hooks variant guardValues actionValues calls).afterCall
        module.code.guardResources outcome =
      holding module hooks variant (overwrite guardValues outcome.args) actionValues
        (calls ++ outcome.calls) := by
  have hnodup := hsupplied.distinct
  rw [List.map_append, List.nodup_append] at hnodup
  have hput := foldl_put_zip [] ((module.code.actionResources.map parameterOf).zip actionValues)
    outcome.args hsupplied.guards hnodup.1 (fun _ _ => rfl)
    (fun r hr => hplain r (List.mem_append_left _ hr))
  simp only [List.nil_append] at hput
  simp only [afterCall, holding, hput]

/-- An action changes nothing but its own values, and its calls are recorded. -/
theorem afterCall_actions {outcome : Outcome α} (hplain : PlainResources module.code)
    (hsupplied : Supplied module.code guardValues actionValues) :
    (holding module hooks variant guardValues actionValues calls).afterCall
        module.code.actionResources outcome =
      holding module hooks variant guardValues (overwrite actionValues outcome.args)
        (calls ++ outcome.calls) := by
  have hnodup := hsupplied.distinct
  rw [List.map_append, List.nodup_append] at hnodup
  have hput := foldl_put_zip ((module.code.guardResources.map parameterOf).zip guardValues) []
    outcome.args hsupplied.actions hnodup.2.1 (fun r hr => lookup_guards_eq_none hsupplied hr)
    (fun r hr => hplain r (List.mem_append_right _ hr))
  simp only [List.append_nil] at hput
  simp only [afterCall, holding, hput]

/-- A name is local if it is one of the three that the dispatch function uses, or a
parameter. -/
theorem localType?_eq_none_iff {frame : Frame} {name : String} :
    frame.localType? name = none ↔
      compatible name ∉ Validation.dispatchNames ∧ compatible name ∉ frame.values.keys := by
  rw [← lookup_eq_none_iff]
  unfold localType?
  simp only [Validation.dispatchNames, tagLocal, machineLocal, ModuleText.variantParam]
  by_cases htag : compatible name = "tag"
  · simp [htag]
  · by_cases hmachine : compatible name = "machine"
    · simp [hmachine]
    · by_cases hvariant : compatible name = "variant"
      · simp [hvariant]
      · simp [htag, hmachine, hvariant]

theorem localType?_holding {name : String}
    (hsupplied : Supplied module.code guardValues actionValues) :
    (holding module hooks variant guardValues actionValues calls).localType? name = none ↔
      compatible name ∉ Validation.dispatchNames ∧
        compatible name ∉
          (module.code.guardResources ++ module.code.actionResources).map parameterOf := by
  rw [localType?_eq_none_iff, keys_holding hsupplied]

/-- A name means what it means in the module, unless it is local. -/
theorem event_eq_ok_iff {frame : Frame} {name : String} {c : LabelClass} :
    frame.event name = .ok c ↔
      frame.localType? name = none ∧ frame.module.globals.find? name = some c := by
  unfold event
  cases frame.localType? name with
  | some type => simp
  | none => cases frame.module.globals.find? name <;> simp

/-- A call changes nothing behind a name that is none of its resources. -/
theorem lookup_foldl_put {resources : List Resource} (left : List Datum)
    (values : Table String Datum) {key : String} (hkey : key ∉ resources.map parameterOf) :
    ((resources.zip left).foldl afterCall.put values).lookup key = values.lookup key := by
  induction resources generalizing left values with
  | nil => simp
  | cons r rest ih =>
    cases left with
    | nil => simp
    | cons value left =>
      rw [List.map_cons, List.mem_cons, not_or] at hkey
      rw [List.zip_cons_cons, List.foldl_cons, ih _ _ hkey.2, afterCall.put]
      split
      · rfl
      · have hne : ¬ key = compatible r.name := hkey.1
        simp [Table.lookup_insert, hne]

theorem localType?_afterCall {frame : Frame} {resources : List Resource} {outcome : Outcome α}
    {name : String} (hname : compatible name ∉ resources.map parameterOf) :
    (frame.afterCall resources outcome).localType? name = frame.localType? name := by
  have hlookup := lookup_foldl_put outcome.args frame.values hname
  unfold localType?
  simp only [afterCall, hlookup]
  rfl

theorem event_afterCall {frame : Frame} {resources : List Resource} {outcome : Outcome α}
    {name : String} (hname : compatible name ∉ resources.map parameterOf) :
    (frame.afterCall resources outcome).event name = frame.event name := by
  unfold event
  rw [localType?_afterCall hname]
  rfl

/-- Values that are put in their own places change nothing. Where there was no value, the empty
one is put, which stands for it already. -/
theorem getD_lookup_foldl_put {entries : List (Resource × Datum)} {base values : Table String Datum}
    (hentries : ∀ entry ∈ entries, parameterOf entry.1 ∉ [tagLocal, machineLocal] →
      entry.2 = (base.lookup (parameterOf entry.1)).getD .null)
    (hvalues : ∀ key, (values.lookup key).getD .null = (base.lookup key).getD .null)
    (key : String) :
    ((entries.foldl afterCall.put values).lookup key).getD .null =
      (base.lookup key).getD .null := by
  induction entries generalizing values with
  | nil => exact hvalues key
  | cons first rest ih =>
    refine ih (fun entry hentry => hentries entry (List.mem_cons_of_mem _ hentry)) fun other => ?_
    simp only [afterCall.put]
    split
    · exact hvalues other
    · rename_i hplain
      rw [Table.lookup_insert]
      split
      · rename_i hother
        rw [Option.getD_some, beq_iff_eq.1 hother]
        exact hentries first List.mem_cons_self (by simpa [parameterOf] using hplain)
      · exact hvalues other

/-- A hook that leaves what it is given as it is leaves all values as they are. -/
theorem argsOf_afterCall_of_kept {frame : Frame} {resources others : List Resource}
    {outcome : Outcome α} (hkept : outcome.args = frame.argsOf resources) :
    (frame.afterCall resources outcome).argsOf others = frame.argsOf others := by
  have hentries : ∀ entry ∈ resources.zip outcome.args,
      parameterOf entry.1 ∉ [tagLocal, machineLocal] →
        entry.2 = (frame.values.lookup (parameterOf entry.1)).getD .null := by
    intro entry hentry hplain
    rw [hkept, argsOf, ← List.map_prod_left_eq_zip] at hentry
    obtain ⟨r, -, rfl⟩ := List.mem_map.1 hentry
    obtain ⟨htag, hmachine⟩ := not_or.1 (mt List.mem_pair.2 hplain)
    have hlocal : frame.localValue? (compatible r.name) = none :=
      (if_neg htag).trans (if_neg hmachine)
    simp only [hlocal]
    rfl
  refine List.map_congr_left fun r _ => ?_
  have hvalue : ((frame.afterCall resources outcome).values.lookup (compatible r.name)).getD .null =
      (frame.values.lookup (compatible r.name)).getD .null :=
    getD_lookup_foldl_put hentries (fun _ => rfl) _
  simp only [hvalue]
  rfl

/-- The frame in which the dispatch function starts. -/
def starting (module : LoadedModule) (hooks : Hooks) (v : RunningVariant)
    (args : List Datum) : Frame :=
  ⟨module, hooks, v, module.params.zip args, []⟩

end Frame

/-! ## Calls of the dispatch function -/

section Calls

variable {module : LoadedModule} {hooks : Hooks} {v : RunningVariant} {args : List Datum}

theorem arityError?_eq_none_iff {params : List String} {given : Nat} :
    arityError? params given = none ↔ params.length = given := by
  unfold arityError?
  split
  · exact iff_of_false (by simp) (by omega)
  · split
    · exact iff_of_false (by simp) (by omega)
    · exact iff_of_true rfl (by omega)

/-- With a wrong number of arguments the dispatch function calls no hook. -/
theorem dispatch_of_arity {fault : RunError}
    (harity : arityError? module.params args.length = some fault) :
    dispatch module hooks v args = ⟨.error fault, [], args⟩ := by
  unfold dispatch
  rw [harity]

/-- With one argument for each parameter the dispatch function runs in its starting frame. -/
theorem dispatch_of_length (hargs : module.params.length = args.length) :
    dispatch module hooks v args =
      let (result, frame) := Dispatch.run.runIn (.starting module hooks v args)
      ⟨result, frame.calls, frame.values.map (·.2)⟩ := by
  unfold dispatch
  rw [arityError?_eq_none_iff.2 hargs]
  rfl

end Calls

end FsmCompiler.Running
