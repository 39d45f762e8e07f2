/-
# Names that nothing captures

The tables in the class of a machine and the branches of the dispatch function name states and
events. A name means its own class there exactly if, as an identifier, it is no other label and
nothing that an inner scope has bound before it is read: not in the body of the class, where
the tables themselves have names, and not in the dispatch function, which has local variables
and parameters. Where no name is captured, a module that the target language reads is loaded,
and its machines do what was declared.
-/

import FsmCompiler.Proofs.Dispatching

namespace FsmCompiler.Running

open Text (compatible)

variable {m : FsmCompiler.Machine} {load : Nat} {source : Option String} {params : List String}
  {module : LoadedModule}

/-! ## What names mean where they are written -/

/-- A frame of the dispatch function in the module of a machine. -/
structure FrameOf (m : FsmCompiler.Machine) (load : Nat) (params : List String) (frame : Frame) :
    Prop where
  globals : frame.module.globals = globalsOf m load
  params : frame.values.keys = params

/-- Nothing captures a name in the module of a machine whose dispatch function has the
parameters `params`: wherever a state or an event is named, its own class is meant, and where
a text is made, nothing hides the function that makes it. -/
structure CaptureFree (m : FsmCompiler.Machine) (load : Nat) (source : Option String)
    (params : List String) : Prop where
  initialStates : ∀ name ∈ (m.compile source).initialStates,
    (initialScope (globalsOf m load)).resolve name = .ok (.label (m.classOf load name))
  transitions : ∀ rule ∈ (m.compile source).transitions, ∀ name ∈ [rule.1, rule.2.1, rule.2.2],
    (ruleScope (globalsOf m load)).resolve name = .ok (.label (m.classOf load name))
  variantTags : ∀ entry ∈ (m.compile source).variantTags, ∀ name ∈ entry.1 :: entry.2.1.toList,
    (tagScope (globalsOf m load)).resolve name = .ok (.label (m.classOf load name))
  branches : ∀ branch ∈ (m.compile source).branches, ∀ name ∈ branch.events,
    ∀ frame, FrameOf m load params frame → frame.event name = .ok (m.classOf load name)
  text : ∀ frame, FrameOf m load params frame →
    frame.localType? textTypeName = none ∧ frame.module.globals.find? textTypeName = none

/-- The names that are written in a module stay apart, as identifiers, from what stands
between them and what they are written for: from other labels, from what the class of the
machine has bound before, and, in the rules that a variant tries, from what the dispatch
function binds. The function that makes a text stays apart from labels and parameters. -/
structure IdentifiersApart (m : FsmCompiler.Machine) (params : List String) : Prop where
  distinct : DistinctLabels m
  tables : ∀ name ∈ m.labelNames, compatible name ∉ ["name", "initial_states"]
  keys : ∀ w ∈ m.variants, ∀ name ∈ w.state.name :: w.eventName?.toList,
    compatible name ≠ "transitions"
  events : ∀ w ∈ m.variants, ∀ t ∈ m.transitionsFrom w.state.name,
    compatible t.event.name ∉ Validation.dispatchNames ∧ compatible t.event.name ∉ params
  text : textTypeName ∉ m.labelNames.map compatible ∧ textTypeName ∉ params

/-- There is a frame in each module. -/
theorem exists_frameOf (m : FsmCompiler.Machine) (load : Nat) (params : List String) :
    ∃ frame, FrameOf m load params frame := by
  let module : LoadedModule :=
    ⟨load, m.compile none, "", params, globalsOf m load, declaredKind m load⟩
  let v : RunningVariant := ⟨.plain .null, ⟨module.kind, .plain .null, .plain .null, 0, []⟩⟩
  refine ⟨⟨module, [], v, params.map fun name => (name, .null), []⟩, rfl, ?_⟩
  simp [Table.keys, Function.comp_def]

theorem FrameOf.event_iff {frame : Frame} {name : String} (hframe : FrameOf m load params frame) :
    frame.event name = .ok (m.classOf load name) ↔
      (compatible name ∉ Validation.dispatchNames ∧ compatible name ∉ params) ∧
        (globalsOf m load).lookup (compatible name) = some (m.classOf load name) := by
  rw [Frame.event_eq_ok_iff, Frame.localType?_eq_none_iff, hframe.params, hframe.globals]
  rfl

theorem compatible_textTypeName : compatible textTypeName = textTypeName := by
  decide +kernel

theorem FrameOf.text_iff {frame : Frame} (hframe : FrameOf m load params frame)
    (hvalid : m.Valid) :
    frame.localType? textTypeName = none ∧ frame.module.globals.find? textTypeName = none ↔
      textTypeName ∉ m.labelNames.map compatible ∧ textTypeName ∉ params := by
  have hglobal : (globalsOf m load).find? textTypeName = none ↔
      textTypeName ∉ m.labelNames.map compatible := by
    rw [Globals.find?, compatible_textTypeName]
    constructor
    · intro hnone hlabel
      obtain ⟨name, hname, hsame⟩ := List.mem_map.1 hlabel
      obtain ⟨c, hc⟩ := exists_lookup_globalsOf load hvalid hname
      rw [hsame, hnone] at hc
      cases hc
    · intro hlabel
      cases hlookup : (globalsOf m load).lookup textTypeName with
      | none => rfl
      | some c =>
        obtain ⟨name, hname, hsame, -⟩ := exists_of_lookup_globalsOf hvalid hlookup
        exact absurd (List.mem_map.2 ⟨name, hname, hsame⟩) hlabel
  have hlocal : textTypeName ∉ Validation.dispatchNames := by decide
  rw [Frame.localType?_eq_none_iff, hframe.params, hframe.globals, hglobal,
    compatible_textTypeName]
  simp [hlocal, and_comm]

/-- The events that a module tries are those of the rules that leave the states of variants. -/
theorem exists_branch_iff {name : String} :
    (∃ branch ∈ (m.compile source).branches, name ∈ branch.events) ↔
      ∃ w ∈ m.variants, ∃ t ∈ m.transitionsFrom w.state.name, t.event.name = name := by
  have hevents : ∀ arm ∈ m.arms, (Machine.branchDef arm).events =
      (m.transitionsFrom arm.variant.state.name).map (·.event.name) := by
    intro arm harm
    simp only [Machine.branchDef, (Machine.arm_of_mem harm).2, Machine.chainFrom, List.map_map]
    rfl
  constructor
  · rintro ⟨branch, hbranch, hname⟩
    obtain ⟨arm, harm, rfl⟩ := List.mem_map.1 hbranch
    rw [hevents arm harm] at hname
    exact ⟨arm.variant, (Machine.arm_of_mem harm).1, List.mem_map.1 hname⟩
  · rintro ⟨w, hw, ht⟩
    obtain ⟨arm, harm, rfl⟩ := Machine.exists_arm hw
    refine ⟨_, List.mem_map.2 ⟨arm, harm, rfl⟩, ?_⟩
    rw [hevents arm harm]
    exact List.mem_map.2 ht

/-- The entry of a variant holds its event. -/
theorem tagEntry_event {w : Variant} (hnames : m.nameDefects = []) (hw : w ∈ m.variants) :
    (Machine.tagEntry w).2.1 = w.eventName? := by
  cases hevent : w.eventName? with
  | none => simp [Machine.tagEntry, hevent]
  | some event =>
    have hne : event ≠ "" :=
      (Machine.label_of_nameDefects hnames
        (Machine.variant_event_mem_labelNames hw hevent)).1.ne_empty
    simp [Machine.tagEntry, hevent, Option.filter, hne]

/-- Each name in the entry of a variant is that of its state or its event. -/
theorem tagEntry_names {w : Variant} (hvalid : m.Valid) (hw : w ∈ m.variants) :
    (Machine.tagEntry w).1 :: (Machine.tagEntry w).2.1.toList =
      w.state.name :: w.eventName?.toList := by
  rw [tagEntry_event hvalid.names hw]
  rfl

/-- The names in the table of transitions are those of labels. -/
theorem label_of_rule {rule : String × String × String} {name : String}
    (hrule : rule ∈ (m.compile source).transitions) (hname : name ∈ [rule.1, rule.2.1, rule.2.2]) :
    name ∈ m.labelNames := by
  obtain ⟨t, ht, rfl⟩ := List.mem_map.1 hrule
  simp only [List.mem_cons, List.not_mem_nil, or_false] at hname
  rcases hname with rfl | rfl | rfl
  · exact Machine.state_mem_labelNames (Machine.source_mem_states ht)
  · exact Machine.event_mem_labelNames ht
  · exact Machine.state_mem_labelNames (Machine.target_mem_states ht)

/-- The names in the table of tags are those of variants. -/
theorem variant_of_tagEntry {entry : String × Option String × String} {name : String}
    (hvalid : m.Valid) (hentry : entry ∈ (m.compile source).variantTags)
    (hname : name ∈ entry.1 :: entry.2.1.toList) :
    name ∈ m.labelNames ∧ ∃ w ∈ m.variants, name ∈ w.state.name :: w.eventName?.toList := by
  obtain ⟨w, hw, rfl⟩ := List.mem_map.1 hentry
  rw [tagEntry_names hvalid hw] at hname
  refine ⟨?_, w, hw, hname⟩
  rcases List.mem_cons.1 hname with rfl | hname
  · exact Machine.state_mem_labelNames (Machine.variant_state_mem_states hw)
  · exact Machine.variant_event_mem_labelNames hw (by simpa using hname)

/-! ## When nothing is captured -/

/-- In a module in which nothing is captured, each label means itself behind the first two
names of the class of the machine. -/
theorem CaptureFree.label {name : String} (hfree : CaptureFree m load source params)
    (hvalid : m.Valid) (hname : name ∈ m.labelNames) :
    compatible name ∉ ["name", "initial_states"] ∧
      (globalsOf m load).lookup (compatible name) = some (m.classOf load name) := by
  have hrule : (ruleScope (globalsOf m load)).resolve name =
      .ok (.label (m.classOf load name)) := by
    rcases Machine.label_cases hname with ⟨t, ht, hname⟩ | hname
    · exact hfree.transitions _ (List.mem_map.2 ⟨t, ht, rfl⟩) name hname
    · obtain ⟨w, hw, rfl, -⟩ := hvalid.exists_initial_variant hname
      exact resolve_ruleScope_of_tagScope (hfree.variantTags _ (List.mem_map.2 ⟨w, hw, rfl⟩) _
        List.mem_cons_self)
  obtain ⟨hinitial, hname, howns⟩ := resolve_ruleScope_eq_label_iff.1 hrule
  exact ⟨by simp [hinitial, hname], howns⟩

theorem CaptureFree.identifiersApart (hfree : CaptureFree m load source params)
    (hvalid : m.Valid) : IdentifiersApart m params := by
  obtain ⟨frame, hframe⟩ := exists_frameOf m load params
  constructor
  case distinct =>
    exact (distinctLabels_iff hvalid).2 fun name hname => (hfree.label hvalid hname).2
  case tables => exact fun name hname => (hfree.label hvalid hname).1
  case keys =>
    intro w hw name hname
    rw [← tagEntry_names hvalid hw] at hname
    exact (resolve_tagScope_eq_label_iff.1
      (hfree.variantTags _ (List.mem_map.2 ⟨w, hw, rfl⟩) name hname)).1
  case events =>
    intro w hw t ht
    obtain ⟨branch, hbranch, hname⟩ :
        ∃ branch ∈ (m.compile source).branches, t.event.name ∈ branch.events :=
      exists_branch_iff.2 ⟨w, hw, t, ht, rfl⟩
    exact (hframe.event_iff.1 (hfree.branches branch hbranch _ hname frame hframe)).1
  case text => exact (hframe.text_iff hvalid).1 (hfree.text frame hframe)

theorem IdentifiersApart.resolve_ruleScope {name : String} (hapart : IdentifiersApart m params)
    (hvalid : m.Valid) (hname : name ∈ m.labelNames) :
    (ruleScope (globalsOf m load)).resolve name = .ok (.label (m.classOf load name)) := by
  have htables := hapart.tables name hname
  rw [List.mem_pair, not_or] at htables
  exact resolve_ruleScope_eq_label_iff.2
    ⟨htables.2, htables.1, (distinctLabels_iff hvalid).1 hapart.distinct name hname⟩

theorem IdentifiersApart.captureFree (hapart : IdentifiersApart m params) (hvalid : m.Valid) :
    CaptureFree m load source params := by
  have howns : ∀ name ∈ m.labelNames, compatible name ≠ "initial_states" ∧
      compatible name ≠ "name" ∧
        (globalsOf m load).lookup (compatible name) = some (m.classOf load name) :=
    fun name hname => resolve_ruleScope_eq_label_iff.1 (hapart.resolve_ruleScope hvalid hname)
  constructor
  case initialStates =>
    intro name hname
    obtain ⟨-, hmachine, howns⟩ :=
      howns name (Machine.state_mem_labelNames (Machine.initial_mem_states hname))
    exact resolve_initialScope_eq_label_iff.2 ⟨hmachine, howns⟩
  case transitions =>
    intro rule hrule name hname
    exact hapart.resolve_ruleScope hvalid (label_of_rule hrule hname)
  case variantTags =>
    intro entry hentry name hname
    obtain ⟨hlabel, w, hw, hname⟩ := variant_of_tagEntry hvalid hentry hname
    exact resolve_tagScope_eq_label_iff.2 ⟨hapart.keys w hw name hname, howns name hlabel⟩
  case branches =>
    intro branch hbranch name hname frame hframe
    obtain ⟨w, hw, t, ht, rfl⟩ := exists_branch_iff.1 ⟨branch, hbranch, hname⟩
    have hlabel := Machine.event_mem_labelNames (List.mem_filter.1 ht).1
    exact hframe.event_iff.2 ⟨hapart.events w hw t ht, (howns _ hlabel).2.2⟩
  case text =>
    intro frame hframe
    exact (hframe.text_iff hvalid).2 hapart.text

/-! ## What follows for loading -/

/-- The tags of a machine are different identifiers. -/
def TagsApart (m : FsmCompiler.Machine) : Prop :=
  (m.variants.map fun w => compatible w.tag).Nodup

instance (m : FsmCompiler.Machine) : Decidable (TagsApart m) :=
  inferInstanceAs (Decidable (List.Nodup _))

/-- Where each name in a table means its own class and the tags stay apart, the tables can be
filled. -/
theorem exists_machineClass
    (hinitial : ∀ name ∈ (m.compile source).initialStates,
      (initialScope (globalsOf m load)).resolve name = .ok (.label (m.classOf load name)))
    (hrules : ∀ rule ∈ (m.compile source).transitions, ∀ name ∈ [rule.1, rule.2.1, rule.2.2],
      (ruleScope (globalsOf m load)).resolve name = .ok (.label (m.classOf load name)))
    (hvariants : ∀ entry ∈ (m.compile source).variantTags, ∀ name ∈ entry.1 :: entry.2.1.toList,
      (tagScope (globalsOf m load)).resolve name = .ok (.label (m.classOf load name)))
    (htags : TagsApart m) :
    ∃ kind, machineClass load (m.compile source) (globalsOf m load) = .ok kind := by
  let globals := globalsOf m load
  let tags := (m.variants.map (·.tag)).map (tagOf load globals)
  have hnodup : (tags.map (·.name)).Nodup := by
    unfold TagsApart at htags
    simpa [tags, List.map_map, Function.comp_def, tagOf] using htags
  have hmembers : tagMembers load (globals.find? textTypeName) [] (m.compile source).tags =
      .ok tags := tagMembers_of_nodup hnodup
  obtain ⟨initialStates, hinitial⟩ := exists_mapM_eq_ok fun name hname => ⟨_, hinitial name hname⟩
  obtain ⟨rules, hrules⟩ : ∃ rules, (m.compile source).transitions.mapM
      (Scope.transitionEntry (ruleScope globals)) = .ok rules := by
    refine exists_mapM_eq_ok fun rule hrule => ?_
    have hnames := hrules rule hrule
    exact ⟨((_, _), _), transitionEntry_eq_ok_iff.2
      ⟨resolveKey_eq_label_iff.2 (hnames rule.1 (by simp)),
        resolveKey_eq_label_iff.2 (hnames rule.2.1 (by simp)), hnames rule.2.2 (by simp)⟩⟩
  obtain ⟨variantTags, hvariants⟩ : ∃ variantTags, (m.compile source).variantTags.mapM
      (Scope.tagEntry (tagScope globals) tags) = .ok variantTags := by
    refine exists_mapM_eq_ok fun entry hentry => ?_
    have hnames := hvariants entry hentry
    obtain ⟨w, hw, rfl⟩ := List.mem_map.1 hentry
    have hfound := find?_tagOf hnodup (List.mem_map.2 ⟨w, hw, rfl⟩)
    exact exists_tagEntry ⟨_, hnames _ List.mem_cons_self⟩
      (fun name hname => ⟨_, hnames name (List.mem_cons_of_mem _ hname)⟩) hfound
  exact ⟨_, machineClass_eq_ok_iff.2
    ⟨tags, initialStates, rules, variantTags, hmembers, hinitial, hrules, hvariants, rfl⟩⟩

theorem CaptureFree.exists_machineClass (hfree : CaptureFree m load source params)
    (htags : TagsApart m) :
    ∃ kind, machineClass load (m.compile source) (globalsOf m load) = .ok kind :=
  Running.exists_machineClass hfree.initialStates hfree.transitions hfree.variantTags htags

/-! ## What follows for dispatching -/

/-- Each resource has its parameter, and as identifiers the parameters differ from what the
dispatch function reads beside states and events. -/
structure HelpersApart (m : FsmCompiler.Machine) (params : List String) : Prop where
  parameters : params = (m.guardResources ++ m.actionResources).map parameterOf
  apart : ∀ name ∈ [tagLocal, machineLocal, tagTypeName, "_UnknownVariant",
    CompiledModule.machineNameConstant], name ∉ params

theorem Reaches.exists_variant {s : String} (hreaches : Reaches m s) (hvalid : m.Valid) :
    ∃ w ∈ m.variants, w.state.name = s := by
  cases hreaches with
  | initial hs =>
    obtain ⟨w, hw, hstate, -⟩ := hvalid.exists_initial_variant hs
    exact ⟨w, hw, hstate⟩
  | rule ht _ =>
    obtain ⟨w, hw, hstate, -⟩ := hvalid.exists_entered_variant ht
    exact ⟨w, hw, hstate⟩

theorem IdentifiersApart.dispatchApart (hapart : IdentifiersApart m params)
    (hhelpers : HelpersApart m params) (hvalid : m.Valid) : DispatchApart m := by
  rw [hhelpers.parameters] at hapart hhelpers
  constructor
  case events =>
    intro t ht hsource
    obtain ⟨w, hw, hstate⟩ := hsource.exists_variant hvalid
    exact hapart.events w hw t (List.mem_filter.2 ⟨ht, by simp [hstate]⟩)
  case locals =>
    intro t _ _ name hname
    refine hhelpers.apart name ?_
    rcases List.mem_pair.1 hname with rfl | rfl <;> simp
  case tags =>
    intro _
    exact hhelpers.apart tagTypeName (by simp)

/-- The parameters of a module that the target language reads are different. -/
theorem nodup_of_compiles {code : CompiledModule} {doc : String} {signature : Target.Signature}
    (hcompiles : Compiles code doc signature) : signature.names.Nodup := by
  obtain ⟨whole, hwhole, rfl⟩ := Option.map_eq_some_iff.1 hcompiles.parameters
  obtain ⟨lexemes, -, hread⟩ := Option.bind_eq_some_iff.1 hwhole
  obtain ⟨⟨names, left⟩, -, hread⟩ := Option.bind_eq_some_iff.1 hread
  obtain ⟨_, hguard, hread⟩ := Option.bind_eq_some_iff.1 hread
  unfold guard at hguard
  split at hguard
  · rename_i hboth
    cases hread
    exact hboth.2.sublist (List.drop_sublist 1 _)
  · cases hguard

/-- A variant whose tag is not one of the module's. -/
def Foreign (module : LoadedModule) (v : RunningVariant) : Prop :=
  ∀ tag, v.tag = .member tag → tag.load ≠ module.load

/-- On foreign variants, dispatching calls no hook and fails, naming the machine and the tag. -/
def RefusesForeign (m : FsmCompiler.Machine) (module : LoadedModule) : Prop :=
  ∀ hooks v args, Foreign module v → args.length = module.params.length →
    dispatch module hooks v args = ⟨.error (.unknownVariant m.name v.tag.text), [], args⟩

theorem Foreign.branch? {v : RunningVariant} (hforeign : Foreign module v) :
    Dispatch.branch? module v.tag = none := by
  cases htag : v.tag with
  | member tag => exact if_neg (hforeign tag htag)
  | plain d => rfl

theorem refusesForeign_of_apart (hapart : IdentifiersApart m module.params)
    (hhelpers : HelpersApart m module.params) (hvalid : m.Valid)
    (hmachine : module.code.machine = m.name)
    (hglobals : module.globals = globalsOf m module.load) : RefusesForeign m module := by
  intro hooks v args hforeign hlength
  let start := Frame.starting module hooks v args
  have hkeys : start.values.keys = module.params := Frame.keys_zip hlength.symm
  have hhidden : ∀ name ∈ [tagTypeName, "_UnknownVariant"],
      start.localType? name = none := by
    intro name hname
    have hplain : compatible name = name ∧ name ∉ Validation.dispatchNames := by
      rcases List.mem_pair.1 hname with rfl | rfl <;> decide +kernel
    rw [Frame.localType?_eq_none_iff, hkeys, hplain.1]
    refine ⟨hplain.2, hhelpers.apart name ?_⟩
    rcases List.mem_pair.1 hname with rfl | rfl <;> simp
  obtain ⟨htext, hglobal⟩ := ((show FrameOf m module.load module.params start from
    ⟨hglobals, hkeys⟩).text_iff hvalid).2 hapart.text
  have hname : start.values.lookup CompiledModule.machineNameConstant = none := by
    rw [Frame.lookup_eq_none_iff, hkeys]
    exact hhelpers.apart _ (by simp)
  have hrun : Dispatch.run.runIn start =
      (.error (.unknownVariant m.name v.tag.text), start) := by
    rw [Dispatch.runIn_run_of_tagsVisible (.inr (hhidden tagTypeName (by simp))),
      show Dispatch.branch? start.module start.variant.tag = none from hforeign.branch?]
    refine (Dispatch.runIn_unknown_of_visible htext hglobal (hhidden _ (by simp)) hname).trans ?_
    rw [show start.module.code.machine = _ from hmachine]
    rfl
  rw [dispatch_of_length hlength.symm, hrun]
  simp only [start, Frame.starting, map_snd_zip hlength.symm]

/-! ## Plain names -/

/-- The names of states, events and resources are their own identifiers. -/
structure PlainNames (m : FsmCompiler.Machine) : Prop where
  labels : ∀ name ∈ m.labelNames, compatible name = name
  resources : ∀ r ∈ m.guardResources ++ m.actionResources, parameterOf r = r.name

/-- Plain names of a valid machine are none that every module defines. -/
theorem PlainNames.freshLabels (hplain : PlainNames m) (hvalid : m.Valid) : FreshLabels m := by
  intro name hname
  obtain ⟨hbindable, hfree⟩ := hvalid.label hname
  rw [hplain.labels name hname]
  exact ⟨hfree, hbindable.exported⟩

theorem PlainNames.not_mem_params {name : String} (hplain : PlainNames m)
    (hname : ∀ r ∈ m.guardResources ++ m.actionResources, r.name ≠ name) :
    name ∉ (m.guardResources ++ m.actionResources).map parameterOf := by
  intro hmem
  obtain ⟨r, hr, rfl⟩ := List.mem_map.1 hmem
  exact hname r hr (hplain.resources r hr).symm

/-- Plain names of resources that validation accepts are none that the dispatch function reads
beside states and events. -/
theorem PlainNames.helpersApart (hplain : PlainNames m) (hvalid : m.Valid) :
    HelpersApart m ((m.guardResources ++ m.actionResources).map parameterOf) := by
  refine ⟨rfl, fun name hname => hplain.not_mem_params ?_⟩
  rintro r hr rfl
  obtain ⟨hbindable, -, hdispatch, hgenerated, -⟩ := hvalid.resource hr
  simp only [List.mem_cons, List.not_mem_nil, or_false] at hname
  rcases hname with hname | hname | hname | hname | hname <;> rw [hname] at hdispatch hgenerated
  · exact hdispatch (by decide)
  · exact hdispatch (by decide)
  · exact hgenerated (by decide)
  · have hexported := hbindable.exported
    rw [hname] at hexported
    exact absurd hexported (by decide +kernel)
  · exact hgenerated (by decide)

/-- The plain names of a variant are their own identifiers. -/
theorem PlainNames.variant (hplain : PlainNames m) {w : Variant} (hw : w ∈ m.variants)
    {name : String} (hname : name ∈ w.state.name :: w.eventName?.toList) :
    compatible name = name := by
  refine hplain.labels name ?_
  rcases List.mem_cons.1 hname with rfl | hname
  · exact Machine.state_mem_labelNames (Machine.variant_state_mem_states hw)
  · exact Machine.variant_event_mem_labelNames hw (by simpa using hname)

/-- Plain names of a valid machine stay apart if the ones that validation lets through do. -/
theorem PlainNames.identifiersApart (hplain : PlainNames m) (hvalid : m.Valid)
    (hlabels : ∀ name ∈ m.labelNames, name ∉ ["name", "initial_states", textTypeName])
    (hkeys : ∀ w ∈ m.variants, ∀ name ∈ w.state.name :: w.eventName?.toList,
      name ≠ "transitions")
    (hevents : ∀ w ∈ m.variants, ∀ t ∈ m.transitionsFrom w.state.name,
      t.event.name ∉ Validation.dispatchNames)
    (hresources : ∀ r ∈ m.guardResources ++ m.actionResources, r.name ≠ textTypeName) :
    IdentifiersApart m ((m.guardResources ++ m.actionResources).map parameterOf) := by
  constructor
  case distinct =>
    intro a ha b hb hsame
    rwa [hplain.labels a ha, hplain.labels b hb] at hsame
  case tables =>
    intro name hname hmem
    rw [hplain.labels name hname] at hmem
    exact hlabels name hname (List.mem_append_left [textTypeName] hmem)
  case keys =>
    intro w hw name hname
    rw [hplain.variant hw hname]
    exact hkeys w hw name hname
  case events =>
    intro w hw t ht
    have hevent := Machine.event_mem_labelNames (List.mem_filter.1 ht).1
    rw [hplain.labels _ hevent]
    refine ⟨hevents w hw t ht, hplain.not_mem_params fun r hr hname => ?_⟩
    exact (hvalid.resource hr).not_label (hname ▸ hevent)
  case text =>
    refine ⟨fun hmem => ?_, hplain.not_mem_params hresources⟩
    obtain ⟨name, hname, hsame⟩ := List.mem_map.1 hmem
    rw [hplain.labels name hname] at hsame
    exact hlabels name hname (by simp [hsame])

/-- What validation leaves to be captured. Where names are plain, validation excludes all
names but the ones of the tables in the class of the machine and of the function that makes a
text, and for events the local names of the dispatch function. -/
theorem PlainNames.identifiersApart_iff (hplain : PlainNames m) (hvalid : m.Valid) :
    IdentifiersApart m ((m.guardResources ++ m.actionResources).map parameterOf) ↔
      (∀ name ∈ m.labelNames, name ∉ ["name", "initial_states", textTypeName]) ∧
      (∀ w ∈ m.variants, ∀ name ∈ w.state.name :: w.eventName?.toList, name ≠ "transitions") ∧
      (∀ w ∈ m.variants, ∀ t ∈ m.transitionsFrom w.state.name,
        t.event.name ∉ Validation.dispatchNames) ∧
      ∀ r ∈ m.guardResources ++ m.actionResources, r.name ≠ textTypeName := by
  constructor
  · rintro ⟨-, htables, hkeys, hevents, htext, hparams⟩
    refine ⟨fun name hname hmem => ?_, fun w hw name hname => ?_, fun w hw t ht => ?_,
      fun r hr hname => ?_⟩
    · have hplain := hplain.labels name hname
      have htables := htables name hname
      rw [hplain] at htables
      simp only [List.mem_cons, List.not_mem_nil, or_false] at hmem htables
      rcases hmem with rfl | rfl | rfl
      · exact htables (.inl rfl)
      · exact htables (.inr rfl)
      · exact htext (List.mem_map.2 ⟨_, hname, hplain⟩)
    · exact hplain.variant hw hname ▸ hkeys w hw name hname
    · have hevent := Machine.event_mem_labelNames (List.mem_filter.1 ht).1
      exact hplain.labels _ hevent ▸ (hevents w hw t ht).1
    · exact hparams (List.mem_map.2 ⟨r, hr, (hplain.resources r hr).trans hname⟩)
  · rintro ⟨hlabels, hkeys, hevents, hresources⟩
    exact hplain.identifiersApart hvalid hlabels hkeys hevents hresources

/-! ## Modules without captured names -/

/-- Nothing is captured exactly if the identifiers stay apart. In the module of a valid
machine that the target language reads, every state and event means its own class wherever it
is named, and nothing hides the function that makes a text, if and only if the identifiers
stay apart. Then the module is loaded, unless two tags are one identifier; its machines start
and follow events as declared; and if the parameters of the dispatch function hide nothing
else that it reads, the first enabled rule fires, and foreign variants are refused. -/
theorem captureFree_iff_identifiersApart {doc : String} {signature : Target.Signature}
    (hvalid : m.validate = .ok ()) (hfresh : FreshLabels m)
    (hcompiles : Compiles (m.compile source) doc signature) :
    (CaptureFree m (load + 1) source signature.names ↔ IdentifiersApart m signature.names) ∧
      (CaptureFree m (load + 1) source signature.names → TagsApart m →
        ∃ module, LoadedModule.ofMachine (load + 1) m source = .ok module ∧
          module.params = signature.names ∧ Conforms m module ∧
          (HelpersApart m module.params → Dispatches m module ∧ RefusesForeign m module)) := by
  have hvalid : m.Valid := Machine.validate_eq_ok_iff.1 hvalid
  constructor
  · exact ⟨fun hfree => hfree.identifiersApart hvalid, fun hapart => hapart.captureFree hvalid⟩
  · intro hfree htags
    have hapart := hfree.identifiersApart hvalid
    obtain ⟨kind, hkind⟩ := hfree.exists_machineClass htags
    have hload := ofMachine_eq_ok_iff.2 ⟨hvalid, doc, signature, kind, hcompiles, hkind, rfl⟩
    have hnames : NamesApart m :=
      ⟨hapart.distinct, hfresh,
        fun name hname => (not_or.1 (mt List.mem_pair.2 (hapart.tables name hname))).1,
        fun name hname => (not_or.1 (mt List.mem_pair.2 (hapart.tables name hname))).2⟩
    refine ⟨_, hload, rfl, conforms_of_namesApart hnames hload, fun hhelpers => ⟨?_, ?_⟩⟩
    · exact dispatches_of_dispatchApart hnames (hapart.dispatchApart hhelpers hvalid) hload
        hhelpers.parameters (nodup_of_compiles hcompiles)
    · exact refusesForeign_of_apart hapart hhelpers hvalid rfl rfl

/-- In the module of a machine whose guards take a number `n`, nothing is captured. -/
theorem guarded_captureFree :
    ∃ module, LoadedModule.ofMachine 1 (guardedRule "n" 47) none = .ok module ∧
      CaptureFree (guardedRule "n" 47) 1 none module.params ∧
      Conforms (guardedRule "n" 47) module ∧ Dispatches (guardedRule "n" 47) module ∧
      RefusesForeign (guardedRule "n" 47) module := by
  let m := guardedRule "n" 47
  obtain ⟨module, hload, hparams, -⟩ := exists_loaded_numbered
  obtain ⟨hvalid, doc, signature, kind, hcompiles, -, rfl⟩ := ofMachine_eq_ok_iff.1 hload
  have hplain : PlainNames m := ⟨by decide +kernel, by decide +kernel⟩
  have hapart : IdentifiersApart m signature.names := by
    rw [show signature.names = _ from hparams]
    refine (hplain.identifiersApart_iff hvalid).2 ⟨?_, ?_, ?_, ?_⟩ <;> decide +kernel
  have hhelpers : HelpersApart m signature.names := by
    rw [show signature.names = _ from hparams]
    exact hplain.helpersApart hvalid
  have htags : TagsApart m := by decide +kernel
  have hvalidated : m.validate = .ok () := Machine.validate_eq_ok_iff.2 hvalid
  have hfresh : FreshLabels m := hplain.freshLabels hvalid
  have hfree : CaptureFree m 1 none signature.names :=
    (captureFree_iff_identifiersApart hvalidated hfresh hcompiles).1.2 hapart
  obtain ⟨module, hload', hnames, hconforms, hdispatch⟩ :=
    (captureFree_iff_identifiersApart hvalidated hfresh hcompiles).2 hfree htags
  obtain rfl := Except.ok.inj (hload.symm.trans hload')
  exact ⟨_, hload, hfree, hconforms, hdispatch hhelpers⟩

/-- The target is a state that validation accepts, but in the class of the machine its name
means that of the machine: the rule cannot be followed. -/
theorem captured_target_not_followed :
    ∃ module r, LoadedModule.ofMachine 1 (oneRule "A" "Go" "name") none = .ok module ∧
      "str" ∉ (oneRule "A" "Go" "name").labelNames ∧
      (ruleScope module.globals).resolve "name" = .ok .machineName ∧
      RunningMachine.new module.kind (.labelClass ((oneRule "A" "Go" "name").classOf 1 "A")) =
        .ok r ∧
      r.follow (.labelClass ((oneRule "A" "Go" "name").classOf 1 "Go")) =
        .error (.noAttribute "str" "name") := by
  obtain ⟨module, hload, hinitial, htransitions⟩ := exists_loaded_hidden "name"
    (by decide +kernel) (by decide +kernel) (by decide +kernel) (by decide +kernel)
  obtain ⟨r, hnew, hfollow⟩ := exists_new_of_hidden hinitial htransitions
  have hname : compatible "name" = "name" := by decide +kernel
  have hmeaning : ∀ globals, (ruleScope globals).resolve "name" = .ok .machineName := by
    intro globals
    rw [ruleScope, resolve_cons, hname, if_neg (by decide), initialScope, resolve_cons, hname,
      if_pos rfl]
  exact ⟨module, r, hload, by decide +kernel, hmeaning _, hnew, hfollow⟩

end FsmCompiler.Running
