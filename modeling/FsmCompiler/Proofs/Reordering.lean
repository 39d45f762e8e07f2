/-
# Declarations in another order

The rules and the initial states of a machine may be declared in any order. Everywhere the
first of equal entries is kept, and validation remembers the owner of a tag and the target of
a rule that came first; so lists and reports differ. But a defect is a disagreement between
two declarations, whichever comes first: both orders are accepted or neither is, they declare
the same names and variants, and both modules can be loaded or neither can.
-/

import FsmCompiler.Proofs.Coverage
import FsmCompiler.Proofs.NameCapture

namespace FsmCompiler

open Validation
open Running (Reaches)

namespace Machine

variable {m m' : Machine} {name : String}

/-- A machine with the same declarations, whose rules and initial states stand in any order. -/
structure Reordered (m m' : Machine) : Prop where
  transitions : m.transitions.Perm m'.transitions
  initialStates : m.initialStates.Perm m'.initialStates
  name : m'.name = m.name
  guardResources : m'.guardResources = m.guardResources
  actionResources : m'.actionResources = m.actionResources

namespace Reordered

theorem symm (hreordered : m.Reordered m') : m'.Reordered m where
  transitions := hreordered.transitions.symm
  initialStates := hreordered.initialStates.symm
  name := hreordered.name.symm
  guardResources := hreordered.guardResources.symm
  actionResources := hreordered.actionResources.symm

/-! ## Names -/

theorem mem_transitions (hreordered : m.Reordered m') {t : Transition} :
    t ∈ m.transitions ↔ t ∈ m'.transitions :=
  hreordered.transitions.mem_iff

theorem mem_initialNames (hreordered : m.Reordered m') :
    name ∈ m.initialNames ↔ name ∈ m'.initialNames :=
  (hreordered.initialStates.map _).mem_iff

theorem mem_states (hreordered : m.Reordered m') :
    name ∈ m.states.map (·.name) ↔ name ∈ m'.states.map (·.name) := by
  have hmentioned : m.mentionedStates.Perm m'.mentionedStates :=
    (hreordered.transitions.flatMap_right _).append hreordered.initialStates
  rw [states, mem_map_distinctBy, (hmentioned.map _).mem_iff, states, mem_map_distinctBy]

theorem mem_events (hreordered : m.Reordered m') :
    name ∈ m.events.map (·.name) ↔ name ∈ m'.events.map (·.name) := by
  rw [events, mem_map_distinctBy, ((hreordered.transitions.map _).map _).mem_iff, events,
    mem_map_distinctBy]

theorem mem_nonTerminalStates (hreordered : m.Reordered m') :
    name ∈ m.nonTerminalStates.map (·.name) ↔ name ∈ m'.nonTerminalStates.map (·.name) := by
  rw [nonTerminalStates, mem_map_distinctBy, ((hreordered.transitions.map _).map _).mem_iff,
    nonTerminalStates, mem_map_distinctBy]

theorem mem_labelNames (hreordered : m.Reordered m') :
    name ∈ m.labelNames ↔ name ∈ m'.labelNames := by
  rw [labelNames, List.mem_append, hreordered.mem_states, hreordered.mem_events, labelNames,
    List.mem_append]

end Reordered

theorem Reordered.reaches (hreordered : m.Reordered m') {state : String}
    (hreaches : Reaches m state) : Reaches m' state := by
  induction hreaches with
  | initial hs => exact .initial (hreordered.mem_initialNames.1 hs)
  | rule ht _ ih => exact .rule (hreordered.mem_transitions.1 ht) ih

/-! ## Validation -/

/-- A valid machine is valid in any order: what makes a defect is said of single declarations
and of pairs of them. -/
theorem Reordered.valid (hreordered : m.Reordered m') (hvalid : m.Valid) : m'.Valid := by
  constructor
  case names =>
    obtain ⟨hname, hstates, hevents⟩ := nameDefects_eq_nil_iff.1 hvalid.names
    refine nameDefects_eq_nil_iff.2 ⟨hreordered.name ▸ hname,
      fun name hs => hstates name (hreordered.mem_states.2 hs), fun name he => ?_⟩
    rw [← hreordered.mem_states]
    exact hevents name (hreordered.mem_events.2 he)
  case resources =>
    obtain ⟨husable, hnodup⟩ := resourceDefectsFrom_eq_ok_nil_iff.1 hvalid.resources
    rw [resourceDefects, hreordered.guardResources, hreordered.actionResources]
    refine resourceDefectsFrom_eq_ok_nil_iff.2 ⟨fun r hr => ?_, hnodup⟩
    obtain ⟨hr, hnew⟩ := husable r hr
    exact ⟨{ hr with not_label := mt hreordered.mem_labelNames.2 hr.not_label }, hnew⟩
  case tags =>
    obtain ⟨hinitial, hrules⟩ := tagDefects_eq_nil_iff.1 hvalid.tags
    refine tagDefects_eq_nil_iff.2 ⟨fun s hs t ht => ?_, fun t ht u hu => ?_⟩
    · exact hinitial s (hreordered.initialStates.mem_iff.2 hs) t (hreordered.mem_transitions.2 ht)
    · exact hrules t (hreordered.mem_transitions.2 ht) u (hreordered.mem_transitions.2 hu)
  case targets =>
    rw [targetDefects_eq_nil_iff]
    intro t ht u hu
    exact targetDefects_eq_nil_iff.1 hvalid.targets t (hreordered.mem_transitions.2 ht) u
      (hreordered.mem_transitions.2 hu)

theorem Reordered.validate_iff (hreordered : m.Reordered m') :
    m.validate = .ok () ↔ m'.validate = .ok () := by
  rw [validate_eq_ok_iff, validate_eq_ok_iff]
  exact ⟨hreordered.valid, hreordered.symm.valid⟩

/-! ## Variants -/

/-- Some variant has the tag, the state and the event, or no event. -/
def Tagged (m : Machine) (tag state : String) (event : Option String) : Prop :=
  ∃ w ∈ m.variants, w.tag = tag ∧ w.state.name = state ∧ w.eventName? = event

/-- Whichever declaration of a variant is kept, it has the same state and event. -/
theorem Reordered.tagged {tag state : String} {event : Option String}
    (hreordered : m.Reordered m') (hvalid : m.Valid) (htagged : Tagged m tag state event) :
    Tagged m' tag state event := by
  obtain ⟨w, hw, rfl, rfl, rfl⟩ := htagged
  have hvalid' := hreordered.valid hvalid
  obtain ⟨w', hw', hstate, hevent⟩ : ∃ w' ∈ m'.variants,
      w'.state.name = w.state.name ∧ w'.eventName? = w.eventName? := by
    rcases variant_cases hw with ⟨s, hs, rfl⟩ | ⟨t, ht, rfl⟩
    · exact hvalid'.exists_initial_variant
        (hreordered.mem_initialNames.1 (List.mem_map.2 ⟨s, hs, rfl⟩))
    · exact hvalid'.exists_entered_variant (hreordered.mem_transitions.1 ht)
  exact ⟨w', hw', by rw [variant_tag hw', variant_tag hw, hstate, hevent], hstate, hevent⟩

/-- The tags of the variants, in whichever order. -/
theorem Reordered.tags_perm (hreordered : m.Reordered m') (hvalid : m.Valid) :
    (m.variants.map (·.tag)).Perm (m'.variants.map (·.tag)) := by
  have htag : ∀ {m m' : Machine}, m.Reordered m' → m.Valid → ∀ tag, tag ∈ m.variants.map (·.tag) →
      tag ∈ m'.variants.map (·.tag) := by
    intro m m' hreordered hvalid tag htag
    obtain ⟨w, hw, rfl⟩ := List.mem_map.1 htag
    obtain ⟨w', hw', hsame, -⟩ := hreordered.tagged hvalid ⟨w, hw, rfl, rfl, rfl⟩
    exact List.mem_map.2 ⟨w', hw', hsame⟩
  refine (List.perm_ext_iff_of_nodup (nodup_map_distinctBy _ _) (nodup_map_distinctBy _ _)).2
    fun tag => ?_
  exact ⟨htag hreordered hvalid tag, htag hreordered.symm (hreordered.valid hvalid) tag⟩

/-- Two machines declare the same names, and the same tags for the same states and events. -/
structure SameSets (m m' : Machine) : Prop where
  states : ∀ name, name ∈ m.states.map (·.name) ↔ name ∈ m'.states.map (·.name)
  events : ∀ name, name ∈ m.events.map (·.name) ↔ name ∈ m'.events.map (·.name)
  terminal : ∀ name, name ∈ m.terminalStates.map (·.name) ↔ name ∈ m'.terminalStates.map (·.name)
  nonTerminal : ∀ name,
    name ∈ m.nonTerminalStates.map (·.name) ↔ name ∈ m'.nonTerminalStates.map (·.name)
  reachable : ∀ name,
    name ∈ m.reachableStates.map (·.name) ↔ name ∈ m'.reachableStates.map (·.name)
  variants : ∀ tag state event, Tagged m tag state event ↔ Tagged m' tag state event

theorem Reordered.sameSets (hreordered : m.Reordered m') (hvalid : m.Valid) : SameSets m m' where
  states _ := hreordered.mem_states
  events _ := hreordered.mem_events
  terminal _ := by
    rw [mem_terminalStates, hreordered.mem_states, hreordered.mem_nonTerminalStates,
      mem_terminalStates]
  nonTerminal _ := hreordered.mem_nonTerminalStates
  reachable _ := by
    rw [Running.mem_reachableStates_iff, Running.mem_reachableStates_iff]
    exact ⟨hreordered.reaches, hreordered.symm.reaches⟩
  variants _ _ _ :=
    ⟨hreordered.tagged hvalid, hreordered.symm.tagged (hreordered.valid hvalid)⟩

end Machine

/-! ## Loading -/

namespace Running

open Machine
open Text (compatible)

variable {m m' : FsmCompiler.Machine} {load load' : Nat} {source : Option String}
  {module module' : LoadedModule}

theorem namesApart_of_reordered (hreordered : m.Reordered m') (hapart : NamesApart m) :
    NamesApart m' where
  distinct a ha b hb :=
    hapart.distinct a (hreordered.mem_labelNames.2 ha) b (hreordered.mem_labelNames.2 hb)
  fresh name hname := hapart.fresh name (hreordered.mem_labelNames.2 hname)
  name name hname := hapart.name name (hreordered.mem_labelNames.2 hname)
  initialStates name hname := hapart.initialStates name (hreordered.mem_labelNames.2 hname)

/-- The table of tags can be filled: the tags are different identifiers, and as part of a key
no name means the table of transitions, which the class of the machine holds by then. -/
structure TagTableApart (m : FsmCompiler.Machine) : Prop where
  tags : TagsApart m
  keys : ∀ tag state event, Tagged m tag state event →
    ∀ name ∈ state :: event.toList, compatible name ≠ "transitions"

theorem tagTableApart_of_reordered (hreordered : m.Reordered m') (hvalid : m.Valid)
    (htable : TagTableApart m) : TagTableApart m' where
  tags := by
    have htags := htable.tags
    have hperm := (hreordered.tags_perm hvalid).map compatible
    simp only [List.map_map] at hperm
    exact hperm.nodup_iff.1 htags
  keys tag state event htagged :=
    htable.keys tag state event (hreordered.symm.tagged (hreordered.valid hvalid) htagged)

/-- Where the names stay apart, the tables can be filled exactly if that of the tags can. -/
theorem NamesApart.exists_machineClass_iff (hapart : NamesApart m) (hvalid : m.Valid) :
    (∃ kind, machineClass load (m.compile source) (globalsOf m load) = .ok kind) ↔
      TagTableApart m := by
  constructor
  · rintro ⟨kind, hkind⟩
    obtain ⟨tags, _, _, _, htags, -, -, hvariants, -⟩ := machineClass_eq_ok_iff.1 hkind
    obtain ⟨htags, hnodup⟩ := tagMembers_eq_ok htags (by simp)
    refine ⟨?_, ?_⟩
    · rw [htags, List.nil_append] at hnodup
      unfold TagsApart
      simpa [Machine.compile, Machine.compileWith, Machine.derived, tagOf, Function.comp_def]
        using hnodup
    · rintro _ _ _ ⟨w, hw, rfl, rfl, rfl⟩ name hname
      obtain ⟨entry, hentry⟩ :=
        exists_result_of_mapM_eq_ok hvariants (List.mem_map.2 ⟨w, hw, rfl⟩)
      obtain ⟨hstate, hevent, -⟩ := tagEntry_eq_ok_iff.1 hentry
      rw [← tagEntry_names hvalid hw] at hname
      rcases List.mem_cons.1 hname with rfl | hname
      · exact ne_transitions_of_resolveKey hstate
      · have hname : w.eventName?.filter (· != "") = some name := Option.mem_toList.1 hname
        rw [hname] at hevent
        exact ne_transitions_of_resolveKey hevent
  · intro htable
    refine exists_machineClass (fun name hname => ?_) (fun rule hrule name hname => ?_)
      (fun entry hentry name hname => ?_) htable.tags
    · exact hapart.resolve_initialScope hvalid
        (Machine.state_mem_labelNames (Machine.initial_mem_states hname))
    · exact hapart.resolve_ruleScope hvalid (label_of_rule hrule hname)
    · obtain ⟨hlabel, w, hw, hname⟩ := variant_of_tagEntry hvalid hentry hname
      exact resolve_tagScope_eq_label_iff.2
        ⟨htable.keys _ _ _ ⟨w, hw, rfl, rfl, rfl⟩ name hname, hapart.initialStates name hlabel,
          hapart.name name hlabel, (distinctLabels_iff hvalid).1 hapart.distinct name hlabel⟩

/-- The text of the module is read in either order: its top names the machine, and its
parameters are the resources. -/
theorem compiles_of_reordered {doc : String} {signature : Target.Signature}
    (hreordered : m.Reordered m') (hcompiles : Compiles (m.compile source) doc signature) :
    Compiles (m'.compile source) doc signature where
  readable := hcompiles.readable
  top := by
    have hmachine : (m'.compile source).machine = (m.compile source).machine := hreordered.name
    rw [Target.topText, hmachine]
    exact hcompiles.top
  parameters := by
    have hguards : (m'.compile source).guardResources = (m.compile source).guardResources :=
      hreordered.guardResources
    have hactions : (m'.compile source).actionResources = (m.compile source).actionResources :=
      hreordered.actionResources
    rw [Target.dispatchSignature, ModuleText.dispatchParams, hguards, hactions]
    exact hcompiles.parameters
  writable := hcompiles.writable

/-- A machine is loaded in either order, each time with its own classes. -/
theorem exists_loaded_of_reordered (hreordered : m.Reordered m') (hapart : NamesApart m)
    (hload : LoadedModule.ofMachine load m source = .ok module) :
    ∃ module', LoadedModule.ofMachine load' m' source = .ok module' := by
  obtain ⟨hvalid, doc, signature, kind, hcompiles, hkind, -⟩ := ofMachine_eq_ok_iff.1 hload
  have hvalid' := hreordered.valid hvalid
  have htable := (hapart.exists_machineClass_iff hvalid).1 ⟨kind, hkind⟩
  obtain ⟨kind', hkind'⟩ := ((namesApart_of_reordered hreordered hapart).exists_machineClass_iff
    hvalid').2 (tagTableApart_of_reordered hreordered hvalid htable)
  exact ⟨_, ofMachine_eq_ok_iff.2 ⟨hvalid', doc, signature, kind',
    compiles_of_reordered hreordered hcompiles, hkind', rfl⟩⟩

/-- The dispatch function has the same parameters. -/
theorem params_of_reordered (hreordered : m.Reordered m')
    (hload : LoadedModule.ofMachine load m source = .ok module)
    (hload' : LoadedModule.ofMachine load' m' source = .ok module') :
    module'.params = module.params := by
  obtain ⟨-, doc, signature, kind, hcompiles, -, rfl⟩ := ofMachine_eq_ok_iff.1 hload
  obtain ⟨-, doc', signature', kind', hcompiles', -, rfl⟩ := ofMachine_eq_ok_iff.1 hload'
  have hsame := (compiles_of_reordered hreordered hcompiles).parameters
  rw [hcompiles'.parameters, Option.some.injEq] at hsame
  exact congrArg Target.Signature.names hsame

theorem SearchApart.of_reordered (hreordered : m.Reordered m') (hsearch : SearchApart m module)
    (hparams : module'.params = module.params) : SearchApart m' module' where
  events t ht hsource := by
    rw [hparams, hreordered.guardResources]
    exact hsearch.events t (hreordered.mem_transitions.2 ht) (hreordered.symm.reaches hsource)
  tags hne := by
    rw [hparams]
    refine hsearch.tags fun hnone => hne ?_
    have hperm := hreordered.initialStates.map (·.name)
    exact List.perm_nil.1 (hnone ▸ hperm.symm)

end Running

end FsmCompiler
