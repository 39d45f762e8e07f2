/-
# Tables of declared rules

Where the names of a machine stay apart, the class of the machine holds what was
declared: the initial states, the rules, and a tag for each variant. What can be
looked up in its tables is stated in terms of the declarations.
-/

import FsmCompiler.Proofs.Loaded

namespace FsmCompiler.Running

open Text (compatible)

variable {m : FsmCompiler.Machine} {load : Nat} {source : Option String} {module : LoadedModule}

/-- The key of a variant in the table of tags. -/
def variantKey (m : FsmCompiler.Machine) (load : Nat) (v : Variant) : Meaning × Meaning :=
  (.label (m.classOf load v.state.name),
    .label ((v.eventName?.map (m.classOf load)).getD .noEvent))

/-- The entry of a rule in the table of transitions. -/
def ruleEntry (m : FsmCompiler.Machine) (load : Nat) (t : Transition) :
    (Meaning × Meaning) × Meaning :=
  ((.label (m.classOf load t.source.name), .label (m.classOf load t.event.name)),
    .label (m.classOf load t.target.name))

/-- The entry of a variant in the table of tags. -/
def variantEntry (m : FsmCompiler.Machine) (load : Nat) (v : Variant) :
    (Meaning × Meaning) × TagMember :=
  (variantKey m load v, tagOf load (globalsOf m load) v.tag)

/-- The class of a machine whose tables hold what was declared. -/
def declaredKind (m : FsmCompiler.Machine) (load : Nat) : MachineClass where
  load := load
  name := m.name
  initialStates := m.initialNames.map fun s => .label (m.classOf load s)
  transitions := Table.ofEntries (m.transitions.map (ruleEntry m load))
  tagType := tagTypeName
  tags := m.variants.map fun v => tagOf load (globalsOf m load) v.tag
  variantTags := Table.ofEntries (m.variants.map (variantEntry m load))

/-! ## Filling the tables -/

theorem NamesApart.transitionEntry {t : Transition} (hapart : NamesApart m) (hvalid : m.Valid)
    (ht : t ∈ m.transitions) :
    (ruleScope (globalsOf m load)).transitionEntry (t.source.name, t.event.name, t.target.name) =
      .ok (ruleEntry m load t) := by
  have hsource := Machine.state_mem_labelNames (Machine.source_mem_states ht)
  have htarget := Machine.state_mem_labelNames (Machine.target_mem_states ht)
  refine transitionEntry_eq_ok_iff.2 ⟨?_, ?_, ?_⟩
  · exact resolveKey_eq_label_iff.2 (hapart.resolve_ruleScope hvalid hsource)
  · exact resolveKey_eq_label_iff.2
      (hapart.resolve_ruleScope hvalid (Machine.event_mem_labelNames ht))
  · exact hapart.resolve_ruleScope hvalid htarget

/-- The entry that a variant has, if it has any. -/
theorem NamesApart.tagEntry {v : Variant} {entry : (Meaning × Meaning) × TagMember}
    (hapart : NamesApart m) (hvalid : m.Valid) (hv : v ∈ m.variants)
    (hnodup : ((m.variants.map fun v => tagOf load (globalsOf m load) v.tag).map (·.name)).Nodup)
    (hentry : (tagScope (globalsOf m load)).tagEntry
      (m.variants.map fun v => tagOf load (globalsOf m load) v.tag) (Machine.tagEntry v) =
        .ok entry) : entry = variantEntry m load v := by
  obtain ⟨hstate, hevent, htag⟩ := tagEntry_eq_ok_iff.1 hentry
  have hnodup : (((m.variants.map (·.tag)).map (tagOf load (globalsOf m load))).map
      (·.name)).Nodup := by
    simpa [Function.comp_def] using hnodup
  have hfound := find?_tagOf hnodup (List.mem_map.2 ⟨v, hv, rfl⟩)
  rw [List.map_map, Function.comp_def, htag, Option.some.injEq] at hfound
  have hname := Machine.state_mem_labelNames (Machine.variant_state_mem_states hv)
  obtain ⟨⟨state, event⟩, tag⟩ := entry
  have hstate : state = _ := hapart.resolveKey_tagScope hvalid hname hstate
  cases hv' : v.eventName? with
  | none =>
    rw [hv'] at hevent
    have hevent : event = _ := hevent
    simp [variantEntry, variantKey, hv', hstate, hevent, ← hfound]
  | some name =>
    have hlabel := Machine.variant_event_mem_labelNames hv hv'
    have hne : name ≠ "" := (hvalid.label hlabel).1.ne_empty
    rw [hv'] at hevent
    have hkey : (tagScope (globalsOf m load)).resolveKey name = .ok event := by
      simpa [Option.filter, hne] using hevent
    have hevent : event = _ := hapart.resolveKey_tagScope hvalid hlabel hkey
    simp [variantEntry, variantKey, hv', hstate, hevent, ← hfound]

/-- Where names stay apart, the tables hold what was declared. -/
theorem kind_eq_declaredKind (hapart : NamesApart m)
    (hload : LoadedModule.ofMachine load m source = .ok module) :
    module.kind = declaredKind m load := by
  obtain ⟨hvalid, doc, signature, kind, -, hkind, rfl⟩ := ofMachine_eq_ok_iff.1 hload
  obtain ⟨tags, initialStates, rules, variantTags, htags, hinitial, hrules, hvariants, rfl⟩ :=
    machineClass_eq_ok_iff.1 hkind
  obtain ⟨htags, hnodup⟩ := tagMembers_eq_ok htags (by simp)
  have htags : tags = m.variants.map fun v => tagOf load (globalsOf m load) v.tag := by
    rw [htags, List.nil_append]
    exact List.map_map
  subst htags
  have hinitial : initialStates =
      m.initialStates.map fun s => .label (m.classOf load s.name) := by
    refine eq_map_of_mapM_eq_ok hinitial fun s hs meaning hmeaning => ?_
    have hname := Machine.initial_mem_states (List.mem_map.2 ⟨s, hs, rfl⟩)
    rw [hapart.resolve_initialScope hvalid (Machine.state_mem_labelNames hname)] at hmeaning
    exact (Except.ok.inj hmeaning).symm
  have hrules : rules = m.transitions.map (ruleEntry m load) := by
    refine eq_map_of_mapM_eq_ok hrules fun t ht entry hentry => ?_
    rw [hapart.transitionEntry hvalid ht] at hentry
    exact (Except.ok.inj hentry).symm
  have hvariants : variantTags = m.variants.map (variantEntry m load) :=
    eq_map_of_mapM_eq_ok hvariants fun v hv entry hentry =>
      hapart.tagEntry hvalid hv hnodup hentry
  simp only [hinitial, hrules, hvariants, declaredKind, Machine.initialNames, List.map_map]
  rfl

theorem kind_of_ofMachine (hapart : NamesApart m)
    (hload : LoadedModule.ofMachine load m source = .ok module) :
    module.kind = declaredKind m module.load := by
  rw [(loadedFrom_of_ofMachine hload).load]
  exact kind_eq_declaredKind hapart hload

/-! ## Looking up -/

theorem ruleEntry_mem {s e : String} {target : Meaning}
    (hmem : ((.label (m.classOf load s), .label (m.classOf load e)), target) ∈
      m.transitions.map (ruleEntry m load)) :
    ∃ t ∈ m.transitions, t.source.name = s ∧ t.event.name = e ∧
      target = .label (m.classOf load t.target.name) := by
  obtain ⟨t, ht, hentry⟩ := List.mem_map.1 hmem
  simp only [ruleEntry, Prod.mk.injEq, Meaning.label.injEq, Machine.classOf_inj] at hentry
  obtain ⟨⟨hsource, hevent⟩, htarget⟩ := hentry
  exact ⟨t, ht, hsource, hevent, htarget.symm⟩

/-- The table of transitions has the target of each rule. -/
theorem lookup_transitions {t : Transition} (hvalid : m.Valid) (ht : t ∈ m.transitions) :
    (declaredKind m load).transitions.lookup
        (.label (m.classOf load t.source.name), .label (m.classOf load t.event.name)) =
      some (.label (m.classOf load t.target.name)) := by
  refine Table.lookup_ofEntries (List.mem_map.2 ⟨t, ht, rfl⟩) fun other hother => ?_
  obtain ⟨u, hu, hsource, hevent, rfl⟩ := ruleEntry_mem hother
  rw [hvalid.target_unique hu ht hsource hevent]

/-- The table of transitions has nothing but rules. -/
theorem exists_rule_of_lookup {key : Meaning × Meaning} {target : Meaning}
    (hlookup : (declaredKind m load).transitions.lookup key = some target) :
    ∃ t ∈ m.transitions, (key, target) = ruleEntry m load t := by
  obtain ⟨t, ht, hentry⟩ := List.mem_map.1 (Table.mem_of_lookup_ofEntries hlookup)
  exact ⟨t, ht, hentry.symm⟩

/-- The table of tags has nothing but variants. -/
theorem exists_variant_of_lookup {key : Meaning × Meaning} {tag : TagMember}
    (hlookup : (declaredKind m load).variantTags.lookup key = some tag) :
    ∃ w ∈ m.variants, (key, tag) = variantEntry m load w := by
  obtain ⟨w, hw, hentry⟩ := List.mem_map.1 (Table.mem_of_lookup_ofEntries hlookup)
  exact ⟨w, hw, hentry.symm⟩

theorem variantKey_injective {v w : Variant} (hv : v ∈ m.variants) (hw : w ∈ m.variants)
    (hkey : variantKey m (load + 1) v = variantKey m (load + 1) w) : v = w := by
  simp only [variantKey, Prod.mk.injEq, Meaning.label.injEq, Machine.classOf_inj] at hkey
  refine Machine.variant_ext hv hw hkey.1 ?_
  cases hv' : v.eventName? with
  | none =>
    cases hw' : w.eventName? with
    | none => rfl
    | some event =>
      rw [hv', hw'] at hkey
      exact absurd hkey.2.symm (Machine.classOf_ne_noEvent event)
  | some event =>
    cases hw' : w.eventName? with
    | none =>
      rw [hv', hw'] at hkey
      exact absurd hkey.2 (Machine.classOf_ne_noEvent event)
    | some other =>
      rw [hv', hw'] at hkey
      exact congrArg some (Machine.classOf_inj.1 hkey.2)

/-- The table of tags has the tag of each variant. -/
theorem lookup_variantTags (load : Nat) {v : Variant} (hv : v ∈ m.variants) :
    (declaredKind m (load + 1)).variantTags.lookup (variantKey m (load + 1) v) =
      some (tagOf (load + 1) (globalsOf m (load + 1)) v.tag) := by
  refine Table.lookup_ofEntries (List.mem_map.2 ⟨v, hv, rfl⟩) fun other hother => ?_
  obtain ⟨w, hw, hentry⟩ := List.mem_map.1 hother
  simp only [variantEntry, Prod.mk.injEq] at hentry
  obtain ⟨hkey, rfl⟩ := hentry
  rw [variantKey_injective hw hv hkey]

end FsmCompiler.Running
