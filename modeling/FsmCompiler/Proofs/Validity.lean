/-
# What valid machines have

Validation finds defects one after the other. Here it is said what the absence of
defects means for the declarations of a machine as a whole: labels have usable
names of their own, a state and an event lead to one target, and a tag stands for
one variant.
-/

import FsmCompiler.Proofs.TableLookup
import FsmCompiler.Validation.Lint

namespace FsmCompiler

open Validation

namespace Validation

@[simp] theorem found_eq_nil_iff {loc : Option Source.Location} {defects : List α} :
    found loc defects = [] ↔ defects = [] := by
  simp [found]

@[simp] theorem defectIf_eq_nil_iff {condition : Bool} {defect : Defect} :
    defectIf condition defect = [] ↔ condition = false := by
  cases condition <;> simp [defectIf]

/-- A name that can be bound in a module. -/
structure Bindable (name : String) : Prop where
  identifier : Text.isIdentifier name = true
  free : Naming.isReserved name = false
  exported : name.startsWith "_" = false

theorem nameDefect?_eq_none_iff {role : NameRole} {name : String} :
    nameDefect? role name = none ↔ Bindable name := by
  unfold nameDefect?
  constructor
  · intro hdefect
    split at hdefect
    · cases hdefect
    · split at hdefect
      · cases hdefect
      · split at hdefect
        · cases hdefect
        · constructor <;> simp_all
  · rintro ⟨hidentifier, hfree, hexported⟩
    simp [hidentifier, hfree, hexported]

theorem Bindable.ne_empty {name : String} (hname : Bindable name) : name ≠ "" := by
  rintro rfl
  exact absurd hname.identifier (by decide)

/-! ## Types -/

/-- Reading a type comes to an end, unless it holds a NUL and the version fails at that. -/
theorem isSome_isType?_iff [TargetVersion] {type : String} :
    (isType? type).isSome ↔ TargetVersion.nul = .refusal ∨ type.contains nul = false := by
  unfold isType?
  split
  · rename_i hnul
    cases TargetVersion.nul <;> simp [hnul]
  · rename_i hplain
    simp [hplain]

/-- In no version a type with a NUL is an expression. -/
theorem isType?_eq_some_true_iff [TargetVersion] {type : String} :
    isType? type = some true ↔ type.contains nul = false ∧ Target.isExpression type = true := by
  unfold isType?
  split
  · rename_i hnul
    cases TargetVersion.nul <;> simp [hnul]
  · rename_i hplain
    simp [hplain]

end Validation

namespace LintResult

@[simp] theorem nil_append (result : LintResult) :
    (⟨[], []⟩ : LintResult).append result = result := rfl

theorem append_assoc (first second third : LintResult) :
    (first.append second).append third = first.append (second.append third) := by
  simp [append, List.append_assoc]

end LintResult

namespace Machine

variable {m : Machine}

/-! ## Checks -/

/-- Checks in a row find what the first ones find, and then what the later ones find. -/
theorem runChecks_append (first later : List Check) :
    m.runChecks (first ++ later) = (do
      let here ← m.runChecks first
      let behind ← m.runChecks later
      return here.append behind) := by
  induction first with
  | nil =>
    rw [List.nil_append, runChecks]
    cases m.runChecks later <;> rfl
  | cons check rest ih =>
    rw [List.cons_append, runChecks, runChecks, ih]
    cases check m with
    | error type => rfl
    | ok here =>
      cases m.runChecks rest with
      | error type => rfl
      | ok found =>
        cases m.runChecks later with
        | error type => rfl
        | ok behind => exact congrArg Except.ok (LintResult.append_assoc ..).symm

/-- All defects of a machine: of its names, its resources, its tags and its rules. -/
def defects [TargetVersion] (m : Machine) : Except UnreadableType (List (Finding Defect)) :=
  m.resourceDefects.map fun resources =>
    m.nameDefects ++ resources ++ m.tagDefects ++ m.targetDefects

/-- Validation finds all defects and no doubt. -/
theorem runChecks_validationChecks [TargetVersion] :
    m.runChecks validationChecks = m.defects.map (⟨·, []⟩) := by
  simp only [validationChecks, runChecks, nameCheck, resourceCheck, tagCheck, targetCheck, defects]
  cases m.resourceDefects with
  | error type => rfl
  | ok resources =>
    simp [bind, Except.bind, pure, Except.pure, Except.map, LintResult.append, List.append_assoc]

/-- Linting runs the checks of validation, and behind them one that finds no defect. So it finds
the same defects as validation, and doubts beside them. -/
theorem lint_eq [TargetVersion] (m : Machine) (extended : Bool) :
    m.lint extended = m.defects.map fun defects =>
      ⟨defects, m.structureDoubts ++ if extended then m.spellingDoubts else []⟩ := by
  have hchecks : lintChecks = validationChecks ++ [structureCheck] := rfl
  rw [lint, hchecks, runChecks_append, runChecks_validationChecks]
  cases m.defects with
  | error type => rfl
  | ok defects =>
    simp [runChecks, structureCheck, bind, Except.bind, pure, Except.pure, Except.map,
      LintResult.append]

/-- Validation accepts a machine that has no defects. -/
theorem validate_eq [TargetVersion] (m : Machine) :
    m.validate = match m.defects with
      | .error type => .error (.unreadable type)
      | .ok defects => if defects = [] then .ok () else .error (.defective m defects) := by
  rw [validate, runChecks_validationChecks]
  cases m.defects with
  | error type => rfl
  | ok defects => cases defects <;> rfl

theorem validate_eq_ok_iff_defects : m.validate = .ok () ↔ m.defects = .ok [] := by
  rw [validate_eq]
  cases m.defects <;> simp

/-- A machine without defects. -/
structure Valid (m : Machine) : Prop where
  names : m.nameDefects = []
  resources : m.resourceDefects = .ok []
  tags : m.tagDefects = []
  targets : m.targetDefects = []

theorem validate_eq_ok_iff : m.validate = .ok () ↔ m.Valid := by
  rw [validate_eq_ok_iff_defects, defects]
  constructor
  · intro hok
    cases hresources : m.resourceDefects with
    | error type => simp [hresources, Except.map] at hok
    | ok resources =>
      simp only [hresources, Except.map, Except.ok.injEq, List.append_eq_nil_iff] at hok
      obtain ⟨⟨⟨hnames, rfl⟩, htags⟩, htargets⟩ := hok
      exact ⟨hnames, hresources, htags, htargets⟩
  · rintro ⟨hnames, hresources, htags, htargets⟩
    simp [hnames, hresources, htags, htargets, Except.map]

/-! ## Names -/

theorem stateDefects_eq_nil_iff {s : Declaration} :
    stateDefects s = [] ↔ Bindable s.name ∧ s.name ∉ generatedNames := by
  simp [stateDefects, nameDefect?_eq_none_iff]

theorem eventDefects_eq_nil_iff {states : List String} {e : Declaration} :
    eventDefects states e = [] ↔
      Bindable e.name ∧ e.name ∉ generatedNames ∧ e.name ∉ states := by
  simp [eventDefects, nameDefect?_eq_none_iff]

theorem nameDefects_eq_nil_iff :
    m.nameDefects = [] ↔ Bindable m.name ∧
      (∀ name ∈ m.states.map (·.name), Bindable name ∧ name ∉ generatedNames) ∧
      ∀ name ∈ m.events.map (·.name),
        Bindable name ∧ name ∉ generatedNames ∧ name ∉ m.states.map (·.name) := by
  simp only [nameDefects, List.append_eq_nil_iff, found_eq_nil_iff, Option.toList_eq_nil_iff,
    nameDefect?_eq_none_iff, List.flatMap_eq_nil_iff, stateDefects_eq_nil_iff,
    eventDefects_eq_nil_iff, List.forall_mem_map, and_assoc]

/-- A valid machine has a usable name. -/
theorem Valid.bindable (hvalid : m.Valid) : Bindable m.name :=
  (nameDefects_eq_nil_iff.1 hvalid.names).1

/-- Where names have no defect, labels have usable names. -/
theorem label_of_nameDefects {name : String} (hnames : m.nameDefects = [])
    (hname : name ∈ m.labelNames) : Bindable name ∧ name ∉ generatedNames := by
  obtain ⟨-, hstates, hevents⟩ := nameDefects_eq_nil_iff.1 hnames
  rcases List.mem_append.1 hname with hname | hname
  · exact hstates name hname
  · exact ⟨(hevents name hname).1, (hevents name hname).2.1⟩

/-- Where names have no defect, each label has a name of its own. -/
theorem nodup_labelNames_of_nameDefects (hnames : m.nameDefects = []) : m.labelNames.Nodup := by
  refine List.nodup_append.2
    ⟨nodup_map_distinctBy _ _, nodup_map_distinctBy _ _, ?_⟩
  rintro name hstate _ hevent rfl
  exact ((nameDefects_eq_nil_iff.1 hnames).2.2 name hevent).2.2 hstate

/-- The labels of valid machines have usable names. -/
theorem Valid.label {name : String} (hvalid : m.Valid) (hname : name ∈ m.labelNames) :
    Bindable name ∧ name ∉ generatedNames :=
  label_of_nameDefects hvalid.names hname

/-- No name is that of a state and of an event. -/
theorem Valid.event_not_state {name : String} (hvalid : m.Valid)
    (hevent : name ∈ m.events.map (·.name)) : name ∉ m.states.map (·.name) :=
  ((nameDefects_eq_nil_iff.1 hvalid.names).2.2 name hevent).2.2

/-- Each label has a name of its own. -/
theorem Valid.nodup_labelNames (hvalid : m.Valid) : m.labelNames.Nodup :=
  nodup_labelNames_of_nameDefects hvalid.names

/-! ## Resources -/

/-- A resource whose name and type can be used. -/
structure UsableResource (labels : List String) (r : Resource) : Prop where
  bindable : Bindable r.name
  not_label : r.name ∉ labels
  not_dispatch : r.name ∉ dispatchNames
  not_generated : r.name ∉ generatedNames
  expression : Target.isExpression r.type = true
  readable : r.type.contains nul = false

theorem resourceNameDefects_eq_nil_iff {labels earlier : List String} {name : String} :
    resourceNameDefects labels earlier name = [] ↔
      (Bindable name ∧ name ∉ earlier) ∧ name ∉ labels ∧
        name ∉ dispatchNames ∧ name ∉ generatedNames := by
  rw [resourceNameDefects, List.append_eq_nil_iff, List.append_eq_nil_iff,
    Option.toList_eq_nil_iff, nameDefect?_eq_none_iff, defectIf_eq_nil_iff]
  by_cases hlabel : name ∈ labels <;> simp [hlabel]

/-- No defect is found in resources exactly if each can be used, and none has the name of
another. -/
theorem resourceDefectsFrom_eq_ok_nil_iff {labels earlier : List String}
    {resources : List Resource} :
    resourceDefectsFrom labels earlier resources = .ok [] ↔
      (∀ r ∈ resources, UsableResource labels r ∧ r.name ∉ earlier) ∧
        (resources.map (·.name)).Nodup := by
  induction resources generalizing earlier with
  | nil => simp [resourceDefectsFrom]
  | cons first rest ih =>
    have hfirst : (UsableResource labels first ∧ first.name ∉ earlier) ↔
        resourceNameDefects labels earlier first.name = [] ∧ isType? first.type = some true := by
      rw [resourceNameDefects_eq_nil_iff, isType?_eq_some_true_iff]
      constructor
      · rintro ⟨⟨hbindable, hlabel, hdispatch, hgenerated, htype, hnul⟩, hnew⟩
        exact ⟨⟨⟨hbindable, hnew⟩, hlabel, hdispatch, hgenerated⟩, hnul, htype⟩
      · rintro ⟨⟨⟨hbindable, hnew⟩, hlabel, hdispatch, hgenerated⟩, hnul, htype⟩
        exact ⟨⟨hbindable, hlabel, hdispatch, hgenerated, htype, hnul⟩, hnew⟩
    have hrest : resourceDefectsFrom labels (earlier ++ [first.name]) rest = .ok [] ↔
        ((∀ r ∈ rest, UsableResource labels r ∧ r.name ∉ earlier) ∧
          first.name ∉ rest.map (·.name)) ∧ (rest.map (·.name)).Nodup := by
      rw [ih]
      refine and_congr_left' ?_
      simp only [List.mem_append, List.mem_singleton, not_or, List.mem_map, not_exists, not_and]
      exact ⟨fun hall => ⟨fun r hr => ⟨(hall r hr).1, (hall r hr).2.1⟩,
          fun r hr => (hall r hr).2.2⟩,
        fun hall r hr => ⟨(hall.1 r hr).1, (hall.1 r hr).2, hall.2 r hr⟩⟩
    have hhere : resourceDefectsFrom labels earlier (first :: rest) = .ok [] ↔
        (UsableResource labels first ∧ first.name ∉ earlier) ∧
          resourceDefectsFrom labels (earlier ++ [first.name]) rest = .ok [] := by
      rw [hfirst, resourceDefectsFrom]
      cases htype : isType? first.type with
      | none => simp
      | some isType =>
        cases isType <;> cases resourceDefectsFrom labels (earlier ++ [first.name]) rest <;>
          simp [Except.map]
    rw [hhere, hrest, List.forall_mem_cons, List.map_cons, List.nodup_cons]
    tauto

/-- Valid machines have usable resources. -/
theorem Valid.resource {r : Resource} (hvalid : m.Valid)
    (hr : r ∈ m.guardResources ++ m.actionResources) : UsableResource m.labelNames r :=
  ((resourceDefectsFrom_eq_ok_nil_iff.1 hvalid.resources).1 r hr).1

/-! ## Names of what is declared -/

theorem source_mem_states {t : Transition} (ht : t ∈ m.transitions) :
    t.source.name ∈ m.states.map (·.name) := by
  refine mem_map_distinctBy.2 (List.mem_map.2 ⟨t.source, ?_, rfl⟩)
  exact List.mem_append_left _ (List.mem_flatMap.2 ⟨t, ht, by simp⟩)

theorem target_mem_states {t : Transition} (ht : t ∈ m.transitions) :
    t.target.name ∈ m.states.map (·.name) := by
  refine mem_map_distinctBy.2 (List.mem_map.2 ⟨t.target, ?_, rfl⟩)
  exact List.mem_append_left _ (List.mem_flatMap.2 ⟨t, ht, by simp⟩)

theorem initial_mem_states {name : String} (hname : name ∈ m.initialNames) :
    name ∈ m.states.map (·.name) := by
  obtain ⟨s, hs, rfl⟩ := List.mem_map.1 hname
  exact mem_map_distinctBy.2 (List.mem_map.2 ⟨s, List.mem_append_right _ hs, rfl⟩)

theorem event_mem_events {t : Transition} (ht : t ∈ m.transitions) :
    t.event.name ∈ m.events.map (·.name) :=
  mem_map_distinctBy.2 (List.mem_map.2 ⟨t.event, List.mem_map.2 ⟨t, ht, rfl⟩, rfl⟩)

theorem state_mem_labelNames {name : String} (hname : name ∈ m.states.map (·.name)) :
    name ∈ m.labelNames :=
  List.mem_append_left _ hname

theorem event_mem_labelNames {t : Transition} (ht : t ∈ m.transitions) :
    t.event.name ∈ m.labelNames :=
  List.mem_append_right _ (event_mem_events ht)

/-- Each label stands in a rule, or is an initial state. -/
theorem label_cases {name : String} (hname : name ∈ m.labelNames) :
    (∃ t ∈ m.transitions, name ∈ [t.source.name, t.event.name, t.target.name]) ∨
      name ∈ m.initialNames := by
  rcases List.mem_append.1 hname with hname | hname
  · obtain ⟨d, hd, rfl⟩ := List.mem_map.1 (mem_map_distinctBy.1 hname)
    rcases List.mem_append.1 hd with hd | hd
    · obtain ⟨t, ht, hd⟩ := List.mem_flatMap.1 hd
      rcases List.mem_pair.1 hd with rfl | rfl
      · exact .inl ⟨t, ht, by simp⟩
      · exact .inl ⟨t, ht, by simp⟩
    · exact .inr (List.mem_map.2 ⟨d, hd, rfl⟩)
  · obtain ⟨d, hd, rfl⟩ := List.mem_map.1 (mem_map_distinctBy.1 hname)
    obtain ⟨t, ht, rfl⟩ := List.mem_map.1 hd
    exact .inl ⟨t, ht, by simp⟩

/-! ## One target, one variant -/

theorem targetDefectsFrom_eq_nil_iff {targets : Table (String × String) String}
    {rules : List Transition} :
    targetDefectsFrom targets rules = [] ↔
      Table.Undisputed (fun t : Transition => (t.source.name, t.event.name)) (·.target.name)
        targets rules := by
  induction rules generalizing targets with
  | nil => exact iff_of_true rfl trivial
  | cons first rest ih =>
    simp only [targetDefectsFrom, List.append_eq_nil_iff, found_eq_nil_iff, defectIf_eq_nil_iff,
      bne_eq_false_iff_eq, ih]
    rfl

/-- No target is disputed exactly if a state and an event lead to one target. -/
theorem targetDefects_eq_nil_iff :
    m.targetDefects = [] ↔ ∀ t ∈ m.transitions, ∀ u ∈ m.transitions,
      (t.source.name, t.event.name) = (u.source.name, u.event.name) →
        t.target.name = u.target.name := by
  rw [targetDefects, targetDefectsFrom_eq_nil_iff, Table.undisputed_iff]
  exact and_iff_right fun _ _ _ hold => by cases hold

/-- A state and an event lead to one target. -/
theorem Valid.target_unique {t u : Transition} (hvalid : m.Valid) (ht : t ∈ m.transitions)
    (hu : u ∈ m.transitions) (hsource : t.source.name = u.source.name)
    (hevent : t.event.name = u.event.name) : t.target.name = u.target.name := by
  apply targetDefects_eq_nil_iff.1 hvalid.targets t ht u hu
  rw [hsource, hevent]

/-- The tag of the variant that a rule leads to. -/
def ruleTag (t : Transition) : String := Naming.transitionTag t.target.name t.event.name

theorem tagDefectsFrom_eq_nil_iff {owners : Table String (String × Option String)}
    {rules : List Transition} :
    tagDefectsFrom owners rules = [] ↔
      Table.Undisputed ruleTag (fun t => (t.target.name, some t.event.name)) owners rules := by
  induction rules generalizing owners with
  | nil => exact iff_of_true rfl trivial
  | cons first rest ih =>
    simp only [tagDefectsFrom, List.append_eq_nil_iff, found_eq_nil_iff, defectIf_eq_nil_iff,
      bne_eq_false_iff_eq, ih]
    rfl

theorem initialOwners_eq : m.initialOwners =
    Table.rememberAll (fun s : Declaration => Naming.initialTag s.name) (fun s => (s.name, none)) []
      m.initialStates := rfl

/-- No tag is disputed exactly if no two rules with one tag lead to two variants, and none has the
tag of an initial state. -/
theorem tagDefects_eq_nil_iff :
    m.tagDefects = [] ↔
      (∀ s ∈ m.initialStates, ∀ t ∈ m.transitions, Naming.initialTag s.name ≠ ruleTag t) ∧
        ∀ t ∈ m.transitions, ∀ u ∈ m.transitions, ruleTag t = ruleTag u →
          t.target.name = u.target.name ∧ t.event.name = u.event.name := by
  have howner : ∀ t : Transition, (∀ old, m.initialOwners.lookup (ruleTag t) = some old →
      old = (t.target.name, some t.event.name)) ↔
        ∀ s ∈ m.initialStates, Naming.initialTag s.name ≠ ruleTag t := by
    intro t
    rw [initialOwners_eq]
    constructor
    · intro hold s hs htag
      obtain ⟨owner, howner⟩ := Option.isSome_iff_exists.1
        (Table.isSome_lookup_rememberAll (fun s : Declaration => Naming.initialTag s.name)
          (fun s => ((s.name, none) : String × Option String)) hs)
      obtain ⟨other, -, -, rfl⟩ := Table.exists_of_lookup_rememberAll howner
      have hsame := hold _ (htag ▸ howner)
      simp at hsame
    · intro hnone old hold
      obtain ⟨s, hs, htag, -⟩ := Table.exists_of_lookup_rememberAll hold
      exact absurd htag (hnone s hs)
  rw [tagDefects, tagDefectsFrom_eq_nil_iff, Table.undisputed_iff]
  simp only [howner, Prod.mk.injEq, Option.some.injEq]
  exact and_congr_left' ⟨fun h s hs t ht => h t ht s hs, fun h t ht s hs => h s hs t ht⟩

/-- Rules with one tag lead to one variant. -/
theorem Valid.ruleTag_injective {t u : Transition} (hvalid : m.Valid) (ht : t ∈ m.transitions)
    (hu : u ∈ m.transitions) (htag : ruleTag t = ruleTag u) :
    t.target.name = u.target.name ∧ t.event.name = u.event.name :=
  (tagDefects_eq_nil_iff.1 hvalid.tags).2 t ht u hu htag

/-- No rule has the tag of an initial state. -/
theorem Valid.initialTag_ne_ruleTag {t : Transition} {name : String} (hvalid : m.Valid)
    (hname : name ∈ m.initialNames) (ht : t ∈ m.transitions) :
    Naming.initialTag name ≠ ruleTag t := by
  obtain ⟨s, hs, rfl⟩ := List.mem_map.1 hname
  exact (tagDefects_eq_nil_iff.1 hvalid.tags).1 s hs t ht

/-! ## Variants -/

/-- A variant is that of an initial state or that of a rule. -/
theorem variant_cases {v : Variant} (hv : v ∈ m.variants) :
    (∃ s ∈ m.initialStates, v = .initial s) ∨ ∃ t ∈ m.transitions, v = .entered t := by
  rcases List.mem_append.1 (mem_of_mem_distinctBy hv) with hv | hv
  · obtain ⟨s, hs, rfl⟩ := List.mem_map.1 hv
    exact .inl ⟨s, hs, rfl⟩
  · obtain ⟨t, ht, rfl⟩ := List.mem_map.1 hv
    exact .inr ⟨t, ht, rfl⟩

/-- The text of the tag of a state and the event that led there, if there is one. -/
def tagText (state : String) : Option String → String
  | none => Naming.initialTag state
  | some event => Naming.transitionTag state event

/-- The tag of a variant is made of its state and its event. -/
theorem variant_tag {v : Variant} (hv : v ∈ m.variants) :
    v.tag = tagText v.state.name v.eventName? := by
  rcases variant_cases hv with ⟨s, -, rfl⟩ | ⟨t, -, rfl⟩ <;> rfl

theorem variant_state_mem_states {v : Variant} (hv : v ∈ m.variants) :
    v.state.name ∈ m.states.map (·.name) := by
  rcases variant_cases hv with ⟨s, hs, rfl⟩ | ⟨t, ht, rfl⟩
  · exact initial_mem_states (List.mem_map.2 ⟨s, hs, rfl⟩)
  · exact target_mem_states ht

theorem variant_event_mem_labelNames {v : Variant} {event : String} (hv : v ∈ m.variants)
    (hevent : v.eventName? = some event) : event ∈ m.labelNames := by
  rcases variant_cases hv with ⟨s, hs, rfl⟩ | ⟨t, ht, rfl⟩
  · cases hevent
  · cases hevent
    exact event_mem_labelNames ht

/-- A variant is determined by its state and its event. -/
theorem variant_ext {v w : Variant} (hv : v ∈ m.variants) (hw : w ∈ m.variants)
    (hstate : v.state.name = w.state.name) (hevent : v.eventName? = w.eventName?) : v = w := by
  refine eq_of_mem_distinctBy hv hw ?_
  rw [variant_tag hv, variant_tag hw, hstate, hevent]

theorem initialTag_injective {a b : String} (htag : Naming.initialTag a = Naming.initialTag b) :
    a = b := by
  simpa [Naming.initialTag] using htag

/-- Every initial state has its variant. -/
theorem Valid.exists_initial_variant {name : String} (hvalid : m.Valid)
    (hname : name ∈ m.initialNames) :
    ∃ v ∈ m.variants, v.state.name = name ∧ v.eventName? = none := by
  obtain ⟨s, hs, rfl⟩ := List.mem_map.1 hname
  have hmem : Variant.initial s ∈ m.initialStates.map .initial ++ m.transitions.map .entered :=
    List.mem_append_left _ (List.mem_map.2 ⟨s, hs, rfl⟩)
  obtain ⟨v, hv, htag⟩ := exists_mem_distinctBy Variant.tag hmem
  rcases variant_cases hv with ⟨u, -, rfl⟩ | ⟨t, ht, rfl⟩
  · exact ⟨_, hv, initialTag_injective htag, rfl⟩
  · exact absurd htag.symm (hvalid.initialTag_ne_ruleTag hname ht)

/-- Every rule leads to its variant. -/
theorem Valid.exists_entered_variant {t : Transition} (hvalid : m.Valid)
    (ht : t ∈ m.transitions) :
    ∃ v ∈ m.variants, v.state.name = t.target.name ∧ v.eventName? = some t.event.name := by
  have hmem : Variant.entered t ∈ m.initialStates.map .initial ++ m.transitions.map .entered :=
    List.mem_append_right _ (List.mem_map.2 ⟨t, ht, rfl⟩)
  obtain ⟨v, hv, htag⟩ := exists_mem_distinctBy Variant.tag hmem
  rcases variant_cases hv with ⟨s, hs, rfl⟩ | ⟨u, hu, rfl⟩
  · exact absurd htag (hvalid.initialTag_ne_ruleTag (List.mem_map.2 ⟨s, hs, rfl⟩) ht)
  · obtain ⟨htarget, hevent⟩ := hvalid.ruleTag_injective hu ht htag
    exact ⟨_, hv, htarget, congrArg some hevent⟩

/-- Variants with one tag have one state and one event. -/
theorem variant_ext_of_tag {v w : Variant} (hv : v ∈ m.variants) (hw : w ∈ m.variants)
    (htag : v.tag = w.tag) : v = w :=
  eq_of_mem_distinctBy hv hw htag

end Machine

end FsmCompiler
