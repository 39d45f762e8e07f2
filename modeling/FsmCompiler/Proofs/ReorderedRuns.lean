/-
# Machines that do the same in another order

Modules that are made from one set of declarations in two orders have classes of their own,
and a class of the one module has its twin in the other. What is done with twins ends alike:
machines start, follow events and carry tags as their twins do, and they fail where their
twins fail. An order shows where guards are asked in turn; as long as no two events of a state
are enabled at once, dispatching comes to twins all the same, provided that the search reads
what was declared: in front of the enabled event it may meet names that mean something else.
-/

import FsmCompiler.Proofs.Reordering

namespace FsmCompiler.Running

open Machine (Reordered)
open Text (compatible)

/-! ## Modules of declarations -/

/-- The module of a machine whose names stay apart. -/
structure Declares (m : FsmCompiler.Machine) (module : LoadedModule) : Prop where
  apart : NamesApart m
  loaded : ∃ load source, LoadedModule.ofMachine (load + 1) m source = .ok module

namespace Declares

variable {m : FsmCompiler.Machine} {module : LoadedModule}

theorem valid (hdeclares : Declares m module) : m.Valid := by
  obtain ⟨load, source, hload⟩ := hdeclares.loaded
  exact (loadedFrom_of_ofMachine hload).valid

theorem globals (hdeclares : Declares m module) : module.globals = globalsOf m module.load := by
  obtain ⟨load, source, hload⟩ := hdeclares.loaded
  exact (loadedFrom_of_ofMachine hload).globals

theorem load (hdeclares : Declares m module) : ∃ load, module.load = load + 1 := by
  obtain ⟨load, source, hload⟩ := hdeclares.loaded
  exact ⟨load, (loadedFrom_of_ofMachine hload).load⟩

theorem kind (hdeclares : Declares m module) : module.kind = declaredKind m module.load := by
  obtain ⟨load, source, hload⟩ := hdeclares.loaded
  exact kind_of_ofMachine hdeclares.apart hload

theorem classOf_ne_noEvent (hdeclares : Declares m module) (name : String) :
    m.classOf module.load name ≠ .noEvent := by
  obtain ⟨load, hload⟩ := hdeclares.load
  rw [hload]
  exact Machine.classOf_ne_noEvent name

/-- The class that a name means in the module is found under its identifier. -/
theorem find?_eq_some_iff (hdeclares : Declares m module) {name : String} {c : LabelClass} :
    module.globals.find? name = some c ↔
      ∃ label ∈ m.labelNames, compatible label = compatible name ∧
        c = m.classOf module.load label := by
  rw [Globals.find?, hdeclares.globals]
  constructor
  · exact exists_of_lookup_globalsOf hdeclares.valid
  · rintro ⟨label, hlabel, hsame, rfl⟩
    rw [← hsame]
    exact (distinctLabels_iff hdeclares.valid).1 hdeclares.apart.distinct label hlabel

end Declares

/-! ## Twins -/

/-- Two machines with a module each. -/
structure TwinModules where
  machine : FsmCompiler.Machine
  machine' : FsmCompiler.Machine
  module : LoadedModule
  module' : LoadedModule

namespace TwinModules

variable (p : TwinModules)

/-- The classes of one label in the two modules, as each module is given its own or that of
the other. All other classes are the same for both. -/
inductive LabelTwin : LabelClass → LabelClass → Prop
  | own (name : String) : LabelTwin (p.machine.classOf p.module.load name)
      (p.machine'.classOf p.module'.load name)
  | crossed (name : String) (hload : p.module.load ≠ p.module'.load) :
      LabelTwin (p.machine'.classOf p.module'.load name) (p.machine.classOf p.module.load name)
  | other {c} (hfirst : c.id.load ≠ p.module.load) (hsecond : c.id.load ≠ p.module'.load) :
      LabelTwin c c

/-- Values that differ in the identity of a class at most. -/
inductive ValueTwin : Value → Value → Prop
  | label {c c'} (hclass : p.LabelTwin c c') : ValueTwin (.label c) (.label c')
  | labelClass {c c'} (hclass : p.LabelTwin c c') : ValueTwin (.labelClass c) (.labelClass c')
  | plain (d : Datum) : ValueTwin (.plain d) (.plain d)

/-- Keys of twin classes. -/
inductive KeyTwin : Meaning × Meaning → Meaning × Meaning → Prop
  | mk {c c' d d'} (hstate : p.LabelTwin c c') (hevent : p.LabelTwin d d') :
      KeyTwin (.label c, .label d) (.label c', .label d')

/-- Targets that are twin classes. -/
inductive TargetTwin : Meaning → Meaning → Prop
  | mk {c c'} (htarget : p.LabelTwin c c') : TargetTwin (.label c) (.label c')

/-- Machines of the two modules in twin states, entered by twin events, on which the same
was set. -/
structure MachineTwin (r r' : RunningMachine) : Prop where
  kind : r.kind = p.module.kind
  kind' : r'.kind = p.module'.kind
  state : p.ValueTwin r.state r'.state
  event : p.ValueTwin r.event r'.event
  slots : r'.slots = r.slots

/-- The tags of the two modules for one text. -/
def TagTwin (tag tag' : TagMember) : Prop :=
  ∃ text, tag = tagOf p.module.load p.module.globals text ∧
    tag' = tagOf p.module'.load p.module'.globals text

/-- Twin machines under twin tags. -/
inductive VariantTwin : RunningVariant → RunningVariant → Prop
  | mk {tag tag' r r'} (htag : p.TagTwin tag tag') (hmachine : p.MachineTwin r r') :
      VariantTwin ⟨.member tag, r⟩ ⟨.member tag', r'⟩

/-- Failures that differ in the identity of classes at most. -/
inductive ErrorTwin : RunError → RunError → Prop
  | same (e : RunError) : ErrorTwin e e
  | unsupportedTransition {machine state state' event event'} (hstate : p.ValueTwin state state')
      (hevent : p.ValueTwin event event') :
      ErrorTwin (.unsupportedTransition machine state event)
        (.unsupportedTransition machine state' event')
  | notInitial {machine state state'} (hstate : p.ValueTwin state state') :
      ErrorTwin (.notInitial machine state) (.notInitial machine state')

/-- Both succeed with related results, or both fail with twin failures. -/
inductive Alike (related : α → β → Prop) : Except RunError α → Except RunError β → Prop
  | ok {a b} (hresult : related a b) : Alike related (.ok a) (.ok b)
  | error {e e'} (herror : p.ErrorTwin e e') : Alike related (.error e) (.error e')

/-- At most one of the events of the rules that leave the state is enabled. -/
def OneEnabled (m : FsmCompiler.Machine) (enabled : String → Bool) (state : String) : Prop :=
  ∀ t ∈ m.transitionsFrom state, ∀ u ∈ m.transitionsFrom state,
    enabled t.event.name = true → enabled u.event.name = true → t.event.name = u.event.name

/-- The machines of the two modules do the same, up to the identity of classes. -/
structure BehaveAlike : Prop where
  /-- They start alike. -/
  new : ∀ v v', p.ValueTwin v v' → p.Alike p.MachineTwin (RunningMachine.new p.module.kind v)
    (RunningMachine.new p.module'.kind v')
  /-- They follow events alike. -/
  follow : ∀ r r', p.MachineTwin r r' → ∀ v v', p.ValueTwin v v' →
    p.Alike p.MachineTwin (r.follow v) (r'.follow v')
  /-- They can follow the same events. -/
  canFollow : ∀ r r', p.MachineTwin r r' → ∀ v v', p.ValueTwin v v' →
    r'.canFollow v' = r.canFollow v
  /-- They carry twin tags. -/
  asVariant : ∀ r r', p.MachineTwin r r' → p.Alike p.VariantTwin r.asVariant r'.asVariant
  /-- Each machine that one module comes to has a twin that the other comes to. -/
  reached : ∀ r, Reached p.module.kind r → ∃ r', Reached p.module'.kind r' ∧ p.MachineTwin r r'
  reached' : ∀ r', Reached p.module'.kind r' → ∃ r, Reached p.module.kind r ∧ p.MachineTwin r r'
  /-- What they fail with says the same, and they are shown in the same way. -/
  message : ∀ e e', p.ErrorTwin e e' → e'.message = e.message
  shown : ∀ v v', p.VariantTwin v v' → v'.shown = v.shown
  /-- Where the names that the search reads mean themselves, the dispatch functions come to twins
  from the variants of machines that are reached, under fixed answers of the guards of which at
  most one of the state is yes, whatever the actions do. -/
  dispatch : SearchApart p.machine p.module → ∀ state r r', Reached p.module.kind r →
    InState p.machine p.module state r → p.MachineTwin r r' →
    ∀ v v', r.asVariant = .ok v → r'.asVariant = .ok v' →
    ∀ enabled acted hooks hooks', FixedHooks p.machine p.module.load hooks enabled acted →
    FixedHooks p.machine' p.module'.load hooks' enabled acted →
    OneEnabled p.machine enabled state → ∀ args,
    p.Alike p.VariantTwin (dispatch p.module hooks v args).result
      (dispatch p.module' hooks' v' args).result

variable {p}

/-! ## Twins are alike -/

/-- The modules hold the same declarations, in whichever order. -/
structure Matching (p : TwinModules) : Prop where
  reordered : p.machine.Reordered p.machine'
  declares : Declares p.machine p.module
  declares' : Declares p.machine' p.module'

/-- The machines and their modules, the other way round. -/
def swap (p : TwinModules) : TwinModules := ⟨p.machine', p.machine, p.module', p.module⟩

theorem Matching.swap (hp : p.Matching) : p.swap.Matching :=
  ⟨hp.reordered.symm, hp.declares', hp.declares⟩

variable {α β γ δ : Type} {c c' : LabelClass} {v v' : Value} {r r' : RunningMachine}
  {key key' : Meaning × Meaning}

theorem rel_of_forth {related : α → β → Prop} {x : Option α} {x' : Option β}
    (hforth : ∀ a, x = some a → ∃ b, x' = some b ∧ related a b)
    (hback : ∀ b, x' = some b → ∃ a, x = some a) : Option.Rel related x x' := by
  cases x with
  | some a =>
    obtain ⟨b, rfl, hrelated⟩ := hforth a rfl
    exact .some hrelated
  | none =>
    cases x' with
    | none => exact .none
    | some b =>
      obtain ⟨a, ha⟩ := hback b rfl
      cases ha

theorem rel_isSome {related : α → β → Prop} {x : Option α} {x' : Option β}
    (hx : Option.Rel related x x') : x'.isSome = x.isSome := by
  cases hx <;> rfl

theorem rel_bind {related : α → β → Prop} {related' : γ → δ → Prop} {x : Option α} {x' : Option β}
    {f : α → Option γ} {f' : β → Option δ} (hx : Option.Rel related x x')
    (hf : ∀ a b, related a b → Option.Rel related' (f a) (f' b)) :
    Option.Rel related' (x.bind f) (x'.bind f') := by
  cases hx with
  | some hresult => exact hf _ _ hresult
  | none => exact .none

/-- Classes of one name differ in nothing but their identity. -/
theorem Matching.classOf_eq (hp : p.Matching) (name : String) :
    p.machine'.classOf p.module'.load name =
      { p.machine.classOf p.module.load name with
        id := ⟨p.module'.load, p.machine'.labelNames.idxOf name⟩ } := by
  have hbase : p.machine'.baseOf name = p.machine.baseOf name := by
    have hinitial : p.machine'.isInitial name = p.machine.isInitial name := by
      simp [Machine.isInitial, hp.reordered.mem_initialNames]
    simp only [Machine.baseOf, hp.reordered.mem_states, hinitial]
  have hmodule : p.machine'.moduleName = p.machine.moduleName := by
    simp only [Machine.moduleName, hp.reordered.name]
  simp only [Machine.classOf, hbase, hmodule, hp.reordered.name]

theorem LabelTwin.swap (hclass : p.LabelTwin c c') : p.swap.LabelTwin c' c := by
  cases hclass with
  | own name => exact .own name
  | crossed name hload => exact .crossed name hload.symm
  | other hfirst hsecond => exact .other hsecond hfirst

theorem LabelTwin.eq_with_id (hp : p.Matching) (hclass : p.LabelTwin c c') :
    ∃ id, c' = { c with id := id } := by
  cases hclass with
  | own name => exact ⟨_, hp.classOf_eq name⟩
  | crossed name hload => exact ⟨_, hp.swap.classOf_eq name⟩
  | other hfirst hsecond => exact ⟨_, rfl⟩

/-- A class of the one machine has the class of the same label as its twin. -/
theorem LabelTwin.own_iff (hclass : p.LabelTwin c c') {name : String} :
    c = p.machine.classOf p.module.load name ↔ c' = p.machine'.classOf p.module'.load name := by
  cases hclass with
  | own label => simp
  | crossed label hload =>
    refine iff_of_false (fun h => ?_) fun h => ?_
    · exact hload (congrArg (·.id.load) h).symm
    · exact hload (congrArg (·.id.load) h)
  | other hfirst hsecond =>
    refine iff_of_false (fun h => ?_) fun h => ?_
    · exact hfirst (congrArg (·.id.load) h)
    · exact hsecond (congrArg (·.id.load) h)

theorem LabelTwin.noEvent_iff (hp : p.Matching) (hclass : p.LabelTwin c c') :
    c = .noEvent ↔ c' = .noEvent := by
  cases hclass with
  | own label =>
    exact iff_of_false (hp.declares.classOf_ne_noEvent label)
      (hp.declares'.classOf_ne_noEvent label)
  | crossed label hload =>
    exact iff_of_false (hp.declares'.classOf_ne_noEvent label)
      (hp.declares.classOf_ne_noEvent label)
  | other hfirst hsecond => exact Iff.rfl

/-- The class of the event that led to a machine, if one did, has the same as its twin. -/
theorem LabelTwin.held_iff (hp : p.Matching) (hclass : p.LabelTwin c c') (event : Option String) :
    c = (event.map (p.machine.classOf p.module.load)).getD .noEvent ↔
      c' = (event.map (p.machine'.classOf p.module'.load)).getD .noEvent := by
  cases event with
  | none => exact hclass.noEvent_iff hp
  | some event => exact hclass.own_iff

theorem Matching.noEvent (hp : p.Matching) : p.LabelTwin .noEvent .noEvent := by
  obtain ⟨load, hload⟩ := hp.declares.load
  obtain ⟨load', hload'⟩ := hp.declares'.load
  refine .other ?_ ?_
  · rw [hload]
    exact (Nat.succ_ne_zero load).symm
  · rw [hload']
    exact (Nat.succ_ne_zero load').symm

theorem ValueTwin.coerce (hvalue : p.ValueTwin v v') : p.ValueTwin v.coerce v'.coerce := by
  cases hvalue with
  | label hclass => exact .label hclass
  | labelClass hclass => exact .label hclass
  | plain d => exact .plain d

theorem ValueTwin.swap (hvalue : p.ValueTwin v v') : p.swap.ValueTwin v' v := by
  cases hvalue with
  | label hclass => exact .label hclass.swap
  | labelClass hclass => exact .labelClass hclass.swap
  | plain d => exact .plain d

theorem MachineTwin.swap (hmachine : p.MachineTwin r r') : p.swap.MachineTwin r' r :=
  ⟨hmachine.kind', hmachine.kind, hmachine.state.swap, hmachine.event.swap, hmachine.slots.symm⟩

theorem ValueTwin.shown (hp : p.Matching) (hvalue : p.ValueTwin v v') : v'.shown = v.shown := by
  cases hvalue with
  | label hclass =>
    obtain ⟨id, rfl⟩ := hclass.eq_with_id hp
    rfl
  | labelClass hclass =>
    obtain ⟨id, rfl⟩ := hclass.eq_with_id hp
    rfl
  | plain d => rfl

theorem ErrorTwin.message (hp : p.Matching) {e e' : RunError} (herror : p.ErrorTwin e e') :
    e'.message = e.message := by
  cases herror with
  | same e => rfl
  | @unsupportedTransition machine _ _ _ _ hstate hevent =>
    exact congrArg₂ (fun state event => s!"{machine}: no transition from {state} on {event}")
      (hstate.shown hp) (hevent.shown hp)
  | @notInitial machine _ _ hstate =>
    exact congrArg (fun state => s!"{machine}: {state} is not an initial state") (hstate.shown hp)

theorem MachineTwin.shown (hp : p.Matching) (hmachine : p.MachineTwin r r') :
    r'.shown = r.shown := by
  unfold RunningMachine.shown
  rw [hmachine.state.shown hp, hmachine.event.shown hp]

theorem MachineTwin.name (hp : p.Matching) (hmachine : p.MachineTwin r r') : r'.name = r.name := by
  have hkind : r'.kind.name = r.kind.name := by
    rw [hmachine.kind, hmachine.kind', hp.declares.kind, hp.declares'.kind]
    exact hp.reordered.name
  simp only [RunningMachine.name, hmachine.slots, hkind]

theorem Matching.exists_find? (hp : p.Matching) {name : String}
    (hfind : p.module.globals.find? name = some c) :
    ∃ c', p.module'.globals.find? name = some c' ∧ p.LabelTwin c c' := by
  obtain ⟨label, hlabel, hsame, rfl⟩ := hp.declares.find?_eq_some_iff.1 hfind
  exact ⟨_, hp.declares'.find?_eq_some_iff.2
    ⟨label, hp.reordered.mem_labelNames.1 hlabel, hsame, rfl⟩, .own label⟩

/-- A name means twins in the two modules, or nothing in both. -/
theorem Matching.find? (hp : p.Matching) (name : String) :
    Option.Rel p.LabelTwin (p.module.globals.find? name) (p.module'.globals.find? name) := by
  refine rel_of_forth (fun _ => hp.exists_find?) fun c' hfind => ?_
  obtain ⟨c, hfind, -⟩ := hp.swap.exists_find? hfind
  exact ⟨c, hfind⟩

theorem TagTwin.shown (hp : p.Matching) {tag tag' : TagMember} (htag : p.TagTwin tag tag') :
    (Tag.member tag').shown = (Tag.member tag).shown := by
  obtain ⟨text, rfl, rfl⟩ := htag
  have hbase := hp.find? textTypeName
  simp only [Tag.shown, tagOf]
  generalize p.module.globals.find? textTypeName = base at hbase ⊢
  generalize p.module'.globals.find? textTypeName = base' at hbase ⊢
  cases hbase with
  | none => rfl
  | some hclass =>
    obtain ⟨id, rfl⟩ := hclass.eq_with_id hp
    rfl

theorem VariantTwin.shown (hp : p.Matching) {v v' : RunningVariant}
    (hvariant : p.VariantTwin v v') : v'.shown = v.shown := by
  cases hvariant with
  | mk htag hmachine =>
    unfold RunningVariant.shown
    rw [htag.shown hp, hmachine.shown hp]

/-! ## Tables -/

theorem ValueTwin.key? {state state' event event' : Value} (hstate : p.ValueTwin state state')
    (hevent : p.ValueTwin event event') :
    Option.Rel p.KeyTwin (RunningMachine.key? state event)
      (RunningMachine.key? state' event') := by
  cases hstate with
  | label hstate =>
    cases hevent with
    | label hevent => exact .some (.mk hstate hevent)
    | labelClass | plain => exact .none
  | labelClass | plain => exact .none

theorem KeyTwin.swap (hkey : p.KeyTwin key key') : p.swap.KeyTwin key' key := by
  obtain ⟨hstate, hevent⟩ := hkey
  exact .mk hstate.swap hevent.swap

theorem Matching.exists_target (hp : p.Matching) (hkey : p.KeyTwin key key') {target : Meaning}
    (hlookup : p.module.kind.transitions.lookup key = some target) :
    ∃ target', p.module'.kind.transitions.lookup key' = some target' ∧
      p.TargetTwin target target' := by
  obtain ⟨hstate, hevent⟩ := hkey
  rw [hp.declares.kind] at hlookup
  obtain ⟨t, ht, hentry⟩ := exists_rule_of_lookup hlookup
  simp only [ruleEntry, Prod.mk.injEq, Meaning.label.injEq] at hentry
  obtain ⟨⟨hsource, hby⟩, rfl⟩ := hentry
  rw [hp.declares'.kind, hstate.own_iff.1 hsource, hevent.own_iff.1 hby]
  exact ⟨_, lookup_transitions hp.declares'.valid (hp.reordered.mem_transitions.1 ht),
    .mk (.own _)⟩

/-- Twin keys lead to twin targets, or to none. -/
theorem Matching.rel_transitions (hp : p.Matching) (hkey : p.KeyTwin key key') :
    Option.Rel p.TargetTwin (p.module.kind.transitions.lookup key)
      (p.module'.kind.transitions.lookup key') := by
  refine rel_of_forth (fun _ => hp.exists_target hkey) fun target' hlookup => ?_
  obtain ⟨target, hlookup, -⟩ := hp.swap.exists_target hkey.swap hlookup
  exact ⟨target, hlookup⟩

theorem Matching.exists_tag (hp : p.Matching) (hkey : p.KeyTwin key key') {tag : TagMember}
    (hlookup : p.module.kind.variantTags.lookup key = some tag) :
    ∃ tag', p.module'.kind.variantTags.lookup key' = some tag' ∧ p.TagTwin tag tag' := by
  obtain ⟨hstate, hevent⟩ := hkey
  rw [hp.declares.kind] at hlookup
  obtain ⟨w, hw, hentry⟩ := exists_variant_of_lookup hlookup
  simp only [variantEntry, variantKey, Prod.mk.injEq, Meaning.label.injEq] at hentry
  obtain ⟨⟨hin, hby⟩, rfl⟩ := hentry
  obtain ⟨w', hw', htag, hsame, hevents⟩ :=
    hp.reordered.tagged hp.declares.valid ⟨w, hw, rfl, rfl, rfl⟩
  obtain ⟨load, hload⟩ := hp.declares'.load
  have hfound := lookup_variantTags load hw'
  rw [← hload] at hfound
  rw [hp.declares'.kind, hstate.own_iff.1 hin, (hevent.held_iff hp _).1 hby, ← hsame, ← hevents]
  exact ⟨_, hfound, w.tag, by rw [hp.declares.globals], by rw [hp.declares'.globals, htag]⟩

/-- Twin keys lead to twin tags, or to none. -/
theorem Matching.rel_variantTags (hp : p.Matching) (hkey : p.KeyTwin key key') :
    Option.Rel p.TagTwin (p.module.kind.variantTags.lookup key)
      (p.module'.kind.variantTags.lookup key') := by
  refine rel_of_forth (fun _ => hp.exists_tag hkey) fun tag' hlookup => ?_
  obtain ⟨tag, hlookup, -⟩ := hp.swap.exists_tag hkey.swap hlookup
  exact ⟨tag, hlookup⟩

/-! ## Operations -/

theorem Alike.bind {related : α → β → Prop} {related' : γ → δ → Prop} {x : Except RunError α}
    {x' : Except RunError β} {f : α → Except RunError γ} {f' : β → Except RunError δ}
    (hx : p.Alike related x x') (hf : ∀ a b, related a b → p.Alike related' (f a) (f' b)) :
    p.Alike related' (x >>= f) (x' >>= f') := by
  cases hx with
  | ok hresult => exact hf _ _ hresult
  | error herror => exact .error herror

/-- A slot in the place of an operation hides it on both. -/
theorem MachineTwin.operation {related : α → β → Prop} {x : Except RunError α}
    {x' : Except RunError β} (hmachine : p.MachineTwin r r') (name : String)
    (hx : p.Alike related x x') : p.Alike related (r.operation name x) (r'.operation name x') := by
  unfold RunningMachine.operation
  rw [hmachine.slots]
  cases r.slots.lookup name with
  | some value => exact .error (.same _)
  | none => exact hx

/-- A slot in the place of a table hides it on both. -/
theorem MachineTwin.entry? {related : α → β → Prop} {table : Table (Meaning × Meaning) α}
    {table' : Table (Meaning × Meaning) β} (hmachine : p.MachineTwin r r') (slot : String)
    (hevent : p.ValueTwin v v') (htable : ∀ key key', p.KeyTwin key key' →
      Option.Rel related (table.lookup key) (table'.lookup key')) :
    p.Alike (Option.Rel related) (r.entry? slot table v) (r'.entry? slot table' v') := by
  unfold RunningMachine.entry?
  rw [hmachine.slots]
  cases r.slots.lookup slot with
  | some value =>
    change p.Alike _ ((lookUpSlot value).map _) ((lookUpSlot value).map _)
    cases lookUpSlot value with
    | error e => exact .error (.same e)
    | ok => exact .ok .none
  | none => exact .ok (rel_bind (hmachine.state.key? hevent) htable)

theorem Matching.follow (hp : p.Matching) (hmachine : p.MachineTwin r r')
    (hevent : p.ValueTwin v v') : p.Alike p.MachineTwin (r.follow v) (r'.follow v') := by
  unfold RunningMachine.follow
  rw [hmachine.kind, hmachine.kind', hmachine.name hp]
  refine hmachine.operation _ ((hmachine.entry? _ hevent.coerce fun _ _ =>
    hp.rel_transitions).bind fun target target' htarget => ?_)
  cases htarget with
  | some htarget =>
    cases htarget with
    | mk htarget => exact .ok ⟨rfl, rfl, .label htarget, hevent.coerce, rfl⟩
  | none => exact .error (.unsupportedTransition hmachine.state hevent.coerce)

theorem Matching.canFollow (hp : p.Matching) (hmachine : p.MachineTwin r r')
    (hevent : p.ValueTwin v v') : r'.canFollow v' = r.canFollow v := by
  have hfound := rel_bind (hmachine.state.key? hevent.coerce) fun _ _ => hp.rel_transitions
  unfold RunningMachine.canFollow RunningMachine.operation
  rw [hmachine.slots, hmachine.kind, hmachine.kind', rel_isSome hfound]

theorem Matching.asVariant (hp : p.Matching) (hmachine : p.MachineTwin r r') :
    p.Alike p.VariantTwin r.asVariant r'.asVariant := by
  unfold RunningMachine.asVariant
  rw [hmachine.kind, hmachine.kind', hmachine.name hp, hmachine.state.shown hp,
    hmachine.event.shown hp]
  refine hmachine.operation _ ((hmachine.entry? _ hmachine.event fun _ _ =>
    hp.rel_variantTags).bind fun tag tag' htag => ?_)
  cases htag with
  | some htag => exact .ok (.mk htag hmachine)
  | none => exact .error (.same _)

theorem Matching.initialState (hp : p.Matching) (hclass : p.LabelTwin c c')
    (hinitial : .label c ∈ p.module.kind.initialStates) :
    .label c' ∈ p.module'.kind.initialStates := by
  rw [hp.declares.kind] at hinitial
  obtain ⟨s, hs, hlabel⟩ := List.mem_map.1 hinitial
  rw [hp.declares'.kind, hclass.own_iff.1 (Meaning.label.inj hlabel).symm]
  exact List.mem_map.2 ⟨s, hp.reordered.mem_initialNames.1 hs, rfl⟩

theorem Matching.new (hp : p.Matching) (hvalue : p.ValueTwin v v') :
    p.Alike p.MachineTwin (RunningMachine.new p.module.kind v)
      (RunningMachine.new p.module'.kind v') := by
  have hname : p.module'.kind.name = p.module.kind.name := by
    rw [hp.declares.kind, hp.declares'.kind]
    exact hp.reordered.name
  have hcoerced := hvalue.coerce
  unfold RunningMachine.new
  rw [hname]
  generalize v.coerce = state at hcoerced ⊢
  generalize v'.coerce = state' at hcoerced ⊢
  cases hcoerced with
  | @label c c' hclass =>
    have hbase : c'.base = c.base := by
      obtain ⟨id, rfl⟩ := hclass.eq_with_id hp
      rfl
    have hmem : .label c' ∈ p.module'.kind.initialStates ↔
        .label c ∈ p.module.kind.initialStates :=
      ⟨hp.swap.initialState hclass.swap, hp.initialState hclass⟩
    simp only [hbase, hmem]
    split
    · exact .ok ⟨rfl, rfl, .label hclass, .label hp.noEvent, rfl⟩
    · exact .error (.notInitial (.label hclass))
  | labelClass hclass => exact .error (.notInitial (.labelClass hclass))
  | plain d => exact .error (.same _)

/-! ## Runs -/

theorem Matching.exists_reached (hp : p.Matching) (hreached : Reached p.module.kind r) :
    ∃ r', Reached p.module'.kind r' ∧ p.MachineTwin r r' := by
  induction hreached with
  | new hnew =>
    obtain ⟨s, hs, rfl⟩ := new_cases hp.declares.kind hnew
    have hnew' := new_eq_ok hp.declares'.kind (hp.reordered.mem_initialNames.1 hs)
      (show StandsFor p.machine' p.module'.load (.label (p.machine'.classOf p.module'.load s)) s
        from rfl)
    exact ⟨_, .new hnew', rfl, rfl, .label (.own s), .label hp.noEvent, rfl⟩
  | @follow r event next hreached hfollow ih =>
    obtain ⟨r', hreached', hmachine⟩ := ih
    obtain ⟨s, hs, -⟩ := hreached.reaches hp.declares.valid hp.declares.kind
    -- Whatever value led on, the class of the rule's event leads there too, and it has a twin.
    obtain ⟨t, ht, rfl, rfl⟩ := follow_cases hp.declares.valid hp.declares.kind hs hfollow
    have hrule := follow_of_rule hp.declares.valid hp.declares.kind ht hs
      (show StandsFor p.machine p.module.load
        (.label (p.machine.classOf p.module.load t.event.name)) t.event.name from rfl)
    have halike := hp.follow hmachine (.label (.own t.event.name))
    rw [hrule] at halike
    generalize hfollow' : r'.follow _ = result at halike
    cases halike with
    | ok hnext => exact ⟨_, .follow hreached' hfollow', hnext⟩

theorem ValueTwin.label_iff (hvalue : p.ValueTwin v v') {name : String} :
    v = .label (p.machine.classOf p.module.load name) ↔
      v' = .label (p.machine'.classOf p.module'.load name) := by
  cases hvalue with
  | label hclass => simp only [Value.label.injEq, hclass.own_iff]
  | labelClass hclass => simp
  | plain d => simp

/-- The twin of a machine at a variant is at the variant with its state and event. -/
theorem Matching.atVariant (hp : p.Matching) {w : Variant}
    (hw : AtVariant p.machine p.module w r) (hmachine : p.MachineTwin r r') :
    ∃ w', AtVariant p.machine' p.module' w' r' ∧ w'.state.name = w.state.name := by
  obtain ⟨w', hw', -, hstate, hevent⟩ :=
    hp.reordered.tagged hp.declares.valid ⟨w, hw.declared, rfl, rfl, rfl⟩
  have hslots : r'.slots = [] := hmachine.slots.trans hw.state.slots
  refine ⟨w', ⟨hw', ⟨hmachine.kind', ?_, hslots⟩, ?_⟩, hstate⟩
  · rw [hstate]
    exact hmachine.state.label_iff.1 hw.state.state
  · obtain ⟨load, hload⟩ := hp.declares'.load
    have hheld : r'.event =
        .label ((w'.eventName?.map (p.machine'.classOf p.module'.load)).getD .noEvent) := by
      have htwin := hmachine.event
      rw [hw.entered.held] at htwin
      generalize r'.event = event at htwin
      cases htwin with
      | label hclass => rw [hevent, (hclass.held_iff hp _).1 rfl]
    rw [hload] at hheld ⊢
    exact enteredBy_of_held hslots hheld

/-! ## Dispatching -/

/-- If at most one item has a property, the order in which it is looked for makes no
difference. -/
theorem find?_eq_of_perm {items items' : List α} {holds : α → Bool} (hperm : items.Perm items')
    (hone : ∀ a ∈ items, ∀ b ∈ items, holds a = true → holds b = true → a = b) :
    items'.find? holds = items.find? holds := by
  cases hfind : items.find? holds with
  | none =>
    rw [List.find?_eq_none] at hfind ⊢
    exact fun a ha => hfind a (hperm.mem_iff.2 ha)
  | some a =>
    have ha := List.mem_of_find?_eq_some hfind
    cases hfind' : items'.find? holds with
    | none =>
      exact absurd (List.find?_some hfind)
        (List.find?_eq_none.1 hfind' a (hperm.mem_iff.1 ha))
    | some b =>
      have hb := hperm.mem_iff.2 (List.mem_of_find?_eq_some hfind')
      rw [hone a ha b hb (List.find?_some hfind) (List.find?_some hfind')]

/-- Hooks are given the same by the two dispatch functions. -/
theorem argsOf_starting (hp : p.Matching) {v v' : RunningVariant} (hvariant : p.VariantTwin v v')
    (hparams : p.module'.params = p.module.params) (hooks hooks' : Hooks) (args : List Datum)
    (resources : List Resource) :
    (Frame.starting p.module' hooks' v' args).argsOf resources =
      (Frame.starting p.module hooks v args).argsOf resources := by
  have hlocal : ∀ name, (Frame.starting p.module' hooks' v' args).localValue? name =
      (Frame.starting p.module hooks v args).localValue? name := by
    intro name
    cases hvariant with
    | mk htag hmachine =>
      obtain ⟨text, rfl, rfl⟩ := htag
      simp only [Frame.localValue?, Frame.starting, hmachine.shown hp]
      rfl
  simp only [Frame.argsOf, hlocal]
  simp only [Frame.starting, hparams]

theorem Matching.firing (hp : p.Matching) (hmachine : p.MachineTwin r r')
    (hclass : p.LabelTwin c c') (acted : Except RunError Unit) :
    p.Alike p.VariantTwin (firing r c acted) (firing r' c' acted) := by
  cases acted with
  | error e => exact .error (.same e)
  | ok => exact (hp.follow hmachine (.label hclass)).bind fun _ _ => hp.asVariant

/-- If at most one event that may happen is enabled, the twins search to the same one. -/
theorem Matching.find?_enabled (hp : p.Matching) {state : String} {enabled : String → Bool}
    (hone : OneEnabled p.machine enabled state) :
    ((p.machine'.transitionsFrom state).map (·.event.name)).find? enabled =
      ((p.machine.transitionsFrom state).map (·.event.name)).find? enabled := by
  refine find?_eq_of_perm ((hp.reordered.transitions.filter _).map _) fun a ha b hb => ?_
  obtain ⟨t, ht, rfl⟩ := List.mem_map.1 ha
  obtain ⟨u, hu, rfl⟩ := List.mem_map.1 hb
  exact hone t ht u hu

theorem Matching.dispatch (hp : p.Matching) (hparams : p.module'.params = p.module.params)
    (hsearch : SearchApart p.machine p.module) {state : String}
    (hreached : Reached p.module.kind r) (hstate : InState p.machine p.module state r)
    (hmachine : p.MachineTwin r r') {v v' : RunningVariant} (hvariant : r.asVariant = .ok v)
    (hvariant' : r'.asVariant = .ok v') {enabled : String → Bool}
    {acted : String → List Datum → Except RunError Unit} {hooks hooks' : Hooks}
    (hhooks : FixedHooks p.machine p.module.load hooks enabled acted)
    (hhooks' : FixedHooks p.machine' p.module'.load hooks' enabled acted)
    (hone : OneEnabled p.machine enabled state) (args : List Datum) :
    p.Alike p.VariantTwin (dispatch p.module hooks v args).result
      (dispatch p.module' hooks' v' args).result := by
  cases harity : arityError? p.module.params args.length with
  | some fault =>
    rw [dispatch_of_arity harity, dispatch_of_arity (hparams ▸ harity)]
    exact .error (.same fault)
  | none =>
    have hargs : p.module.params.length = args.length := arityError?_eq_none_iff.1 harity
    obtain ⟨load, source, hload⟩ := hp.declares.loaded
    obtain ⟨load', source', hload'⟩ := hp.declares'.loaded
    obtain ⟨w, hw⟩ := hreached.exists_atVariant hp.declares.valid
      (loadedFrom_of_ofMachine hload).load hp.declares.kind
    obtain ⟨w', hw', hsame⟩ := hp.atVariant hw hmachine
    obtain ⟨s, hs, hreaches⟩ := hreached.reaches hp.declares.valid hp.declares.kind
    obtain rfl := hs.unique hstate
    obtain rfl := hw.state.unique hs
    obtain rfl := machine_of_asVariant hvariant
    obtain rfl := machine_of_asVariant hvariant'
    have halike := hp.asVariant hmachine
    rw [hvariant, hvariant'] at halike
    obtain ⟨hvariants⟩ := halike
    have hresult := dispatch_of_fixed hp.declares.apart hload hsearch hw hvariant hreaches hhooks
      hargs
    have hresult' := dispatch_of_fixed hp.declares'.apart hload'
      (hsearch.of_reordered hp.reordered hparams) hw' hvariant'
      (hsame ▸ hp.reordered.reaches hreaches) hhooks' (hparams ▸ hargs)
    rw [hresult, hresult', hsame, hp.find?_enabled hone, hp.reordered.actionResources,
      argsOf_starting hp hvariants hparams hooks hooks']
    cases ((p.machine.transitionsFrom w.state.name).map (·.event.name)).find? enabled with
    | none => exact .ok hvariants
    | some event => exact hp.firing hmachine (.own event) _

theorem Matching.behaveAlike (hp : p.Matching) (hparams : p.module'.params = p.module.params) :
    p.BehaveAlike where
  new _ _ := hp.new
  follow _ _ hmachine _ _ := hp.follow hmachine
  canFollow _ _ hmachine _ _ := hp.canFollow hmachine
  asVariant _ _ := hp.asVariant
  reached _ := hp.exists_reached
  reached' _ hreached := by
    obtain ⟨r, hreached, hmachine⟩ := hp.swap.exists_reached hreached
    exact ⟨r, hreached, hmachine.swap⟩
  message _ _ := ErrorTwin.message hp
  shown _ _ := VariantTwin.shown hp
  dispatch hsearch _ _ _ hreached hstate hmachine _ _ hvariant hvariant' _ _ _ _ hhooks hhooks'
      hone :=
    hp.dispatch hparams hsearch hreached hstate hmachine hvariant hvariant' hhooks hhooks' hone

end TwinModules

/-! ## Machines and their reorderings -/

variable {m m' : FsmCompiler.Machine}

/-- The order of declarations shows in listings and in ties only. A machine whose rules and
initial states stand in another order is accepted if and only if the machine is, and then it has
the same states, events and variants. Where the names stay apart, both are loaded or neither is,
and their machines do the same up to the identity of classes; so do their dispatch functions,
where the names that the search reads stay apart and no two guards that it asks accept. -/
theorem reordered_behaves_alike (hreordered : m.Reordered m') :
    (m.validate = .ok () ↔ m'.validate = .ok ()) ∧
      (m.validate = .ok () → Machine.SameSets m m' ∧
        (NamesApart m → ∀ load load' source,
          ((∃ module, LoadedModule.ofMachine (load + 1) m source = .ok module) ↔
            ∃ module', LoadedModule.ofMachine (load' + 1) m' source = .ok module') ∧
          ∀ module module', LoadedModule.ofMachine (load + 1) m source = .ok module →
            LoadedModule.ofMachine (load' + 1) m' source = .ok module' →
            TwinModules.BehaveAlike ⟨m, m', module, module'⟩)) := by
  refine ⟨hreordered.validate_iff, fun hvalid => ⟨hreordered.sameSets
    (Machine.validate_eq_ok_iff.1 hvalid), fun hapart load load' source => ⟨⟨?_, ?_⟩, ?_⟩⟩⟩
  · rintro ⟨module, hload⟩
    exact exists_loaded_of_reordered hreordered hapart hload
  · rintro ⟨module', hload'⟩
    exact exists_loaded_of_reordered hreordered.symm (namesApart_of_reordered hreordered hapart)
      hload'
  · intro module module' hload hload'
    have hmatching : TwinModules.Matching ⟨m, m', module, module'⟩ :=
      ⟨hreordered, ⟨hapart, load, source, hload⟩,
        ⟨namesApart_of_reordered hreordered hapart, load', source, hload'⟩⟩
    exact hmatching.behaveAlike (params_of_reordered hreordered hload hload')

/-- A machine that starts in `S` and leaves it for `B` by `Hop`, and for `A` by the event. -/
def fork (event : String) : FsmCompiler.Machine where
  name := "M"
  transitions := [⟨⟨"Hop", none⟩, ⟨"S", none⟩, ⟨"B", none⟩, none⟩,
    ⟨⟨event, none⟩, ⟨"S", none⟩, ⟨"A", none⟩, none⟩]
  initialStates := [⟨"S", none⟩]
  guardResources := []
  actionResources := []
  loc := none

/-- The same machine with its rules the other way round. -/
def forkReversed (event : String) : FsmCompiler.Machine :=
  { fork event with transitions := (fork event).transitions.reverse }

theorem reordered_fork (event : String) : (fork event).Reordered (forkReversed event) :=
  ⟨(List.reverse_perm _).symm, .refl _, rfl, rfl, rfl⟩

/-- The machine is loaded if its module can be made, and its dispatch function has no
parameters. -/
theorem exists_loaded_of_no_resources (load : Nat) (hvalid : m.validate = .ok ())
    (htop : (Target.topText (m.compile none)).isSome)
    (hparameters : (Target.dispatchSignature (m.compile none)).any (·.writable))
    (hnone : (Target.dispatchSignature (m.compile none)).map (·.names) = some [])
    (hkind : (machineClass (load + 1) (m.compile none) (globalsOf m (load + 1))).toOption.isSome) :
    ∃ module, LoadedModule.ofMachine (load + 1) m none = .ok module ∧ module.params = [] := by
  obtain ⟨kind, hkind⟩ := Option.isSome_iff_exists.1 hkind
  have hreadable : Target.holdsNul (m.compile none) = false := by
    simp [Target.holdsNul, Machine.compile, Machine.compileWith]
  obtain ⟨module, hload, -, -⟩ := exists_ofMachine_eq_ok hvalid hreadable htop hparameters
    (toOption_eq_some_iff.1 hkind)
  refine ⟨module, hload, ?_⟩
  obtain ⟨-, doc, signature, kind, hcompiles, -, rfl⟩ := ofMachine_eq_ok_iff.1 hload
  rw [hcompiles.parameters] at hnone
  exact Option.some.inj hnone

theorem namesApart_skip : NamesApart (fork "Skip") := by decide +kernel

/-- Two plain rules may be declared in either order. -/
theorem fork_behaves_alike :
    ∃ module module', LoadedModule.ofMachine 1 (fork "Skip") none = .ok module ∧
      LoadedModule.ofMachine 2 (forkReversed "Skip") none = .ok module' ∧
      Machine.SameSets (fork "Skip") (forkReversed "Skip") ∧ SearchApart (fork "Skip") module ∧
      TwinModules.BehaveAlike ⟨fork "Skip", forkReversed "Skip", module, module'⟩ := by
  have hvalid : (fork "Skip").validate = .ok () := by decide +kernel
  obtain ⟨-, hsame⟩ := reordered_behaves_alike (reordered_fork "Skip")
  obtain ⟨hsets, hruns⟩ := hsame hvalid
  obtain ⟨hloads, hbehave⟩ := hruns namesApart_skip 0 1 none
  obtain ⟨module, hload, hparams⟩ := exists_loaded_of_no_resources 0 hvalid (by decide +kernel)
    (by decide +kernel) (by decide +kernel) (by decide +kernel)
  obtain ⟨module', hload'⟩ := hloads.1 ⟨module, hload⟩
  have hfree : ∀ t ∈ (fork "Skip").transitions,
      compatible t.event.name ∉ Validation.dispatchNames := by decide +kernel
  refine ⟨module, module', hload, hload', hsets, ⟨fun t ht _ => ?_, fun _ => ?_⟩,
    hbehave module module' hload hload'⟩
  · rw [hparams]
    exact ⟨hfree t ht, List.not_mem_nil, List.not_mem_nil⟩
  · rw [hparams]
    exact List.not_mem_nil

/-- A machine starts in an initial state, at the variant of the state. -/
theorem exists_started {module : LoadedModule} {load : Nat} {source : Option String} {s : String}
    (hapart : NamesApart m) (hload : LoadedModule.ofMachine (load + 1) m source = .ok module)
    (hs : s ∈ m.initialNames) :
    ∃ (v : RunningVariant) (w : Variant),
      RunningMachine.new module.kind (.label (m.classOf module.load s)) = .ok v.machine ∧
        v.machine.asVariant = .ok v ∧ AtVariant m module w v.machine ∧ w.state.name = s := by
  have hkind := kind_of_ofMachine hapart hload
  obtain ⟨hvalid, -, -, hmodule⟩ := loadedFrom_of_ofMachine hload
  let r : RunningMachine :=
    ⟨module.kind, .label (m.classOf module.load s), .label .noEvent, 0, []⟩
  have hnew : RunningMachine.new module.kind (.label (m.classOf module.load s)) = .ok r :=
    new_eq_ok hkind hs rfl
  obtain ⟨w, hw⟩ := exists_atVariant_of_new hvalid hkind hnew
  exact ⟨⟨.member (tagOf module.load (globalsOf m module.load) w.tag), r⟩, w, hnew,
    hw.asVariant hmodule hkind, hw, hw.state.unique ⟨rfl, rfl, rfl⟩⟩

/-- Without parameters, the rule that is declared first fires if its guard accepts and its event
is no local name. -/
theorem exists_dispatch_of_first {module : LoadedModule} {load : Nat} {source : Option String}
    {v : RunningVariant} {w : Variant} {t : Transition} {rest : List Transition}
    (hapart : NamesApart m) (hload : LoadedModule.ofMachine (load + 1) m source = .ok module)
    (hparams : module.params = []) (hw : AtVariant m module w v.machine)
    (hvariant : v.machine.asVariant = .ok v)
    (hfirst : m.transitionsFrom w.state.name = t :: rest)
    (hfree : compatible t.event.name ∉ Validation.dispatchNames) :
    ∃ next, (dispatch module (choosingHooks m module.load t.event.name) v []).result = .ok next ∧
      InState m module t.target.name next.machine := by
  obtain ⟨hvalid, -, hglobals, hmodule⟩ := loadedFrom_of_ofMachine hload
  have ht : t ∈ m.transitionsFrom w.state.name := hfirst ▸ List.mem_cons_self
  have hmem : t ∈ m.transitions := (List.mem_filter.1 ht).1
  obtain ⟨r, tag, hfollow, hin, -⟩ := exists_variant_of_rule hvalid hmodule
    (kind_of_ofMachine hapart hload) ht hw.state
  let start := Frame.starting module (choosingHooks m module.load t.event.name) v []
  have hclass : start.event t.event.name = .ok (m.classOf module.load t.event.name) := by
    refine Frame.event_eq_ok_iff.2 ⟨Frame.localType?_eq_none_iff.2 ⟨hfree, ?_⟩, ?_⟩
    · simp [start, Frame.starting, Table.keys]
    · rw [show start.module.globals = _ from hglobals]
      exact (distinctLabels_iff hvalid).1 hapart.distinct _ (Machine.event_mem_labelNames hmem)
  have hfixed : FixedHooks m module.load start.hooks (· == t.event.name) fun _ _ => .ok () :=
    fixedHooks_choosingHooks
  have hfired : ((Dispatch.firstEnabled v.machine (t.event.name :: rest.map (·.event.name))).runIn
      start).1 = firing v.machine (m.classOf module.load t.event.name) (.ok ()) :=
    firstEnabled_of_enabled hfixed (Machine.event_mem_events hmem) hclass (beq_self_eq_true _)
  refine ⟨⟨.member tag, r⟩, ?_, hin⟩
  rw [dispatch_of_visible hapart hload hw hvariant (hparams ▸ List.not_mem_nil)
    (by rw [hparams]; rfl), hfirst, List.map_cons, ← hfollow]
  exact hfired

/-- Without parameters, an event that as an identifier is the local name of the tag hides what is
asked for its guard, whatever the hooks are. -/
theorem dispatch_of_hidden_event {module : LoadedModule} {load : Nat} {source : Option String}
    {v : RunningVariant} {w : Variant} {t : Transition} {rest : List Transition}
    (hapart : NamesApart m) (hload : LoadedModule.ofMachine (load + 1) m source = .ok module)
    (hparams : module.params = []) (hw : AtVariant m module w v.machine)
    (hvariant : v.machine.asVariant = .ok v)
    (hfirst : m.transitionsFrom w.state.name = t :: rest)
    (hlocal : compatible t.event.name = tagLocal) (hooks : Hooks) :
    (dispatch module hooks v []).result = .error (.noAttribute tagTypeName "is_enabled") := by
  have htag := hw.tag (loadedFrom_of_ofMachine hload).load (kind_of_ofMachine hapart hload)
    hvariant
  have hevent : (Frame.starting module hooks v []).event t.event.name =
      .error (.noAttribute tagTypeName "is_enabled") := by
    simp only [Frame.event, Frame.localType?, hlocal, if_true, Frame.tagType, Frame.starting,
      htag, tagOf]
  rw [dispatch_of_visible hapart hload hw hvariant (hparams ▸ List.not_mem_nil)
    (by rw [hparams]; rfl), hfirst]
  exact congrArg Prod.fst (Dispatch.runIn_firstEnabled_of_event_error hevent)

theorem namesApart_hidden : NamesApart (fork "tªg") := by decide +kernel

/-- The event `Hop` is the only one that is enabled. But where the other rule is declared first,
its event, which as an identifier is a local name, hides what is asked for its guard: the one
order leads to `B` and the other fails. -/
theorem hidden_event_shows_order :
    ∃ module module' v v' next, (fork "tªg").Reordered (forkReversed "tªg") ∧
      (∀ name ∈ (fork "tªg").labelNames,
        name ∉ ["name", "initial_states", "transitions", "str", "variant", "tag", "machine"]) ∧
      LoadedModule.ofMachine 1 (fork "tªg") none = .ok module ∧
      LoadedModule.ofMachine 1 (forkReversed "tªg") none = .ok module' ∧
      RunningMachine.new module.kind (.label ((fork "tªg").classOf module.load "S")) =
        .ok v.machine ∧ v.machine.asVariant = .ok v ∧
      RunningMachine.new module'.kind (.label ((forkReversed "tªg").classOf module'.load "S")) =
        .ok v'.machine ∧ v'.machine.asVariant = .ok v' ∧
      TwinModules.OneEnabled (fork "tªg") (· == "Hop") "S" ∧
      (dispatch module (choosingHooks (fork "tªg") module.load "Hop") v []).result = .ok next ∧
      InState (fork "tªg") module "B" next.machine ∧
      (dispatch module' (choosingHooks (forkReversed "tªg") module'.load "Hop") v' []).result =
        .error (.noAttribute tagTypeName "is_enabled") := by
  have hvalid : (fork "tªg").validate = .ok () := by decide +kernel
  obtain ⟨module, hload, hparams⟩ := exists_loaded_of_no_resources 0 hvalid (by decide +kernel)
    (by decide +kernel) (by decide +kernel) (by decide +kernel)
  have hreordered := reordered_fork "tªg"
  have hapart := namesApart_hidden
  have hapart' := namesApart_of_reordered hreordered hapart
  obtain ⟨module', hload'⟩ : ∃ module', LoadedModule.ofMachine 1 (forkReversed "tªg") none =
    .ok module' := exists_loaded_of_reordered hreordered hapart hload
  have hparams' : module'.params = [] := (params_of_reordered hreordered hload hload').trans hparams
  obtain ⟨v, w, hnew, hvariant, hw, hstate⟩ := exists_started hapart hload
    (show "S" ∈ (fork "tªg").initialNames from List.mem_singleton.2 rfl)
  obtain ⟨v', w', hnew', hvariant', hw', hstate'⟩ := exists_started hapart' hload'
    (show "S" ∈ (forkReversed "tªg").initialNames from List.mem_singleton.2 rfl)
  have hhop : (fork "tªg").transitionsFrom w.state.name =
      ⟨⟨"Hop", none⟩, ⟨"S", none⟩, ⟨"B", none⟩, none⟩ ::
        [⟨⟨"tªg", none⟩, ⟨"S", none⟩, ⟨"A", none⟩, none⟩] := by
    rw [hstate]
    rfl
  have htag : (forkReversed "tªg").transitionsFrom w'.state.name =
      ⟨⟨"tªg", none⟩, ⟨"S", none⟩, ⟨"A", none⟩, none⟩ ::
        [⟨⟨"Hop", none⟩, ⟨"S", none⟩, ⟨"B", none⟩, none⟩] := by
    rw [hstate']
    rfl
  obtain ⟨next, hresult, hin⟩ := exists_dispatch_of_first hapart hload hparams hw hvariant hhop
    (by decide +kernel)
  have hresult' := dispatch_of_hidden_event hapart' hload' hparams' hw' hvariant' htag
    (by decide +kernel) (choosingHooks (forkReversed "tªg") module'.load "Hop")
  refine ⟨module, module', v, v', next, hreordered, by decide +kernel, hload, hload', hnew,
    hvariant, hnew', hvariant', fun t _ u _ ht hu => ?_, hresult, hin, hresult'⟩
  rw [beq_iff_eq.1 ht, beq_iff_eq.1 hu]

end FsmCompiler.Running
