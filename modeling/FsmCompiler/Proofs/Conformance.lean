/-
# Running machines follow their rules

A machine of a loaded module starts in the declared initial states and follows the
declared rules, over whole runs, exactly if its names stay apart as identifiers. A
machine that is reached carries the tag of its state and of the event that led there,
and no other pair has that tag.
-/

import FsmCompiler.Proofs.DeclaredTable

namespace FsmCompiler.Running

open Text (compatible)

variable {m : FsmCompiler.Machine} {load : Nat} {source : Option String} {module : LoadedModule}
  {r : RunningMachine} {v : Value}

/-! ## Operations without slots -/

theorem operation_of_no_slots {result : Except RunError α} {name : String} (hslots : r.slots = []) :
    r.operation name result = result := by
  simp [RunningMachine.operation, hslots]

theorem entry?_of_no_slots {table : Table (Meaning × Meaning) α} {slot : String} {event : Value}
    (hslots : r.slots = []) :
    r.entry? slot table event =
      .ok ((RunningMachine.key? r.state event).bind fun key => table.lookup key) := by
  simp [RunningMachine.entry?, hslots]

/-- What an event leads to is written in the table of transitions. -/
theorem follow_of_no_slots (hslots : r.slots = []) :
    r.follow v =
      match (RunningMachine.key? r.state v.coerce).bind fun key =>
          r.kind.transitions.lookup key with
      | some target =>
        (RunningMachine.targetClass target).map fun c => ⟨r.kind, .label c, v.coerce, 0, []⟩
      | none => .error (.unsupportedTransition r.kind.name r.state v.coerce) := by
  have hname : r.name = r.kind.name := by simp [RunningMachine.name, hslots]
  simp only [RunningMachine.follow, operation_of_no_slots hslots, entry?_of_no_slots hslots]
  cases (RunningMachine.key? r.state v.coerce).bind fun key => r.kind.transitions.lookup key with
  | none =>
    simp [bind, Except.bind, throw, throwThe, MonadExceptOf.throw, hname]
  | some target =>
    cases RunningMachine.targetClass target <;>
      simp [bind, Except.bind, pure, Except.pure, Except.map, *]

theorem canFollow_of_no_slots (hslots : r.slots = []) :
    r.canFollow v =
      .ok ((RunningMachine.key? r.state v.coerce).bind fun key =>
        r.kind.transitions.lookup key).isSome := by
  simp [RunningMachine.canFollow, operation_of_no_slots hslots, hslots]

theorem asVariant_of_no_slots (hslots : r.slots = []) :
    r.asVariant =
      match (RunningMachine.key? r.state r.event).bind fun key => r.kind.variantTags.lookup key with
      | some tag => .ok ⟨.member tag, r⟩
      | none => .error (.unknownVariant r.kind.name s!"{r.state.shown} by {r.event.shown}") := by
  have hname : r.name = r.kind.name := by simp [RunningMachine.name, hslots]
  simp only [RunningMachine.asVariant, operation_of_no_slots hslots, entry?_of_no_slots hslots]
  cases (RunningMachine.key? r.state r.event).bind fun key => r.kind.variantTags.lookup key <;>
    simp [bind, Except.bind, pure, Except.pure, throw, throwThe, MonadExceptOf.throw, hname]

/-! ## What is promised -/

/-- The value is the class of a label, or an instance of it. -/
def StandsFor (m : FsmCompiler.Machine) (load : Nat) (v : Value) (name : String) : Prop :=
  v.coerce = .label (m.classOf load name)

/-- A machine of the module in the state `s`, on which nothing was set. -/
structure InState (m : FsmCompiler.Machine) (module : LoadedModule) (s : String)
    (r : RunningMachine) : Prop where
  kind : r.kind = module.kind
  state : r.state = .label (m.classOf module.load s)
  slots : r.slots = []

/-- The event that led to a machine is `event`, if there is one. -/
structure EnteredBy (m : FsmCompiler.Machine) (load : Nat) (r : RunningMachine)
    (event : Option String) : Prop where
  held : r.event = .label ((event.map (m.classOf load)).getD .noEvent)
  trigger : r.trigger? = .ok (event.map fun e => .label (m.classOf load e))

/-- Machines that come of starting a machine and following events, one after the other. -/
inductive Reached (kind : MachineClass) : RunningMachine → Prop
  | new {state r} (hnew : RunningMachine.new kind state = .ok r) : Reached kind r
  | follow {r event r'} (hreached : Reached kind r) (hfollow : r.follow event = .ok r') :
      Reached kind r'

/-- The machines of a module do what the declarations say. -/
structure Conforms (m : FsmCompiler.Machine) (module : LoadedModule) : Prop where
  /-- A machine starts in each initial state. -/
  starts : ∀ s ∈ m.initialNames, ∀ v, StandsFor m module.load v s →
    ∃ r, RunningMachine.new module.kind v = .ok r ∧ InState m module s r ∧
      EnteredBy m module.load r none
  /-- It starts in nothing else. -/
  refuses : ∀ v, (∀ s ∈ m.initialNames, ¬ StandsFor m module.load v s) →
    RunningMachine.new module.kind v = .error (.notInitial m.name v.coerce)
  /-- In a state, the rules that leave it can be followed. -/
  follows : ∀ t ∈ m.transitions, ∀ r, InState m module t.source.name r →
    ∀ v, StandsFor m module.load v t.event.name →
      r.canFollow v = .ok true ∧ ∃ r', r.follow v = .ok r' ∧ InState m module t.target.name r' ∧
        EnteredBy m module.load r' (some t.event.name)
  /-- Nothing else can be followed. -/
  stops : ∀ s r, InState m module s r →
    ∀ v, (∀ t ∈ m.transitionsFrom s, ¬ StandsFor m module.load v t.event.name) →
      r.canFollow v = .ok false ∧
        r.follow v = .error (.unsupportedTransition m.name r.state v.coerce)
  /-- The allowed events are those of the rules that leave the state, in their order and
  without repetition. -/
  allowed : ∀ s r, InState m module s r →
    r.allowed = .ok ((distinctBy id ((m.transitionsFrom s).map (·.event.name))).map
      fun e => .label (m.classOf module.load e))
  /-- A machine that is reached is in a state and was led there by an event, if it has not
  just started, and its tag says so. -/
  reached : ∀ r, Reached module.kind r → ∃ s event tag, InState m module s r ∧
    EnteredBy m module.load r event ∧ r.asVariant = .ok ⟨.member tag, r⟩ ∧
    tag ∈ module.kind.tags ∧ tag.value = Machine.tagText s event
  /-- Two machines that are reached have one tag only if they were led to one state by one
  event. -/
  tags : ∀ r r', Reached module.kind r → Reached module.kind r' →
    ∀ tag, r.asVariant = .ok ⟨.member tag, r⟩ → r'.asVariant = .ok ⟨.member tag, r'⟩ →
      r.state = r'.state ∧ r.event = r'.event

/-! ## Declared machines keep the promise -/

theorem enteredBy_none {kind : MachineClass} {state : Value} :
    EnteredBy m load ⟨kind, state, .label .noEvent, 0, []⟩ none :=
  ⟨rfl, rfl⟩

/-- The event that led to a machine is the one that it holds, and none is not that of a label. -/
theorem enteredBy_of_held {event : Option String} (hslots : r.slots = [])
    (hheld : r.event = .label ((event.map (m.classOf (load + 1))).getD .noEvent)) :
    EnteredBy m (load + 1) r event := by
  refine ⟨hheld, ?_⟩
  unfold RunningMachine.trigger?
  rw [operation_of_no_slots hslots, hheld]
  cases event <;> simp [Value.isNoEvent, Machine.classOf, LabelClass.noEvent]

theorem enteredBy_some {kind : MachineClass} {state : Value} (e : String) :
    EnteredBy m (load + 1) ⟨kind, state, .label (m.classOf (load + 1) e), 0, []⟩ (some e) :=
  enteredBy_of_held rfl rfl

theorem new_eq_ok {s : String} (hkind : module.kind = declaredKind m load)
    (hs : s ∈ m.initialNames) (hv : StandsFor m load v s) :
    RunningMachine.new module.kind v =
      .ok ⟨module.kind, .label (m.classOf load s), .label .noEvent, 0, []⟩ := by
  have hbase : (m.classOf load s).base = .initialState := by
    have hinitial : m.isInitial s = true := by simpa [Machine.isInitial] using hs
    simp [Machine.classOf, Machine.baseOf, Machine.initial_mem_states hs, hinitial]
  have hmem : Meaning.label (m.classOf load s) ∈ module.kind.initialStates := by
    rw [hkind]
    exact List.mem_map.2 ⟨s, hs, rfl⟩
  unfold RunningMachine.new
  rw [hv]
  exact if_pos ⟨hbase, hmem⟩

theorem new_eq_error (hkind : module.kind = declaredKind m load)
    (hv : ∀ s ∈ m.initialNames, ¬ StandsFor m load v s) :
    RunningMachine.new module.kind v = .error (.notInitial m.name v.coerce) := by
  have hname : module.kind.name = m.name := by rw [hkind]; rfl
  unfold RunningMachine.new
  split
  · rename_i c hc
    rw [if_neg, hname, hc]
    rintro ⟨-, hmem⟩
    rw [hkind] at hmem
    obtain ⟨s, hs, hclass⟩ := List.mem_map.1 hmem
    refine hv s hs (hc.trans ?_)
    rw [Meaning.label.injEq] at hclass
    rw [hclass]
  · rw [hname]

theorem key?_of_standsFor {s e : String} (hstate : r.state = .label (m.classOf load s))
    (hv : StandsFor m load v e) :
    RunningMachine.key? r.state v.coerce =
      some (.label (m.classOf load s), .label (m.classOf load e)) := by
  rw [hstate, hv]
  rfl

/-- A rule is found under its source and its event. -/
theorem lookup_of_rule {t : Transition} (hvalid : m.Valid)
    (hkind : r.kind = declaredKind m load)
    (hstate : r.state = .label (m.classOf load t.source.name)) (ht : t ∈ m.transitions)
    (hv : StandsFor m load v t.event.name) :
    ((RunningMachine.key? r.state v.coerce).bind fun key => r.kind.transitions.lookup key) =
      some (.label (m.classOf load t.target.name)) := by
  rw [key?_of_standsFor hstate hv, hkind]
  exact lookup_transitions hvalid ht

/-- What no rule says is not found. -/
theorem lookup_of_no_rule {s : String} (hkind : r.kind = declaredKind m load)
    (hstate : r.state = .label (m.classOf load s))
    (hv : ∀ t ∈ m.transitionsFrom s, ¬ StandsFor m load v t.event.name) :
    ((RunningMachine.key? r.state v.coerce).bind fun key => r.kind.transitions.lookup key) =
      none := by
  rw [hstate, hkind]
  unfold RunningMachine.key?
  cases hclass : v.coerce.class? with
  | none => rfl
  | some c =>
    have hcoerce : v.coerce = .label c := by
      cases hv' : v.coerce <;> simp_all [Value.class?]
    cases hlookup : (declaredKind m load).transitions.lookup
        (.label (m.classOf load s), .label c) with
    | none => exact hlookup
    | some target =>
      obtain ⟨t, ht, hentry⟩ := exists_rule_of_lookup hlookup
      simp only [ruleEntry, Prod.mk.injEq, Meaning.label.injEq, Machine.classOf_inj] at hentry
      obtain ⟨⟨hsource, rfl⟩, -⟩ := hentry
      refine absurd hcoerce (hv t (List.mem_filter.2 ⟨ht, ?_⟩))
      simp [hsource]

theorem follow_of_rule {t : Transition} (hvalid : m.Valid)
    (hkind : module.kind = declaredKind m module.load) (ht : t ∈ m.transitions)
    (hr : InState m module t.source.name r) (hv : StandsFor m module.load v t.event.name) :
    r.follow v = .ok ⟨module.kind, .label (m.classOf module.load t.target.name),
      .label (m.classOf module.load t.event.name), 0, []⟩ := by
  rw [follow_of_no_slots hr.slots,
    lookup_of_rule hvalid (hr.kind.trans hkind) hr.state ht hv, hr.kind, hv]
  rfl

theorem follow_of_no_rule {s : String} (hkind : module.kind = declaredKind m module.load)
    (hr : InState m module s r)
    (hv : ∀ t ∈ m.transitionsFrom s, ¬ StandsFor m module.load v t.event.name) :
    r.follow v = .error (.unsupportedTransition m.name r.state v.coerce) := by
  rw [follow_of_no_slots hr.slots, lookup_of_no_rule (hr.kind.trans hkind) hr.state hv, hr.kind,
    hkind]
  rfl

/-- A machine starts in an initial state. -/
theorem new_cases (hkind : module.kind = declaredKind m load)
    (hnew : RunningMachine.new module.kind v = .ok r) :
    ∃ s ∈ m.initialNames, r = ⟨module.kind, .label (m.classOf load s), .label .noEvent, 0, []⟩ := by
  by_cases hs : ∃ s ∈ m.initialNames, StandsFor m load v s
  · obtain ⟨s, hs, hv⟩ := hs
    rw [new_eq_ok hkind hs hv] at hnew
    exact ⟨s, hs, (Except.ok.inj hnew).symm⟩
  · rw [new_eq_error hkind fun s hmem hv => hs ⟨s, hmem, hv⟩] at hnew
    cases hnew

/-- A machine follows a rule that leaves its state. -/
theorem follow_cases {s : String} {r' : RunningMachine} (hvalid : m.Valid)
    (hkind : module.kind = declaredKind m module.load) (hr : InState m module s r)
    (hfollow : r.follow v = .ok r') :
    ∃ t ∈ m.transitions, t.source.name = s ∧
      r' = ⟨module.kind, .label (m.classOf module.load t.target.name),
        .label (m.classOf module.load t.event.name), 0, []⟩ := by
  by_cases ht : ∃ t ∈ m.transitionsFrom s, StandsFor m module.load v t.event.name
  · obtain ⟨t, ht, hv⟩ := ht
    obtain ⟨hmem, hsource⟩ := List.mem_filter.1 ht
    have hsource := beq_iff_eq.1 hsource
    rw [← hsource] at hr
    rw [follow_of_rule hvalid hkind hmem hr hv] at hfollow
    exact ⟨t, hmem, hsource, (Except.ok.inj hfollow).symm⟩
  · rw [follow_of_no_rule hkind hr fun t hmem hv => ht ⟨t, hmem, hv⟩] at hfollow
    cases hfollow

/-- The event of a key, if its state is the given one. -/
def eventFrom (state : Meaning) (key : Meaning × Meaning) : Option Meaning :=
  if key.1 = state then some key.2 else none

theorem filterMap_eventFrom (s : String) :
    (m.transitions.map fun t => (ruleEntry m load t).1).filterMap
        (eventFrom (.label (m.classOf load s))) =
      ((m.transitionsFrom s).map (·.event.name)).map fun e => .label (m.classOf load e) := by
  rw [List.filterMap_map, List.map_map, Machine.transitionsFrom, ← List.filterMap_eq_map,
    List.filterMap_filter]
  refine List.filterMap_congr fun t _ => ?_
  simp [eventFrom, ruleEntry]

theorem allowed_of_inState {s : String} (hkind : module.kind = declaredKind m module.load)
    (hr : InState m module s r) :
    r.allowed = .ok ((distinctBy id ((m.transitionsFrom s).map (·.event.name))).map
      fun e => .label (m.classOf module.load e)) := by
  have hkeys : r.kind.transitions.filterMap (fun entry =>
      if entry.1.1 = .label (m.classOf module.load s) then some entry.1.2 else none) =
        r.kind.transitions.keys.filterMap (eventFrom (.label (m.classOf module.load s))) := by
    rw [Table.keys, List.filterMap_map]
    rfl
  have hdistinct : r.kind.transitions.keys =
      distinctBy id (m.transitions.map fun t => (ruleEntry m module.load t).1) := by
    rw [hr.kind, hkind, declaredKind, Table.keys_ofEntries, List.map_map]
    rfl
  unfold RunningMachine.allowed
  rw [operation_of_no_slots hr.slots]
  simp only [hr.slots, hr.state, Value.class?, List.lookup_nil]
  rw [hkeys, hdistinct, filterMap_distinctBy, filterMap_eventFrom, ← List.filterMap_eq_map,
    ← filterMap_distinctBy, List.filterMap_eq_map]
  · rintro a - b - i ha hb
    rw [Function.comp_apply, Option.some.injEq] at ha hb
    rw [← hb, Meaning.label.injEq, Machine.classOf_inj] at ha
    exact ha
  · rintro ⟨a, b⟩ - ⟨c, d⟩ - i ha hb
    simp only [eventFrom, Option.ite_none_right_eq_some, Option.some.injEq] at ha hb
    rw [Prod.mk.injEq]
    exact ⟨ha.1.trans hb.1.symm, ha.2.trans hb.2.symm⟩

/-- A machine in the state of a variant, led there by its event. -/
structure AtVariant (m : FsmCompiler.Machine) (module : LoadedModule) (w : Variant)
    (r : RunningMachine) : Prop where
  declared : w ∈ m.variants
  state : InState m module w.state.name r
  entered : EnteredBy m module.load r w.eventName?

/-- A machine that has just started is at the variant of its state. -/
theorem exists_atVariant_of_new (hvalid : m.Valid)
    (hkind : module.kind = declaredKind m module.load)
    (hnew : RunningMachine.new module.kind v = .ok r) : ∃ w, AtVariant m module w r := by
  obtain ⟨s, hs, rfl⟩ := new_cases hkind hnew
  obtain ⟨w, hw, rfl, hevent⟩ := hvalid.exists_initial_variant hs
  exact ⟨w, hw, ⟨rfl, rfl, rfl⟩, hevent ▸ enteredBy_none⟩

/-- A machine that has followed an event is at the variant of a rule. -/
theorem exists_atVariant_of_follow {s : String} {r' : RunningMachine} (hvalid : m.Valid)
    (hload : module.load = load + 1) (hkind : module.kind = declaredKind m module.load)
    (hr : InState m module s r) (hfollow : r.follow v = .ok r') :
    ∃ w, AtVariant m module w r' := by
  obtain ⟨t, ht, -, rfl⟩ := follow_cases hvalid hkind hr hfollow
  obtain ⟨w, hw, hstate, hevent⟩ := hvalid.exists_entered_variant ht
  refine ⟨w, hw, ⟨rfl, by rw [hstate], rfl⟩, ?_⟩
  rw [hevent, hload]
  exact enteredBy_some _

/-- Machines that are reached are at variants. -/
theorem Reached.exists_atVariant (hvalid : m.Valid) (hload : module.load = load + 1)
    (hkind : module.kind = declaredKind m module.load) (hreached : Reached module.kind r) :
    ∃ w, AtVariant m module w r := by
  induction hreached with
  | new hnew => exact exists_atVariant_of_new hvalid hkind hnew
  | follow _ hfollow ih =>
    obtain ⟨w, hw⟩ := ih
    exact exists_atVariant_of_follow hvalid hload hkind hw.state hfollow

theorem AtVariant.key? {w : Variant} (hw : AtVariant m module w r) :
    RunningMachine.key? r.state r.event = some (variantKey m module.load w) := by
  rw [hw.state.state, hw.entered.held]
  rfl

/-- A machine at a variant carries its tag. -/
theorem AtVariant.asVariant {w : Variant} (hload : module.load = load + 1)
    (hkind : module.kind = declaredKind m module.load) (hw : AtVariant m module w r) :
    r.asVariant =
      .ok ⟨.member (tagOf module.load (globalsOf m module.load) w.tag), r⟩ := by
  rw [asVariant_of_no_slots hw.state.slots, hw.key?, Option.bind_some, hw.state.kind, hkind, hload,
    lookup_variantTags load hw.declared]

theorem conforms_of_namesApart (hapart : NamesApart m)
    (hload : LoadedModule.ofMachine (load + 1) m source = .ok module) : Conforms m module := by
  have hkind := kind_eq_declaredKind hapart hload
  obtain ⟨hvalid, doc, signature, kind, -, -, rfl⟩ := ofMachine_eq_ok_iff.1 hload
  constructor
  case starts =>
    intro s hs v hv
    exact ⟨_, new_eq_ok hkind hs hv, ⟨rfl, rfl, rfl⟩, enteredBy_none⟩
  case refuses =>
    intro v hv
    exact new_eq_error hkind hv
  case follows =>
    intro t ht r hr v hv
    refine ⟨?_, _, follow_of_rule hvalid hkind ht hr hv, ⟨rfl, rfl, rfl⟩, enteredBy_some _⟩
    rw [canFollow_of_no_slots hr.slots,
      lookup_of_rule hvalid (hr.kind.trans hkind) hr.state ht hv]
    rfl
  case stops =>
    intro s r hr v hv
    refine ⟨?_, follow_of_no_rule hkind hr hv⟩
    rw [canFollow_of_no_slots hr.slots, lookup_of_no_rule (hr.kind.trans hkind) hr.state hv]
    rfl
  case allowed =>
    intro s r hr
    exact allowed_of_inState hkind hr
  case reached =>
    intro r hreached
    obtain ⟨w, hw⟩ := hreached.exists_atVariant hvalid rfl hkind
    refine ⟨_, _, _, hw.state, hw.entered, hw.asVariant rfl hkind, ?_,
      Machine.variant_tag hw.declared⟩
    rw [show kind = _ from hkind]
    exact List.mem_map.2 ⟨w, hw.declared, rfl⟩
  case tags =>
    intro r r' hreached hreached' tag htag htag'
    obtain ⟨w, hw⟩ := hreached.exists_atVariant hvalid rfl hkind
    obtain ⟨w', hw'⟩ := hreached'.exists_atVariant hvalid rfl hkind
    rw [hw.asVariant rfl hkind] at htag
    rw [hw'.asVariant rfl hkind] at htag'
    cases htag
    have htext : w'.tag = w.tag := by
      have hmember := Except.ok.inj htag'
      simp only [tagOf, RunningVariant.mk.injEq, Tag.member.injEq, TagMember.mk.injEq] at hmember
      exact hmember.1.2.2.2.1
    have hsame := Machine.variant_ext_of_tag hw'.declared hw.declared htext
    subst hsame
    exact ⟨hw.state.state.trans hw'.state.state.symm, hw.entered.held.trans hw'.entered.held.symm⟩

/-! ## Names that do not stay apart -/

/-- The name means its own class, also behind the table of initial states. -/
structure MeansItself (m : FsmCompiler.Machine) (load : Nat) (label : String) : Prop where
  owns : (globalsOf m load).lookup (compatible label) = some (m.classOf load label)
  name : compatible label ≠ "name"
  initialStates : compatible label ≠ "initial_states"

/-- A name that means itself in a table is found there under its own identifier. -/
theorem meansItself_of_resolve {name other : String} (hvalid : m.Valid)
    (hresolve : (ruleScope (globalsOf m load)).resolve other = .ok (.label (m.classOf load name))) :
    MeansItself m load name := by
  obtain ⟨hinitial, hname, hlookup⟩ := resolve_ruleScope_eq_label_iff.1 hresolve
  obtain ⟨owner, -, hidentifier, hclass⟩ := exists_of_lookup_globalsOf hvalid hlookup
  rw [Machine.classOf_inj] at hclass
  subst hclass
  rw [← hidentifier] at hinitial hname hlookup
  exact ⟨hlookup, hname, hinitial⟩

theorem resolve_ruleScope_of_tagScope {globals : Globals} {name : String} {c : LabelClass}
    (hresolve : (tagScope globals).resolve name = .ok (.label c)) :
    (ruleScope globals).resolve name = .ok (.label c) :=
  resolve_ruleScope_eq_label_iff.2 (resolve_tagScope_eq_label_iff.1 hresolve).2

theorem targetClass_eq_ok_iff {target : Meaning} {c : LabelClass} :
    RunningMachine.targetClass target = .ok c ↔ target = .label c := by
  cases target <;> simp [RunningMachine.targetClass]

/-- What is in the table of transitions was written there by a rule. -/
theorem meansItself_of_transition {kind : MachineClass} {s e t : String} (hvalid : m.Valid)
    (hkind : machineClass load (m.compile source) (globalsOf m load) = .ok kind)
    (hlookup : kind.transitions.lookup (.label (m.classOf load s), .label (m.classOf load e)) =
      some (.label (m.classOf load t))) :
    MeansItself m load s ∧ MeansItself m load e ∧ MeansItself m load t := by
  obtain ⟨tags, initialStates, rules, variantTags, -, -, hrules, -, rfl⟩ :=
    machineClass_eq_ok_iff.1 hkind
  have hmem := Table.mem_of_lookup_ofEntries hlookup
  obtain ⟨⟨source, event, target⟩, -, hentry⟩ := exists_of_mapM_eq_ok hrules hmem
  obtain ⟨hsource, hevent, htarget⟩ := transitionEntry_eq_ok_iff.1 hentry
  exact ⟨meansItself_of_resolve hvalid (resolveKey_eq_label_iff.1 hsource),
    meansItself_of_resolve hvalid (resolveKey_eq_label_iff.1 hevent),
    meansItself_of_resolve hvalid htarget⟩

/-- What is in the table of tags was written there by a variant. -/
theorem meansItself_of_variantTag {kind : MachineClass} {s : String} {event : Meaning}
    {tag : TagMember} (hvalid : m.Valid)
    (hkind : machineClass load (m.compile source) (globalsOf m load) = .ok kind)
    (hlookup : kind.variantTags.lookup (.label (m.classOf load s), event) = some tag) :
    MeansItself m load s := by
  obtain ⟨tags, initialStates, rules, variantTags, -, -, -, hvariants, rfl⟩ :=
    machineClass_eq_ok_iff.1 hkind
  have hmem := Table.mem_of_lookup_ofEntries hlookup
  obtain ⟨⟨state, event, text⟩, -, hentry⟩ := exists_of_mapM_eq_ok hvariants hmem
  obtain ⟨hstate, -, -⟩ := tagEntry_eq_ok_iff.1 hentry
  exact meansItself_of_resolve hvalid
    (resolve_ruleScope_of_tagScope (resolveKey_eq_label_iff.1 hstate))

/-- If a rule can be followed, its names mean themselves. -/
theorem Conforms.rule_meansItself {t : Transition} (hconforms : Conforms m module)
    (hload : LoadedModule.ofMachine (load + 1) m source = .ok module) (ht : t ∈ m.transitions) :
    MeansItself m (load + 1) t.source.name ∧ MeansItself m (load + 1) t.event.name ∧
      MeansItself m (load + 1) t.target.name := by
  obtain ⟨hvalid, doc, signature, kind, -, hkind, rfl⟩ := ofMachine_eq_ok_iff.1 hload
  obtain ⟨-, r', hfollow, hstate, -⟩ := hconforms.follows t ht
    ⟨kind, .label (m.classOf (load + 1) t.source.name), .label .noEvent, 0, []⟩ ⟨rfl, rfl, rfl⟩
    (.label (m.classOf (load + 1) t.event.name)) rfl
  rw [follow_of_no_slots rfl] at hfollow
  split at hfollow
  · rename_i target hlookup
    cases htarget : RunningMachine.targetClass target with
    | error e => simp [htarget, Except.map] at hfollow
    | ok c =>
      simp only [htarget, Except.map, Except.ok.injEq] at hfollow
      subst hfollow
      have hclass : c = m.classOf (load + 1) t.target.name := Value.label.inj hstate.state
      rw [targetClass_eq_ok_iff.1 htarget, hclass] at hlookup
      exact meansItself_of_transition hvalid hkind hlookup
  · cases hfollow

/-- If a machine starts in a state and carries a tag then, the name of the state means
itself. -/
theorem Conforms.initial_meansItself {s : String} (hconforms : Conforms m module)
    (hload : LoadedModule.ofMachine (load + 1) m source = .ok module) (hs : s ∈ m.initialNames) :
    MeansItself m (load + 1) s := by
  obtain ⟨hvalid, doc, signature, kind, -, hkind, rfl⟩ := ofMachine_eq_ok_iff.1 hload
  obtain ⟨r, hnew, hr, hentered⟩ :=
    hconforms.starts s hs (.label (m.classOf (load + 1) s)) rfl
  obtain ⟨_, _, tag, -, -, htag, -⟩ := hconforms.reached r (.new hnew)
  rw [asVariant_of_no_slots hr.slots, hr.state, hentered.held, hr.kind] at htag
  split at htag
  · rename_i tag hlookup
    exact meansItself_of_variantTag hvalid hkind hlookup
  · cases htag

/-- Machines that follow their rules have names that stay apart. -/
theorem Conforms.namesApart (hconforms : Conforms m module) (hfresh : FreshLabels m)
    (hload : LoadedModule.ofMachine (load + 1) m source = .ok module) : NamesApart m := by
  have hvalid := (ofMachine_eq_ok_iff.1 hload).1
  have hlabels : ∀ name ∈ m.labelNames, MeansItself m (load + 1) name := by
    intro name hname
    rcases Machine.label_cases hname with ⟨t, ht, hname⟩ | hname
    · obtain ⟨hsource, hevent, htarget⟩ := hconforms.rule_meansItself hload ht
      simp only [List.mem_cons, List.not_mem_nil, or_false] at hname
      rcases hname with rfl | rfl | rfl
      · exact hsource
      · exact hevent
      · exact htarget
    · exact hconforms.initial_meansItself hload hname
  exact ⟨(distinctLabels_iff hvalid).2 fun name hname => (hlabels name hname).owns, hfresh,
    fun name hname => (hlabels name hname).name,
    fun name hname => (hlabels name hname).initialStates⟩

/-- Running machines follow their rules exactly if their names stay apart. Where the
machine does not take a name that every module defines, over all runs the machines of a
loaded module start, follow events and carry tags as declared if and only if the states and
events are different identifiers that are not hidden in the class of the machine. -/
theorem conforms_iff_namesApart (hfresh : FreshLabels m)
    (hload : LoadedModule.ofMachine (load + 1) m source = .ok module) :
    Conforms m module ↔ NamesApart m := by
  constructor
  · intro hconforms
    exact hconforms.namesApart hfresh hload
  · intro hapart
    exact conforms_of_namesApart hapart hload

/-- A machine with one rule, which starts where the rule does. -/
def oneRule (source event target : String) : FsmCompiler.Machine where
  name := "M"
  transitions := [⟨⟨event, none⟩, ⟨source, none⟩, ⟨target, none⟩, none⟩]
  initialStates := [⟨source, none⟩]
  guardResources := []
  actionResources := []
  loc := none

theorem holdsNul_oneRule (source event target : String) :
    Target.holdsNul ((oneRule source event target).compile none) = false := by
  simp [Target.holdsNul, Machine.compile, Machine.compileWith]

/-- A lamp that can be switched on. -/
theorem lamp_conforms :
    ∃ module, LoadedModule.ofMachine 1 (oneRule "Off" "Press" "On") none = .ok module ∧
      Conforms (oneRule "Off" "Press" "On") module := by
  have hsome : (machineClass 1 ((oneRule "Off" "Press" "On").compile none)
      (globalsOf (oneRule "Off" "Press" "On") 1)).toOption.isSome := by decide +kernel
  obtain ⟨kind, hkind⟩ := Option.isSome_iff_exists.1 hsome
  obtain ⟨module, hload, -, -⟩ := exists_ofMachine_eq_ok (by decide +kernel)
    (holdsNul_oneRule "Off" "Press" "On") (by decide +kernel) (by decide +kernel)
    (toOption_eq_some_iff.1 hkind)
  have hfresh : FreshLabels (oneRule "Off" "Press" "On") := by decide +kernel
  exact ⟨module, hload, (conforms_iff_namesApart hfresh hload).2 (by decide +kernel)⟩

/-- A rule whose target is taken for the name of the machine. -/
def hiddenTable (m : FsmCompiler.Machine) : Table (Meaning × Meaning) Meaning :=
  [((.label (m.classOf 1 "A"), .label (m.classOf 1 "Go")), .machineName)]

/-- The machine is loaded, and its target is not in the table of transitions. -/
theorem exists_loaded_hidden (target : String)
    (hvalid : (oneRule "A" "Go" target).validate = .ok ())
    (htop : (Target.topText ((oneRule "A" "Go" target).compile none)).isSome)
    (hparameters :
      (Target.dispatchSignature ((oneRule "A" "Go" target).compile none)).any (·.writable))
    (htables : (machineClass 1 ((oneRule "A" "Go" target).compile none)
      (globalsOf (oneRule "A" "Go" target) 1)).toOption.map
        (fun kind => (kind.initialStates, kind.transitions)) =
          some ([.label ((oneRule "A" "Go" target).classOf 1 "A")],
            hiddenTable (oneRule "A" "Go" target))) :
    ∃ module, LoadedModule.ofMachine 1 (oneRule "A" "Go" target) none = .ok module ∧
      module.kind.initialStates = [.label ((oneRule "A" "Go" target).classOf 1 "A")] ∧
      module.kind.transitions = hiddenTable (oneRule "A" "Go" target) := by
  obtain ⟨kind, hkind, htables⟩ := Option.map_eq_some_iff.1 htables
  obtain ⟨hinitial, htransitions⟩ := Prod.mk.inj htables
  obtain ⟨module, hload, -, rfl⟩ := exists_ofMachine_eq_ok hvalid
    (holdsNul_oneRule "A" "Go" target) htop hparameters (toOption_eq_some_iff.1 hkind)
  exact ⟨module, hload, hinitial, htransitions⟩

/-- A machine that has started at the rule cannot follow it. -/
theorem exists_new_of_hidden {target : String} {kind : MachineClass}
    (hinitial : kind.initialStates = [.label ((oneRule "A" "Go" target).classOf 1 "A")])
    (htransitions : kind.transitions = hiddenTable (oneRule "A" "Go" target)) :
    ∃ r, RunningMachine.new kind (.labelClass ((oneRule "A" "Go" target).classOf 1 "A")) = .ok r ∧
      r.follow (.labelClass ((oneRule "A" "Go" target).classOf 1 "Go")) =
        .error (.noAttribute "str" "name") := by
  let m := oneRule "A" "Go" target
  refine ⟨⟨kind, .label (m.classOf 1 "A"), .label .noEvent, 0, []⟩, ?_, ?_⟩
  · have hstates : "A" ∈ m.states.map (·.name) :=
      Machine.initial_mem_states (List.mem_singleton.2 rfl)
    have hbase : (m.classOf 1 "A").base = .initialState := by
      simp only [Machine.classOf, Machine.baseOf, if_pos hstates]
      simp [m, oneRule, Machine.isInitial, Machine.initialNames]
    have hmem : Meaning.label (m.classOf 1 "A") ∈ kind.initialStates := by simp [hinitial, m]
    exact if_pos ⟨hbase, hmem⟩
  · rw [follow_of_no_slots rfl]
    simp only [htransitions]
    simp [hiddenTable, RunningMachine.key?, Value.class?, Value.coerce,
      RunningMachine.targetClass, Except.map, m]

/-- The target is no other label, but as an identifier it is the name of the machine in the
class of the machine: the rule cannot be followed. -/
theorem hidden_target_not_followed :
    ∃ module r, LoadedModule.ofMachine 1 (oneRule "A" "Go" "nªme") none = .ok module ∧
      (∀ name ∈ (oneRule "A" "Go" "nªme").labelNames,
        name ∉ ["name", "initial_states", "transitions", "str", "variant", "tag", "machine"]) ∧
      RunningMachine.new module.kind (.labelClass ((oneRule "A" "Go" "nªme").classOf 1 "A")) =
        .ok r ∧
      r.follow (.labelClass ((oneRule "A" "Go" "nªme").classOf 1 "Go")) =
        .error (.noAttribute "str" "name") := by
  obtain ⟨module, hload, hinitial, htransitions⟩ := exists_loaded_hidden "nªme"
    (by decide +kernel) (by decide +kernel) (by decide +kernel) (by decide +kernel)
  obtain ⟨r, hnew, hfollow⟩ := exists_new_of_hidden hinitial htransitions
  exact ⟨module, r, hload, by decide +kernel, hnew, hfollow⟩

end FsmCompiler.Running
