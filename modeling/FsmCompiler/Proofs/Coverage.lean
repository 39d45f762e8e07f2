/-
# What runs reach

The search along the rules finds the states that runs reach, and the tags that runs produce
are those of the initial states and of the rules that leave such states. Dispatching
reaches no less than following events does: guards that let one event happen steer the search
for the first enabled rule to any rule of the state. So a machine without doubts about where
its runs start and what they reach produces every tag.
-/

import FsmCompiler.Proofs.Dispatching
import FsmCompiler.Proofs.Reachability

namespace FsmCompiler

namespace Running

open Text (compatible)

variable {m : FsmCompiler.Machine} {load : Nat} {source : Option String} {module : LoadedModule}
  {r : RunningMachine} {Runs : RunningMachine → Prop}

/-! ## The search -/

/-- What runs reach is where chains of rules lead that begin at the initial states. -/
theorem reaches_iff_chain {name : String} :
    Reaches m name ↔ ∃ s ∈ m.initialStates, Relation.ReflTransGen m.LeadsTo s.name name := by
  constructor
  · intro hreaches
    induction hreaches with
    | initial hname =>
      obtain ⟨s, hs, rfl⟩ := List.mem_map.1 hname
      exact ⟨s, hs, .refl⟩
    | rule ht _ ih =>
      obtain ⟨s, hs, hchain⟩ := ih
      exact ⟨s, hs, hchain.tail ⟨_, ht, rfl, rfl⟩⟩
  · rintro ⟨s, hs, hchain⟩
    induction hchain with
    | refl => exact .initial (List.mem_map_of_mem hs)
    | tail _ hrule ih =>
      obtain ⟨t, ht, rfl, rfl⟩ := hrule
      exact .rule ht ih

/-- The search finds the states that runs reach. -/
theorem mem_reachableStates_iff {name : String} :
    name ∈ m.reachableStates.map (·.name) ↔ Reaches m name := by
  rw [reaches_iff_chain, Machine.mem_reachableStates_iff_chain]

/-! ## Runs -/

/-- A machine can be in the state `s` and have been led there by the event, if there is one:
it starts there, or a rule leads there from a state that runs reach. -/
inductive Entry (m : FsmCompiler.Machine) : String → Option String → Prop
  | start {s} (hs : s ∈ m.initialNames) : Entry m s none
  | rule {t} (ht : t ∈ m.transitions) (hsource : Reaches m t.source.name) :
      Entry m t.target.name (some t.event.name)

/-- A machine that is reached is in a state by an entry. -/
theorem Reached.exists_entry (hvalid : m.Valid) (hload : module.load = load + 1)
    (hkind : module.kind = declaredKind m module.load) (hreached : Reached module.kind r) :
    ∃ s event, Entry m s event ∧ InState m module s r ∧ EnteredBy m module.load r event := by
  cases hreached with
  | new hnew =>
    obtain ⟨s, hs, rfl⟩ := new_cases hkind hnew
    exact ⟨s, none, .start hs, ⟨rfl, rfl, rfl⟩, enteredBy_none⟩
  | follow hreached hfollow =>
    obtain ⟨s, hr, hreaches⟩ := hreached.reaches hvalid hkind
    obtain ⟨t, ht, rfl, rfl⟩ := follow_cases hvalid hkind hr hfollow
    refine ⟨t.target.name, some t.event.name, .rule ht hreaches, ⟨rfl, rfl, rfl⟩, ?_⟩
    rw [hload]
    exact enteredBy_some _

theorem EnteredBy.unique {event event' : Option String} (hevent : EnteredBy m load r event)
    (hevent' : EnteredBy m load r event') : event = event' := by
  have htrigger := Except.ok.inj (hevent.trigger.symm.trans hevent'.trigger)
  cases event <;> cases event' <;> simp_all

/-- The tag of a machine that is reached is that of its state and its event. -/
theorem Conforms.exists_tag {s : String} {event : Option String} (hconforms : Conforms m module)
    (hreached : Reached module.kind r) (hs : InState m module s r)
    (hevent : EnteredBy m module.load r event) :
    ∃ tag, r.asVariant = .ok ⟨.member tag, r⟩ ∧ tag ∈ module.kind.tags ∧
      tag.value = Machine.tagText s event := by
  obtain ⟨s', event', tag, hs', hevent', hvariant, htag, hvalue⟩ := hconforms.reached r hreached
  rw [hs'.unique hs, hevent'.unique hevent] at hvalue
  exact ⟨tag, hvariant, htag, hvalue⟩

/-! ## What is promised -/

/-- Nothing is doubtful about where runs start and what they reach. -/
def Undoubted (m : FsmCompiler.Machine) : Prop :=
  ∀ finding ∈ m.structureDoubts,
    (∀ name, finding.cause ≠ .noInitialStates name) ∧
      ∀ name states, finding.cause ≠ .unreachable name states

/-- The runs come to what the declarations say that runs reach. -/
structure Covers (m : FsmCompiler.Machine) (module : LoadedModule)
    (Runs : RunningMachine → Prop) : Prop where
  /-- The machines that runs come to are in states and carry tags of the module. -/
  machines : ∀ r, Runs r → ∃ s tag, InState m module s r ∧
    r.asVariant = .ok ⟨.member tag, r⟩ ∧ tag ∈ module.kind.tags
  /-- Their states are those that the search finds. -/
  states : ∀ name, (∃ r, Runs r ∧ InState m module name r) ↔
    name ∈ m.reachableStates.map (·.name)
  /-- Their tags are those of the initial states and those of the rules that leave a state that
  the search finds. -/
  tags : ∀ text, (∃ r tag, Runs r ∧ r.asVariant = .ok ⟨.member tag, r⟩ ∧ tag.value = text) ↔
    (∃ s ∈ m.initialNames, text = Naming.initialTag s) ∨
      ∃ t ∈ m.transitions, t.source.name ∈ m.reachableStates.map (·.name) ∧
        text = Naming.transitionTag t.target.name t.event.name
  /-- Without doubts, runs come to every tag. -/
  full : Undoubted m → ∀ tag ∈ module.kind.tags, ∃ r, Runs r ∧
    r.asVariant = .ok ⟨.member tag, r⟩

/-- Without doubts, runs reach every state. -/
theorem Undoubted.reaches (hundoubted : Undoubted m) {name : String}
    (hname : name ∈ m.states.map (·.name)) : Reaches m name := by
  rw [← mem_reachableStates_iff]
  by_contra hmissing
  have hunreachable : name ∈ m.unreachableStates :=
    List.mem_filter.2 ⟨hname, by simpa using hmissing⟩
  have hdoubt : ∀ cause, m.reachDoubts = [⟨none, cause⟩] →
      (∀ name, cause ≠ .noInitialStates name) ∧ ∀ name states, cause ≠ .unreachable name states :=
    fun cause hcause => hundoubted ⟨none, cause⟩ (List.mem_append_left _ (by simp [hcause]))
  by_cases hinitial : m.initialStates.isEmpty = true
  · refine (hdoubt (.noInitialStates m.name) ?_).1 m.name rfl
    simp [Machine.reachDoubts, hinitial, Validation.found]
  · refine (hdoubt (.unreachable m.name m.unreachableStates) ?_).2 m.name _ rfl
    have hne : m.unreachableStates ≠ [] := List.ne_nil_of_mem hunreachable
    simp [Machine.reachDoubts, hinitial, hne, Validation.found]

/-- Without doubts, every variant has an entry. -/
theorem Undoubted.entry (hundoubted : Undoubted m) {w : Variant} (hw : w ∈ m.variants) :
    Entry m w.state.name w.eventName? := by
  rcases Machine.variant_cases hw with ⟨s, hs, rfl⟩ | ⟨t, ht, rfl⟩
  · exact .start (List.mem_map.2 ⟨s, hs, rfl⟩)
  · exact .rule ht (hundoubted.reaches (Machine.source_mem_states ht))

/-- The tags of a module are those of the variants. -/
theorem exists_variant_of_mem_tags {tag : TagMember} (hkind : module.kind = declaredKind m load)
    (htag : tag ∈ module.kind.tags) :
    ∃ w ∈ m.variants, tag = tagOf load (globalsOf m load) w.tag := by
  rw [hkind] at htag
  obtain ⟨w, hw, rfl⟩ := List.mem_map.1 htag
  exact ⟨w, hw, rfl⟩

/-- Runs that start in each initial state and go on along each rule. -/
structure FollowsRules (m : FsmCompiler.Machine) (module : LoadedModule)
    (Runs : RunningMachine → Prop) : Prop where
  starts : ∀ s ∈ m.initialNames, ∃ r, Runs r ∧ InState m module s r ∧
    EnteredBy m module.load r none
  steps : ∀ t ∈ m.transitions, ∀ r, Runs r → InState m module t.source.name r →
    ∃ r', Runs r' ∧ InState m module t.target.name r' ∧
      EnteredBy m module.load r' (some t.event.name)

/-- Such runs come to each state that runs reach. -/
theorem FollowsRules.exists_of_reaches {s : String} (hfollows : FollowsRules m module Runs)
    (hreaches : Reaches m s) : ∃ r, Runs r ∧ InState m module s r := by
  induction hreaches with
  | initial hs =>
    obtain ⟨r, hr, hstate, -⟩ := hfollows.starts _ hs
    exact ⟨r, hr, hstate⟩
  | rule ht _ ih =>
    obtain ⟨r, hr, hstate⟩ := ih
    obtain ⟨r', hr', hstate', -⟩ := hfollows.steps _ ht r hr hstate
    exact ⟨r', hr', hstate'⟩

/-- They come to the tag of each entry. -/
theorem FollowsRules.exists_of_entry {s : String} {event : Option String}
    (hfollows : FollowsRules m module Runs) (hconforms : Conforms m module)
    (hsound : ∀ r, Runs r → Reached module.kind r) (hentry : Entry m s event) :
    ∃ r tag, Runs r ∧ r.asVariant = .ok ⟨.member tag, r⟩ ∧ tag ∈ module.kind.tags ∧
      tag.value = Machine.tagText s event := by
  obtain ⟨r, hr, hstate, hevent⟩ : ∃ r, Runs r ∧ InState m module s r ∧
      EnteredBy m module.load r event := by
    cases hentry with
    | start hs => exact hfollows.starts _ hs
    | rule ht hsource =>
      obtain ⟨r, hr, hstate⟩ := hfollows.exists_of_reaches hsource
      exact hfollows.steps _ ht r hr hstate
  obtain ⟨tag, hvariant, htag, hvalue⟩ := hconforms.exists_tag (hsound r hr) hstate hevent
  exact ⟨r, tag, hr, hvariant, htag, hvalue⟩

/-- Runs that follow the rules come to everything that following events reaches. -/
theorem FollowsRules.covers (hfollows : FollowsRules m module Runs)
    (hconforms : Conforms m module) (hvalid : m.Valid) (hload : module.load = load + 1)
    (hkind : module.kind = declaredKind m module.load)
    (hsound : ∀ r, Runs r → Reached module.kind r) : Covers m module Runs := by
  constructor
  case machines =>
    intro r hr
    obtain ⟨s, event, tag, hstate, -, hvariant, htag, -⟩ := hconforms.reached r (hsound r hr)
    exact ⟨s, tag, hstate, hvariant, htag⟩
  case states =>
    intro name
    rw [mem_reachableStates_iff]
    constructor
    · rintro ⟨r, hr, hstate⟩
      obtain ⟨s, hs, hreached⟩ := (hsound r hr).reaches hvalid hkind
      rwa [hstate.unique hs]
    · exact hfollows.exists_of_reaches
  case tags =>
    intro text
    constructor
    · rintro ⟨r, tag, hr, hvariant, rfl⟩
      obtain ⟨s, event, hentered, hstate, hevent⟩ :=
        (hsound r hr).exists_entry hvalid hload hkind
      obtain ⟨tag', hvariant', -, hvalue⟩ := hconforms.exists_tag (hsound r hr) hstate hevent
      rw [hvariant] at hvariant'
      cases hvariant'
      rw [hvalue]
      cases hentered with
      | start hs => exact .inl ⟨s, hs, rfl⟩
      | @rule t ht hsource => exact .inr ⟨t, ht, mem_reachableStates_iff.2 hsource, rfl⟩
    · rintro (⟨s, hs, rfl⟩ | ⟨t, ht, hsource, rfl⟩)
      · obtain ⟨r, tag, hr, hvariant, -, hvalue⟩ :=
          hfollows.exists_of_entry hconforms hsound (.start hs)
        exact ⟨r, tag, hr, hvariant, hvalue⟩
      · obtain ⟨r, tag, hr, hvariant, -, hvalue⟩ :=
          hfollows.exists_of_entry hconforms hsound
            (.rule ht (mem_reachableStates_iff.1 hsource))
        exact ⟨r, tag, hr, hvariant, hvalue⟩
  case full =>
    intro hundoubted tag htag
    obtain ⟨w, hw, rfl⟩ := exists_variant_of_mem_tags hkind htag
    obtain ⟨r, tag, hr, hvariant, htag, hvalue⟩ :=
      hfollows.exists_of_entry hconforms hsound (hundoubted.entry hw)
    obtain ⟨w', -, rfl⟩ := exists_variant_of_mem_tags hkind htag
    have hsame : w'.tag = w.tag := hvalue.trans (Machine.variant_tag hw).symm
    exact ⟨r, hr, hsame ▸ hvariant⟩

/-! ## Guards that steer the search -/

/-- The guard of one event accepts, and those of all others refuse. There are no actions. -/
def choosingHooks (m : FsmCompiler.Machine) (load : Nat) (event : String) : Hooks :=
  Table.ofEntries (m.events.map fun e => ((m.classOf load e.name).id, answer e.name))
where
  /-- The hooks of the event `name`. -/
  answer (name : String) : HookPair :=
    ⟨some (some ⟨name, fun args => ⟨.ok (.bool (name == event)), args⟩⟩), some none⟩

variable {name event : String}

theorem own_choosingHooks (hname : name ∈ m.events.map (·.name)) :
    (choosingHooks m load event).own (m.classOf load name).id =
      choosingHooks.answer event name := by
  have hlabel : ∀ {name}, name ∈ m.events.map (·.name) → name ∈ m.labelNames :=
    fun hname => List.mem_append_right _ hname
  have hlookup : (choosingHooks m load event).lookup (m.classOf load name).id =
      some (choosingHooks.answer event name) := by
    obtain ⟨e, he, rfl⟩ := List.mem_map.1 hname
    refine Table.lookup_ofEntries (List.mem_map.2 ⟨e, he, rfl⟩) fun other hother => ?_
    obtain ⟨e', he', hentry⟩ := List.mem_map.1 hother
    obtain ⟨hid, rfl⟩ := Prod.mk.inj hentry
    have hindex : m.labelNames.idxOf e'.name = m.labelNames.idxOf e.name :=
      congrArg ClassId.index hid
    have hsame : e'.name = e.name :=
      (List.idxOf_inj (hlabel (List.mem_map.2 ⟨e', he', rfl⟩))).1 hindex
    rw [hsame]
  rw [Hooks.own, hlookup]
  rfl

theorem isEnabled_choosingHooks (hname : name ∈ m.events.map (·.name)) (args : List Datum) :
    isEnabled (choosingHooks m load event) (m.classOf load name) args =
      ⟨.ok (name == event), [⟨.guard, name, args⟩], args⟩ := by
  have hsaid : ((choosingHooks m load event).own (m.classOf load name).id).said .guard =
      (choosingHooks.answer event name).said .guard := by rw [own_choosingHooks hname]
  rw [isEnabled, Hooks.find?_of_said hsaid]
  rfl

theorem runAction_choosingHooks (hname : name ∈ m.events.map (·.name)) (args : List Datum) :
    runAction (choosingHooks m load event) (m.classOf load name) args = ⟨.ok (), [], args⟩ := by
  have hsaid : ((choosingHooks m load event).own (m.classOf load name).id).said .action =
      (choosingHooks.answer event name).said .action := by rw [own_choosingHooks hname]
  rw [runAction, Hooks.find?_of_said hsaid]
  rfl

/-- Hooks under which the guard of each event always gives the same answer and leaves what it is
given as it is. How an action ends depends on what it is given. -/
structure FixedHooks (m : FsmCompiler.Machine) (load : Nat) (hooks : Hooks)
    (enabled : String → Bool) (acted : String → List Datum → Except RunError Unit) : Prop where
  guard : ∀ name ∈ m.events.map (·.name), ∀ args,
    (isEnabled hooks (m.classOf load name) args).result = .ok (enabled name) ∧
      (isEnabled hooks (m.classOf load name) args).args = args
  action : ∀ name ∈ m.events.map (·.name), ∀ args,
    (runAction hooks (m.classOf load name) args).result = acted name args

theorem fixedHooks_choosingHooks :
    FixedHooks m load (choosingHooks m load event) (· == event) fun _ _ => .ok () where
  guard _ hname args := by
    rw [isEnabled_choosingHooks hname]
    exact ⟨rfl, rfl⟩
  action _ hname args := congrArg Outcome.result (runAction_choosingHooks hname args)

/-- What dispatching comes to if `event` is the first that is enabled: its action runs, and it
is followed. -/
def firing (r : RunningMachine) (c : LabelClass) (acted : Except RunError Unit) :
    Except RunError RunningVariant :=
  acted.bind fun _ => (r.follow (.label c)).bind RunningMachine.asVariant

section Search

variable {names : List String} {frame : Frame} {enabled : String → Bool}
  {acted : String → List Datum → Except RunError Unit}

/-- Asking a guard gives its answer, and nothing is different for those that are asked later. -/
theorem exists_ask_of_fixed (hhooks : FixedHooks m load frame.hooks enabled acted)
    (hname : name ∈ m.events.map (·.name)) :
    ∃ outcome : Outcome Bool,
      (Dispatch.ask (m.classOf load name)).runIn frame =
        (.ok (enabled name), frame.afterCall frame.module.code.guardResources outcome) ∧
      (frame.afterCall frame.module.code.guardResources outcome).argsOf
          frame.module.code.actionResources = frame.argsOf frame.module.code.actionResources := by
  obtain ⟨hanswer, hkept⟩ := hhooks.guard name hname
    (frame.argsOf frame.module.code.guardResources)
  refine ⟨_, ?_, Frame.argsOf_afterCall_of_kept hkept⟩
  rw [Dispatch.runIn_ask, hanswer]

/-- The search goes no further than an event that is enabled. -/
theorem firstEnabled_of_enabled (hhooks : FixedHooks m load frame.hooks enabled acted)
    (hname : name ∈ m.events.map (·.name)) (hclass : frame.event name = .ok (m.classOf load name))
    (henabled : enabled name = true) :
    ((Dispatch.firstEnabled r (name :: names)).runIn frame).1 =
      firing r (m.classOf load name)
        (acted name (frame.argsOf frame.module.code.actionResources)) := by
  obtain ⟨outcome, hask, hargs⟩ := exists_ask_of_fixed hhooks hname
  rw [henabled] at hask
  let next := frame.afterCall frame.module.code.guardResources outcome
  have hact := Dispatch.runIn_act next (m.classOf load name)
  rw [show next.hooks = frame.hooks from rfl, hhooks.action name hname,
    show next.module = frame.module from rfl, hargs] at hact
  cases hacted : acted name (frame.argsOf frame.module.code.actionResources) with
  | error e =>
    rw [hacted] at hact
    rw [Dispatch.runIn_firstEnabled_of_act_error hclass hask hact]
    rfl
  | ok =>
    rw [hacted] at hact
    rw [Dispatch.runIn_firstEnabled_of_accepted hclass hask hact]
    rfl

/-- The search comes to the first event that is enabled. The induction follows the search, which
leaves all values as they are and hides no more names. -/
theorem firstEnabled_of_fixed (r : RunningMachine) (frame : Frame)
    (hhooks : FixedHooks m load frame.hooks enabled acted)
    (hnames : ∀ name ∈ names, name ∈ m.events.map (·.name) ∧
      frame.event name = .ok (m.classOf load name) ∧
        compatible name ∉ frame.module.code.guardResources.map parameterOf) :
    ((Dispatch.firstEnabled r names).runIn frame).1 =
      match names.find? enabled with
      | none => r.asVariant
      | some event => firing r (m.classOf load event)
          (acted event (frame.argsOf frame.module.code.actionResources)) := by
  induction names generalizing frame with
  | nil => rfl
  | cons name names ih =>
    obtain ⟨hname, hclass, hfree⟩ := hnames name List.mem_cons_self
    cases henabled : enabled name with
    | true =>
      rw [List.find?_cons_of_pos henabled]
      exact firstEnabled_of_enabled hhooks hname hclass henabled
    | false =>
      obtain ⟨outcome, hask, hargs⟩ := exists_ask_of_fixed hhooks hname
      rw [henabled] at hask
      rw [List.find?_cons_of_neg (by simp [henabled]),
        Dispatch.runIn_firstEnabled_of_refused hclass hask, ← hargs]
      refine ih (frame.afterCall frame.module.code.guardResources outcome) hhooks
        fun other hother => ?_
      obtain ⟨hother, hclass, hfree⟩ := hnames other (List.mem_cons_of_mem _ hother)
      exact ⟨hother, (Frame.event_afterCall hfree).trans hclass, hfree⟩

end Search

/-! ## Runs of dispatching -/

/-- A guard is registered for each event. -/
def Guarded (m : FsmCompiler.Machine) (load : Nat) (hooks : Hooks) : Prop :=
  ∀ name ∈ m.events.map (·.name), ∃ guard,
    (hooks.own (m.classOf load name).id).guard = some (some guard)

theorem guarded_choosingHooks : Guarded m load (choosingHooks m load event) :=
  fun _ hname => ⟨_, congrArg HookPair.guard (own_choosingHooks hname)⟩

/-- Machines that come of starting a machine and dispatching on its variant, again and again,
whatever the guards answer. -/
inductive Dispatched (m : FsmCompiler.Machine) (module : LoadedModule) : RunningMachine → Prop
  | new {state r} (hnew : RunningMachine.new module.kind state = .ok r) : Dispatched m module r
  | step {r v hooks args v'} (hrun : Dispatched m module r) (hvariant : r.asVariant = .ok v)
      (hguarded : Guarded m module.load hooks)
      (hdispatch : (dispatch module hooks v args).result = .ok v') : Dispatched m module v'.machine

theorem Dispatched.live (hrun : Dispatched m module r) : Live module r := by
  induction hrun with
  | new hnew => exact .new hnew
  | step _ hvariant _ hdispatch ih => exact .dispatch ih hvariant hdispatch

/-- The names that the search reads mean themselves: as identifiers, the events of the rules
that a run can try are no local names of the dispatch function, no parameters and no resources
of guards, and the tags are no parameter. -/
structure SearchApart (m : FsmCompiler.Machine) (module : LoadedModule) : Prop where
  events : ∀ t ∈ m.transitions, Reaches m t.source.name →
    compatible t.event.name ∉ Validation.dispatchNames ∧
      compatible t.event.name ∉ module.params ∧
      compatible t.event.name ∉ m.guardResources.map parameterOf
  tags : m.initialNames ≠ [] → tagTypeName ∉ module.params

/-- With one parameter for each resource, it is enough that the names of the dispatch function
stay apart. -/
theorem DispatchApart.searchApart (hdispatch : DispatchApart m) (hparams : ResourceParams module)
    (hcode : module.code = m.compile source) : SearchApart m module := by
  have hresources : module.params = (m.guardResources ++ m.actionResources).map parameterOf := by
    rw [hparams, hcode]
    rfl
  constructor
  case events =>
    intro t ht hsource
    obtain ⟨hfree, hapart⟩ := hdispatch.events t ht hsource
    refine ⟨hfree, hresources ▸ hapart, fun hguard => hapart ?_⟩
    rw [List.map_append]
    exact List.mem_append_left _ hguard
  case tags =>
    intro hne
    exact hresources ▸ hdispatch.tags hne

/-- Where the tags mean themselves, dispatching searches the events of the rules that leave the
state. -/
theorem dispatch_of_visible {w : Variant} {v : RunningVariant} {hooks : Hooks} {args : List Datum}
    (hapart : NamesApart m) (hload : LoadedModule.ofMachine (load + 1) m source = .ok module)
    (hw : AtVariant m module w v.machine) (hvariant : v.machine.asVariant = .ok v)
    (htags : tagTypeName ∉ module.params) (hargs : module.params.length = args.length) :
    (dispatch module hooks v args).result =
      ((Dispatch.firstEnabled v.machine ((m.transitionsFrom w.state.name).map (·.event.name))).runIn
        (Frame.starting module hooks v args)).1 := by
  let start := Frame.starting module hooks v args
  have hvisible : Dispatch.TagsVisible start := by
    refine .inr (Frame.localType?_eq_none_iff.2 ?_)
    rw [show start.values.keys = module.params from Frame.keys_zip hargs, compatible_tagTypeName]
    exact ⟨by decide, htags⟩
  have hbranch := branch?_of_tag hload hw.declared
    (hw.tag (loadedFrom_of_ofMachine hload).load (kind_of_ofMachine hapart hload) hvariant)
  have hrun := Dispatch.runIn_run_of_tagsVisible hvisible
  rw [show Dispatch.branch? start.module start.variant.tag = _ from hbranch] at hrun
  rw [dispatch_of_length hargs]
  exact congrArg Prod.fst hrun

/-- Dispatching under fixed hooks follows the first enabled event of the rules that leave the
state, and stays if none is. -/
theorem dispatch_of_fixed {w : Variant} {v : RunningVariant} {hooks : Hooks}
    {enabled : String → Bool} {acted : String → List Datum → Except RunError Unit}
    {args : List Datum} (hapart : NamesApart m)
    (hload : LoadedModule.ofMachine (load + 1) m source = .ok module)
    (hsearch : SearchApart m module) (hw : AtVariant m module w v.machine)
    (hvariant : v.machine.asVariant = .ok v) (hreaches : Reaches m w.state.name)
    (hhooks : FixedHooks m module.load hooks enabled acted)
    (hargs : module.params.length = args.length) :
    (dispatch module hooks v args).result =
      match ((m.transitionsFrom w.state.name).map (·.event.name)).find? enabled with
      | none => .ok v
      | some event => firing v.machine (m.classOf module.load event)
          (acted event ((Frame.starting module hooks v args).argsOf m.actionResources)) := by
  obtain ⟨hvalid, hcode, hglobals, -⟩ := loadedFrom_of_ofMachine hload
  let start := Frame.starting module hooks v args
  have hkeys : start.values.keys = module.params := Frame.keys_zip hargs
  have hnames : ∀ name ∈ (m.transitionsFrom w.state.name).map (·.event.name),
      name ∈ m.events.map (·.name) ∧ start.event name = .ok (m.classOf module.load name) ∧
        compatible name ∉ start.module.code.guardResources.map parameterOf := by
    intro name hname
    obtain ⟨u, hu, rfl⟩ := List.mem_map.1 hname
    obtain ⟨hmem, hsource⟩ := List.mem_filter.1 hu
    obtain ⟨hfree, hparams, hguards⟩ :=
      hsearch.events u hmem ((beq_iff_eq.1 hsource).symm ▸ hreaches)
    have hlocal : start.localType? u.event.name = none :=
      Frame.localType?_eq_none_iff.2 ⟨hfree, hkeys ▸ hparams⟩
    have howns : start.module.globals.find? u.event.name =
        some (m.classOf module.load u.event.name) := by
      rw [show start.module.globals = _ from hglobals]
      exact (distinctLabels_iff hvalid).1 hapart.distinct _ (Machine.event_mem_labelNames hmem)
    refine ⟨Machine.event_mem_events hmem, Frame.event_eq_ok_iff.2 ⟨hlocal, howns⟩, ?_⟩
    rw [show start.module.code = _ from hcode]
    exact hguards
  have hsearched := firstEnabled_of_fixed v.machine start hhooks hnames
  rw [hvariant, show start.module.code.actionResources = m.actionResources from
    congrArg CompiledModule.actionResources hcode] at hsearched
  exact (dispatch_of_visible hapart hload hw hvariant (hsearch.tags hreaches.initialNames_ne_nil)
    hargs).trans hsearched

/-- Guards that let the event of a rule happen steer dispatching to that rule. -/
theorem dispatch_of_choosing {w : Variant} {t : Transition} {v : RunningVariant}
    {args : List Datum} (hapart : NamesApart m)
    (hload : LoadedModule.ofMachine (load + 1) m source = .ok module)
    (hsearch : SearchApart m module) (hw : AtVariant m module w v.machine)
    (hvariant : v.machine.asVariant = .ok v)
    (hreaches : Reaches m w.state.name) (ht : t ∈ m.transitionsFrom w.state.name)
    (hargs : module.params.length = args.length) :
    (dispatch module (choosingHooks m module.load t.event.name) v args).result =
      (v.machine.follow (.label (m.classOf module.load t.event.name))).bind
        RunningMachine.asVariant := by
  have hfound : ((m.transitionsFrom w.state.name).map (·.event.name)).find?
      (· == t.event.name) = some t.event.name := by
    cases hfind : ((m.transitionsFrom w.state.name).map (·.event.name)).find?
        (· == t.event.name) with
    | none => exact absurd (List.find?_eq_none.1 hfind _ (List.mem_map.2 ⟨t, ht, rfl⟩)) (by simp)
    | some event =>
      have hevent := List.find?_some hfind
      simp only [beq_iff_eq] at hevent
      rw [hevent]
  rw [dispatch_of_fixed hapart hload hsearch hw hvariant hreaches fixedHooks_choosingHooks hargs,
    hfound]
  rfl

/-- Dispatching goes on along each rule that leaves the state. -/
theorem Dispatched.exists_next {t : Transition} (hapart : NamesApart m)
    (hload : LoadedModule.ofMachine (load + 1) m source = .ok module)
    (hsearch : SearchApart m module) (ht : t ∈ m.transitions) (hrun : Dispatched m module r)
    (hstate : InState m module t.source.name r) :
    ∃ r', Dispatched m module r' ∧ InState m module t.target.name r' ∧
      EnteredBy m module.load r' (some t.event.name) := by
  have hkind := kind_of_ofMachine hapart hload
  obtain ⟨hvalid, -, -, hmodule⟩ := loadedFrom_of_ofMachine hload
  obtain ⟨w, hw⟩ := hrun.live.reached.exists_atVariant hvalid hmodule hkind
  obtain ⟨s, hs, hreaches⟩ := hrun.live.reached.reaches hvalid hkind
  obtain rfl := hstate.unique hs
  have hsource := hw.state.unique hstate
  have htaken : t ∈ m.transitionsFrom t.source.name :=
    List.mem_filter.2 ⟨ht, beq_self_eq_true _⟩
  obtain ⟨r', tag, hnext, hstate', hentered, -⟩ :=
    exists_variant_of_rule hvalid hmodule hkind htaken hstate
  let v : RunningVariant := ⟨.member (tagOf module.load (globalsOf m module.load) w.tag), r⟩
  have hvariant : v.machine.asVariant = .ok v := hw.asVariant hmodule hkind
  let args : List Datum := module.params.map fun _ => .null
  have hdispatch : (dispatch module (choosingHooks m module.load t.event.name) v args).result =
      .ok ⟨.member tag, r'⟩ :=
    (dispatch_of_choosing hapart hload hsearch hw hvariant (hsource ▸ hreaches)
      (hsource ▸ htaken) (by simp [args])).trans hnext
  exact ⟨r', .step hrun hvariant guarded_choosingHooks hdispatch, hstate', hentered⟩

/-- Runs come to what the declarations say. Where names stay apart, the runs of a loaded
module come to the states that the search finds, with the tags of the initial states and of
the rules that leave such states; without doubts about where runs start and what they reach,
they come to every tag. It is the same for runs that follow events and for runs that dispatch
with guards for all events. -/
theorem covers_of_namesApart (hapart : NamesApart m)
    (hload : LoadedModule.ofMachine (load + 1) m source = .ok module) :
    Covers m module (Reached module.kind) ∧
      (SearchApart m module → Covers m module (Dispatched m module)) := by
  have hconforms := conforms_of_namesApart hapart hload
  have hkind := kind_of_ofMachine hapart hload
  obtain ⟨hvalid, -, -, hmodule⟩ := loadedFrom_of_ofMachine hload
  have hnew : ∀ s ∈ m.initialNames, ∃ r,
      RunningMachine.new module.kind (.label (m.classOf module.load s)) = .ok r ∧
        InState m module s r ∧ EnteredBy m module.load r none :=
    fun s hs => hconforms.starts s hs _ rfl
  constructor
  · refine FollowsRules.covers ⟨?_, ?_⟩ hconforms hvalid hmodule hkind fun r hr => hr
    · intro s hs
      obtain ⟨r, hr, hstate, hentered⟩ := hnew s hs
      exact ⟨r, .new hr, hstate, hentered⟩
    · intro t ht r hr hstate
      obtain ⟨-, r', hfollow, hstate', hentered⟩ :=
        hconforms.follows t ht r hstate (.label (m.classOf module.load t.event.name)) rfl
      exact ⟨r', .follow hr hfollow, hstate', hentered⟩
  · intro hsearch
    refine FollowsRules.covers ⟨?_, ?_⟩ hconforms hvalid hmodule hkind fun r hr =>
      hr.live.reached
    · intro s hs
      obtain ⟨r, hr, hstate, hentered⟩ := hnew s hs
      exact ⟨r, .new hr, hstate, hentered⟩
    · exact fun t ht r hr hstate => hr.exists_next hapart hload hsearch ht hstate

/-- All tags of a machine with a guarded rule are produced. -/
theorem guarded_covers :
    ∃ module, LoadedModule.ofMachine 1 (guardedRule "n" 47) none = .ok module ∧
      Covers (guardedRule "n" 47) module (Reached module.kind) ∧
      Covers (guardedRule "n" 47) module (Dispatched (guardedRule "n" 47) module) := by
  obtain ⟨module, hload, hparams, -⟩ := exists_loaded_numbered
  have hsearch := dispatchApart_numbered.searchApart hparams (loadedFrom_of_ofMachine hload).code
  obtain ⟨hreached, hdispatched⟩ := covers_of_namesApart namesApart_numbered hload
  exact ⟨module, hload, hreached, hdispatched hsearch⟩

/-! ## Targets that are not reached -/

/-- Where the table of transitions has no classes for targets, machines stay where they have
started. -/
theorem Reached.started_of_no_target {kind : MachineClass}
    (htable : ∀ entry ∈ kind.transitions, ∀ c, entry.2 ≠ .label c) (hreached : Reached kind r) :
    ∃ c, .label c ∈ kind.initialStates ∧ r = ⟨kind, .label c, .label .noEvent, 0, []⟩ := by
  induction hreached with
  | new hnew =>
    unfold RunningMachine.new at hnew
    split at hnew
    · split at hnew
      · rename_i c _ hmem
        cases hnew
        exact ⟨c, hmem.2, rfl⟩
      · cases hnew
    · cases hnew
  | follow _ hfollow ih =>
    obtain ⟨c, -, rfl⟩ := ih
    rw [follow_of_no_slots rfl] at hfollow
    split at hfollow
    · rename_i target hlookup
      obtain ⟨key, -, hlookup⟩ := Option.bind_eq_some_iff.1 hlookup
      obtain ⟨before, after, hentry, -⟩ := List.lookup_eq_some_iff.1 hlookup
      cases htarget : RunningMachine.targetClass target with
      | error e => simp [htarget, Except.map] at hfollow
      | ok c' =>
        have hmem : (key, target) ∈ kind.transitions := hentry ▸ by simp
        exact absurd (targetClass_eq_ok_iff.1 htarget) (htable _ hmem c')
    · cases hfollow

/-- The search finds the target, which as an identifier is the name of the machine in the class
of the machine: no run comes to it. -/
theorem hidden_target_not_reached :
    ∃ module, LoadedModule.ofMachine 1 (oneRule "A" "Go" "nªme") none = .ok module ∧
      (∀ name ∈ (oneRule "A" "Go" "nªme").labelNames,
        name ∉ ["name", "initial_states", "transitions", "str", "variant", "tag", "machine"]) ∧
      "nªme" ∈ (oneRule "A" "Go" "nªme").reachableStates.map (·.name) ∧
      ¬ ∃ r, Reached module.kind r ∧ InState (oneRule "A" "Go" "nªme") module "nªme" r := by
  let m := oneRule "A" "Go" "nªme"
  obtain ⟨module, hload, hinitial, htransitions⟩ := exists_loaded_hidden "nªme"
    (by decide +kernel) (by decide +kernel) (by decide +kernel) (by decide +kernel)
  have hfound : Reaches m "nªme" :=
    .rule (show ⟨⟨"Go", none⟩, ⟨"A", none⟩, ⟨"nªme", none⟩, none⟩ ∈ m.transitions from
      List.mem_singleton.2 rfl) (.initial (List.mem_singleton.2 rfl))
  refine ⟨module, hload, by decide +kernel, mem_reachableStates_iff.2 hfound, ?_⟩
  rintro ⟨r, hreached, hstate⟩
  have htable : ∀ entry ∈ module.kind.transitions, ∀ c, entry.2 ≠ .label c := by
    rw [htransitions]
    simp [hiddenTable]
  obtain ⟨c, hc, rfl⟩ := hreached.started_of_no_target htable
  have hclass : c = m.classOf module.load "nªme" := Value.label.inj hstate.state
  rw [hinitial, List.mem_singleton, Meaning.label.injEq, hclass] at hc
  have hname : "nªme" = "A" := congrArg LabelClass.name hc
  exact absurd hname (by decide)

end Running

end FsmCompiler
