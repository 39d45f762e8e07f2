/-
# Hooks of event classes

Over all that an application does, the hook of an event class is what was last set on the class
itself, none if it was cleared since, and that of the class it builds on if neither was ever done.
Classes are told apart by their numbers, of which a load or a definition takes new ones, so that
what is done on a class shows on it and on the classes that build on it and nowhere else.
-/

import FsmCompiler.Proofs.LoadedTexts
import FsmCompiler.Running.EventClass

namespace FsmCompiler

theorem Table.mem_insert [BEq κ] [LawfulBEq κ] {key : κ} {value : α} {table : Table κ α}
    {entry : κ × α} (hentry : entry ∈ insert key value table) :
    entry = (key, value) ∨ entry ∈ table := by
  induction table with
  | nil => simpa [insert] using hentry
  | cons first rest ih =>
    unfold insert at hentry
    split at hentry
    · rename_i hkey
      rcases List.mem_cons.1 hentry with rfl | hrest
      · exact .inl (by rw [eq_of_beq hkey])
      · exact .inr (List.mem_cons_of_mem _ hrest)
    · rcases List.mem_cons.1 hentry with rfl | hrest
      · exact .inr List.mem_cons_self
      · exact (ih hrest).imp_right (List.mem_cons_of_mem _)

theorem Table.mem_ofEntries [BEq κ] [LawfulBEq κ] {entries : List (κ × α)} {entry : κ × α}
    (hentry : entry ∈ ofEntries entries) : entry ∈ entries := by
  induction entries using List.reverseRecOn with
  | nil => cases hentry
  | append_singleton entries last ih =>
    rw [ofEntries_append_singleton] at hentry
    rcases mem_insert hentry with rfl | hbefore
    · simp
    · simp [ih hbefore]

namespace Running

variable {hooks : Hooks} {role : HookRole} {id other : ClassId} {hook : Hook} {e : EventClass}
  {c : LabelClass} {m : FsmCompiler.Machine} {load : Nat} {source : Option String}

/-! ## Hooks of one class -/

namespace Hooks

theorem own_insert (pair : HookPair) :
    own (Table.insert id pair hooks) other = if other = id then pair else hooks.own other := by
  rw [own, Table.lookup_insert]
  by_cases hid : other = id
  · simp [hid]
  · simp [hid, own]

/-- Setting a hook of a class changes nothing else. -/
theorem said_register (use : HookRole) :
    ((hooks.register role id hook).own other).said use =
      if other = id ∧ use = role then some (some hook) else (hooks.own other).said use := by
  unfold register
  rw [own_insert]
  by_cases hid : other = id
  · subst hid
    cases role <;> cases use <;> simp [HookPair.said]
  · simp [hid]

/-- Clearing a class takes both of its hooks, and no others. -/
theorem said_clear (use : HookRole) :
    ((hooks.clear id).own other).said use =
      if other = id then some none else (hooks.own other).said use := by
  rw [clear, own_insert]
  split
  · cases use <;> rfl
  · rfl

end Hooks

/-- For an event class of a module and for the one that all build on, the hook looked up along the
classes is the one that the module runs with. -/
theorem EventClass.find?_eq (hid : c.id ≠ LabelClass.event.id) :
    (EventClass.derived c .base).find? hooks role = hooks.find? role c.id ∧
      EventClass.base.find? hooks role = hooks.find? role LabelClass.event.id := by
  rw [Hooks.find?, Hooks.find?, if_neg hid, if_pos rfl]
  exact ⟨rfl, rfl⟩

theorem EventClass.isEnabled_derived (hid : c.id ≠ LabelClass.event.id) (args : List Datum) :
    (EventClass.derived c .base).isEnabled hooks args = Running.isEnabled hooks c args ∧
      (EventClass.derived c .base).runAction hooks args = Running.runAction hooks c args := by
  constructor
  · rw [EventClass.isEnabled, (EventClass.find?_eq hid).1]
    rfl
  · rw [EventClass.runAction, (EventClass.find?_eq hid).1]
    rfl

/-! ## What was done -/

/-- The operations that led to an application, the latest first. Each was done on a class that there
was. -/
inductive History : List Operation → Application → Prop
  | start : History [] .start
  | step {earlier : List Operation} {app : Application} (op : Operation)
      (hearlier : History earlier app) (hthere : ∀ on ∈ op.class?, on ∈ app.events) :
      History (op :: earlier) (app.perform op)

/-- What an operation settles about a hook of a class, if anything: the one that it sets, or that
there is none if it clears. -/
def Operation.settles (role : HookRole) (e : EventClass) : Operation → Option (Option Hook)
  | .register use on hook => if use = role ∧ on = e then some (some hook) else none
  | .clear on => if on = e then some none else none
  | .load _ _ | .loadMachine _ _ | .define _ _ _ => none

/-- What was last settled about a hook of the class itself. -/
def lastSettled (role : HookRole) (e : EventClass) : List Operation → Option (Option Hook)
  | [] => none
  | op :: earlier => (op.settles role e).or (lastSettled role e earlier)

/-- The hook in effect for a class: what was last settled about its own, or else the one in effect
for the class it builds on. -/
def EventClass.inEffect (role : HookRole) (history : List Operation) : EventClass → Option Hook
  | .base => (lastSettled role .base history).getD none
  | .derived c on => (lastSettled role (.derived c on) history).getD (on.inEffect role history)

variable {history : List Operation} {app : Application} {op : Operation} {on : EventClass}
  {modules : List LoadedModule} {machines : List FsmCompiler.Machine}

/-- An application keeps track of what was done: its classes have numbers of their own, no larger
than the number of loads, and what is set on a class is what was last settled about it. -/
structure Tracks (history : List Operation) (app : Application) : Prop where
  apart : ∀ a ∈ app.events, ∀ b ∈ app.events, a.id = b.id → a = b
  numbered : ∀ e ∈ app.events, e.id.load ≤ app.loads
  root : .base ∈ app.events
  closed : ∀ c on, .derived c on ∈ app.events → on ∈ app.events
  said : ∀ role, ∀ e ∈ app.events, (app.hooks.own e.id).said role = lastSettled role e history
  unsaid : ∀ role e, e ∉ app.events → lastSettled role e history = none
  untouched : ∀ role id, app.loads < id.load → (app.hooks.own id).said role = none

theorem Tracks.start : Tracks [] .start where
  apart := by decide
  numbered := by decide
  root := by decide
  closed c on hmem := by
    simp only [Application.start, List.mem_cons, reduceCtorEq, EventClass.derived.injEq,
      List.not_mem_nil, or_false, false_or] at hmem
    rw [hmem.2]
    decide
  said role e he := by cases role <;> rfl
  unsaid _ _ _ := rfl
  untouched role _ _ := by cases role <;> rfl

/-- What is settled about the classes that there are is set on them. -/
theorem Tracks.set (htracks : Tracks history app) {hooks : Hooks}
    (hsettles : ∀ role e, e ∉ app.events → op.settles role e = none)
    (hset : ∀ role, ∀ e ∈ app.events, (hooks.own e.id).said role =
      (op.settles role e).or ((app.hooks.own e.id).said role))
    (hother : ∀ role id, app.loads < id.load →
      (hooks.own id).said role = (app.hooks.own id).said role) :
    Tracks (op :: history) { app with hooks := hooks } where
  apart := htracks.apart
  numbered := htracks.numbered
  root := htracks.root
  closed := htracks.closed
  said role e he := by
    rw [hset role e he, htracks.said role e he, lastSettled]
  unsaid role e he := by
    rw [lastSettled, hsettles role e he, htracks.unsaid role e he, Option.or_none]
  untouched role id hid := (hother role id hid).trans (htracks.untouched role id hid)

/-- New classes have new numbers and build on those that there are. -/
theorem Tracks.add (htracks : Tracks history app) (hsettles : ∀ role e, op.settles role e = none)
    {made : List EventClass} {count : Nat}
    (hapart : ∀ a ∈ made, ∀ b ∈ made, a.id = b.id → a = b)
    (hnumbered : ∀ e ∈ made, app.loads < e.id.load ∧ e.id.load ≤ app.loads + count)
    (hclosed : ∀ c on, .derived c on ∈ made → on ∈ app.events) :
    Tracks (op :: history) ⟨app.hooks, app.loads + count, app.events ++ made⟩ := by
  have hnew : ∀ a ∈ app.events, ∀ b ∈ made, a.id ≠ b.id := by
    intro a ha b hb hid
    have hold := htracks.numbered a ha
    have hlater := (hnumbered b hb).1
    rw [hid] at hold
    omega
  have hsame : ∀ role e, lastSettled role e (op :: history) = lastSettled role e history := by
    intro role e
    rw [lastSettled, hsettles, Option.none_or]
  constructor
  · intro a ha b hb hid
    rcases List.mem_append.1 ha with ha | ha <;> rcases List.mem_append.1 hb with hb | hb
    · exact htracks.apart a ha b hb hid
    · exact absurd hid (hnew a ha b hb)
    · exact absurd hid.symm (hnew b hb a ha)
    · exact hapart a ha b hb hid
  · intro e he
    rcases List.mem_append.1 he with he | he
    · exact Nat.le_add_right_of_le (htracks.numbered e he)
    · exact (hnumbered e he).2
  · exact List.mem_append_left _ htracks.root
  · intro c on hmem
    rcases List.mem_append.1 hmem with hmem | hmem
    · exact List.mem_append_left _ (htracks.closed c on hmem)
    · exact List.mem_append_left _ (hclosed c on hmem)
  · intro role e he
    rw [hsame]
    rcases List.mem_append.1 he with he | he
    · exact htracks.said role e he
    · rw [htracks.untouched role e.id (hnumbered e he).1, htracks.unsaid role e]
      exact fun hold => hnew e hold e he rfl
  · intro role e he
    rw [hsame, htracks.unsaid role e fun hold => he (List.mem_append_left _ hold)]
  · intro role id hid
    exact htracks.untouched role id (Nat.lt_of_le_of_lt (Nat.le_add_right _ _) hid)

/-! ## The classes of modules -/

/-- The events of a module are labels of its machine. -/
theorem exists_of_mem_events {module : LoadedModule}
    (hload : LoadedModule.ofMachine load m source = .ok module) (hc : c ∈ module.events) :
    ∃ name ∈ m.labelNames, c = m.classOf load name := by
  obtain ⟨hvalid, doc, signature, kind, -, -, rfl⟩ := ofMachine_eq_ok_iff.1 hload
  obtain ⟨name, -, hname⟩ := List.mem_filterMap.1 hc
  obtain ⟨label, hlabel, -, hclass⟩ := exists_of_lookup_globalsOf hvalid hname
  exact ⟨label, hlabel, hclass⟩

/-- Each module is that of a machine, loaded under the number it has among the others. -/
def LoadedAmong (load : Nat) (source : Option String) (machines : List FsmCompiler.Machine)
    (modules : List LoadedModule) : Prop :=
  ∀ module ∈ modules, ∃ i m, machines[i]? = some m ∧
    LoadedModule.ofMachine (load + i) m source = .ok module

theorem loadedAmong_nil (source : Option String) : LoadedAmong load source machines [] :=
  fun _ hmodule => by cases hmodule

theorem loadedAmong_singleton {module : LoadedModule}
    (hload : LoadedModule.ofMachine load m source = .ok module) :
    LoadedAmong load source [m] [module] := by
  intro other hother
  rw [List.mem_singleton.1 hother]
  exact ⟨0, m, rfl, hload⟩

theorem loadedAmong_of_ofMachines {table : Table String LoadedModule}
    (htable : LoadedModule.ofMachines load source machines = .ok table) :
    LoadedAmong load source machines (table.map (·.2)) := by
  obtain ⟨modules, hmodules, rfl⟩ := ofMachines_eq_ok_iff.1 htable
  intro module hmodule
  obtain ⟨⟨name, module⟩, hentry, rfl⟩ := List.mem_map.1 hmodule
  obtain ⟨i, hi⟩ := List.mem_iff_getElem?.1 (List.of_mem_zip (Table.mem_ofEntries hentry)).2
  obtain ⟨hlength, -⟩ := List.getElem?_eq_some_iff.1 hi
  rw [hmodules.length_eq] at hlength
  obtain ⟨found, hfound, hload⟩ := hmodules.getElem? (List.getElem?_eq_getElem hlength)
  obtain rfl : found = module := Option.some.inj (hfound.symm.trans hi)
  exact ⟨i, _, List.getElem?_eq_getElem hlength, hload⟩

/-- A class of the modules is that of a label of a machine, under the number of its load. -/
theorem LoadedAmong.exists_class (hmodules : LoadedAmong load source machines modules)
    (he : e ∈ modules.flatMap (·.eventClasses)) :
    ∃ (i : Nat) (m : FsmCompiler.Machine), machines[i]? = some m ∧
      ∃ name ∈ m.labelNames, e = .derived (m.classOf (load + i) name) .base := by
  obtain ⟨module, hmodule, hclass⟩ := List.mem_flatMap.1 he
  obtain ⟨c, hc, rfl⟩ := List.mem_map.1 hclass
  obtain ⟨i, m, hm, hload⟩ := hmodules module hmodule
  obtain ⟨name, hname, rfl⟩ := exists_of_mem_events hload hc
  exact ⟨i, m, hm, name, hname, rfl⟩

theorem LoadedAmong.lt_number (hmodules : LoadedAmong (load + 1) source machines modules)
    (he : e ∈ modules.flatMap (·.eventClasses)) : load < e.id.load := by
  obtain ⟨i, m, -, name, -, rfl⟩ := hmodules.exists_class he
  exact Nat.lt_of_lt_of_le (Nat.lt_succ_self _) (Nat.le_add_right _ i)

theorem LoadedAmong.apart (hmodules : LoadedAmong load source machines modules) :
    ∀ a ∈ modules.flatMap (·.eventClasses), ∀ b ∈ modules.flatMap (·.eventClasses),
      a.id = b.id → a = b := by
  intro a ha b hb hid
  obtain ⟨i, m, hm, name, hname, rfl⟩ := hmodules.exists_class ha
  obtain ⟨j, m', hm', name', hname', rfl⟩ := hmodules.exists_class hb
  obtain ⟨hload, hindex⟩ := ClassId.mk.inj hid
  obtain rfl : i = j := Nat.add_left_cancel hload
  obtain rfl : m = m' := Option.some.inj (hm.symm.trans hm')
  rw [(List.idxOf_inj hname).1 hindex]

theorem Tracks.withModules (htracks : Tracks history app)
    (hsettles : ∀ role e, op.settles role e = none)
    (hmodules : LoadedAmong (app.loads + 1) source machines modules) :
    Tracks (op :: history) (app.withModules machines.length modules) := by
  refine htracks.add hsettles hmodules.apart (fun e he => ⟨hmodules.lt_number he, ?_⟩)
    fun c on hmem => ?_
  · obtain ⟨i, m, hm, name, -, rfl⟩ := hmodules.exists_class he
    obtain ⟨hi, -⟩ := List.getElem?_eq_some_iff.1 hm
    have hnumber : (EventClass.derived (m.classOf (app.loads + 1 + i) name) .base).id.load =
        app.loads + 1 + i := rfl
    omega
  · obtain ⟨i, m, -, name, -, heq⟩ := hmodules.exists_class hmem
    obtain ⟨-, rfl⟩ := EventClass.derived.inj heq
    exact htracks.root

/-- A class that there is has no number that is still to be taken. -/
theorem Tracks.ne_of_lt (htracks : Tracks history app) (he : e ∈ app.events)
    (hid : app.loads < id.load) : id ≠ e.id := by
  rintro rfl
  exact Nat.not_lt_of_le (htracks.numbered e he) hid

theorem Tracks.id_eq_iff (htracks : Tracks history app) (he : e ∈ app.events)
    (hon : on ∈ app.events) : e.id = on.id ↔ on = e :=
  ⟨fun hid => htracks.apart on hon e he hid.symm, fun heq => by rw [heq]⟩

theorem Tracks.register (htracks : Tracks history app) (hon : on ∈ app.events) (use : HookRole)
    (hook : Hook) :
    Tracks (.register use on hook :: history) (app.perform (.register use on hook)) := by
  refine htracks.set (fun role e he => ?_) (fun role e he => ?_) fun role id hid => ?_
  · rw [Operation.settles, if_neg]
    rintro ⟨-, rfl⟩
    exact he hon
  · simp only [Hooks.said_register, htracks.id_eq_iff he hon, Operation.settles]
    by_cases hsame : on = e ∧ role = use
    · rw [if_pos hsame, if_pos ⟨hsame.2.symm, hsame.1⟩, Option.some_or]
    · rw [if_neg hsame, if_neg fun h => hsame ⟨h.2, h.1.symm⟩, Option.none_or]
  · rw [Hooks.said_register, if_neg fun h => htracks.ne_of_lt hon hid h.1]

theorem Tracks.clear (htracks : Tracks history app) (hon : on ∈ app.events) :
    Tracks (.clear on :: history) (app.perform (.clear on)) := by
  refine htracks.set (fun role e he => ?_) (fun role e he => ?_) fun role id hid => ?_
  · rw [Operation.settles, if_neg]
    rintro rfl
    exact he hon
  · simp only [Hooks.said_clear, htracks.id_eq_iff he hon, Operation.settles]
    split
    · rw [Option.some_or]
    · rw [Option.none_or]
  · rw [Hooks.said_clear, if_neg (htracks.ne_of_lt hon hid)]

theorem Tracks.define (htracks : Tracks history app) (hon : on ∈ app.events)
    (machine name : String) :
    Tracks (.define machine name on :: history) (app.perform (.define machine name on)) := by
  refine htracks.add (fun _ _ => rfl) ?_ ?_ ?_
  · intro a ha b hb _
    rw [List.mem_singleton.1 ha, List.mem_singleton.1 hb]
  · intro e he
    rw [List.mem_singleton.1 he]
    exact ⟨Nat.lt_succ_self _, Nat.le_refl _⟩
  · intro c other hmem
    obtain ⟨-, rfl⟩ := EventClass.derived.inj (List.mem_singleton.1 hmem)
    exact hon

/-- Whatever is done, the application keeps track of it. -/
theorem Tracks.step (htracks : Tracks history app) (hthere : ∀ on ∈ op.class?, on ∈ app.events) :
    Tracks (op :: history) (app.perform op) := by
  cases op with
  | register use on hook => exact htracks.register (hthere on rfl) use hook
  | clear on => exact htracks.clear (hthere on rfl)
  | define machine name on => exact htracks.define (hthere on rfl) machine name
  | load file text =>
    unfold Application.perform
    dsimp only
    split
    · exact htracks.set (fun _ _ _ => rfl) (fun _ _ _ => Option.none_or.symm) fun _ _ _ => rfl
    · split
      · exact htracks.withModules (fun _ _ => rfl) (loadedAmong_nil none)
      · rename_i modules hmodules
        exact htracks.withModules (fun _ _ => rfl) (loadedAmong_of_ofMachines hmodules)
  | loadMachine m source =>
    unfold Application.perform
    dsimp only
    split
    · have hnone : LoadedAmong (app.loads + 1) source [m] [] := loadedAmong_nil source
      exact htracks.withModules (fun _ _ => rfl) hnone
    · rename_i module hmodule
      exact htracks.withModules (fun _ _ => rfl) (loadedAmong_singleton hmodule)

theorem History.tracks (hhistory : History history app) : Tracks history app := by
  induction hhistory with
  | start => exact .start
  | step op _ hthere ih => exact ih.step hthere

/-! ## What a class does -/

/-- The hook that is looked up is the one in effect. -/
theorem Tracks.find?_eq (htracks : Tracks history app) (he : e ∈ app.events) (role : HookRole) :
    e.find? app.hooks role = e.inEffect role history := by
  induction e with
  | base =>
    rw [EventClass.inEffect, ← htracks.said role .base he]
    rfl
  | derived c on ih =>
    rw [EventClass.inEffect, ← ih (htracks.closed c on he),
      ← htracks.said role (.derived c on) he]
    rfl

/-- What is not done on a class or on one that it builds on leaves its hooks in effect. -/
theorem EventClass.inEffect_cons (hsettles : ∀ on ∈ e.line, op.settles role on = none) :
    e.inEffect role (op :: history) = e.inEffect role history := by
  induction e with
  | base =>
    rw [EventClass.inEffect, EventClass.inEffect, lastSettled,
      hsettles .base (by simp [EventClass.line]), Option.none_or]
  | derived c on ih =>
    rw [EventClass.inEffect, EventClass.inEffect, lastSettled,
      hsettles (.derived c on) (by simp [EventClass.line]), Option.none_or,
      ih fun other hother => hsettles other (by simp [EventClass.line, hother])]

/-- What is added has new numbers. -/
theorem Application.exists_made (app : Application) (op : Operation) :
    ∃ made, (app.perform op).events = app.events ++ made ∧ ∀ e ∈ made, app.loads < e.id.load := by
  have hnothing : ∀ e ∈ ([] : List EventClass), app.loads < e.id.load := fun _ he => by cases he
  cases op with
  | register use on hook => exact ⟨[], (List.append_nil _).symm, hnothing⟩
  | clear on => exact ⟨[], (List.append_nil _).symm, hnothing⟩
  | define machine name on =>
    refine ⟨_, rfl, fun e he => ?_⟩
    rw [List.mem_singleton.1 he]
    exact Nat.lt_succ_self _
  | load file text =>
    unfold Application.perform
    dsimp only
    split
    · exact ⟨[], (List.append_nil _).symm, hnothing⟩
    · split
      · exact ⟨[], rfl, hnothing⟩
      · rename_i modules hmodules
        exact ⟨_, rfl, fun e he => (loadedAmong_of_ofMachines hmodules).lt_number he⟩
  | loadMachine m source =>
    unfold Application.perform
    dsimp only
    split
    · exact ⟨[], rfl, hnothing⟩
    · rename_i module hmodule
      exact ⟨_, rfl, fun e he => (loadedAmong_singleton hmodule).lt_number he⟩

/-- In every application, a class asks the guard and runs the action that are in effect for it after
what was done; for the classes of modules these are the ones that the modules ask and run. Whatever
is done next, the classes that it adds are new, and a class goes on as before if nothing is settled
about it and those that it builds on. -/
theorem hooks_isolated (hhistory : History history app) :
    (∀ e ∈ app.events, ∀ args,
      e.isEnabled app.hooks args = askGuard e.label (e.inEffect .guard history) args ∧
        e.runAction app.hooks args = callAction (e.inEffect .action history) args) ∧
      (∀ c, .derived c .base ∈ app.events → ∀ args,
        isEnabled app.hooks c args = (EventClass.derived c .base).isEnabled app.hooks args ∧
          runAction app.hooks c args = (EventClass.derived c .base).runAction app.hooks args) ∧
      ∀ op : Operation, (∀ on ∈ op.class?, on ∈ app.events) →
        (∃ made, (app.perform op).events = app.events ++ made ∧ ∀ e ∈ made, e ∉ app.events) ∧
          ∀ e ∈ app.events, ∀ args,
            ((∀ on ∈ e.line, op.settles .guard on = none) →
              e.isEnabled (app.perform op).hooks args = e.isEnabled app.hooks args) ∧
            ((∀ on ∈ e.line, op.settles .action on = none) →
              e.runAction (app.perform op).hooks args = e.runAction app.hooks args) := by
  have htracks := hhistory.tracks
  refine ⟨fun e he args => ?_, fun c hc args => ?_, fun op hthere => ⟨?_, fun e he args => ?_⟩⟩
  · rw [EventClass.isEnabled, EventClass.runAction, htracks.find?_eq he, htracks.find?_eq he]
    exact ⟨rfl, rfl⟩
  · have hid : c.id ≠ LabelClass.event.id := by
      intro hid
      cases htracks.apart _ hc _ htracks.root hid
    obtain ⟨hguard, haction⟩ := EventClass.isEnabled_derived hid args
    exact ⟨hguard.symm, haction.symm⟩
  · obtain ⟨made, hmade, hnumbers⟩ := app.exists_made op
    refine ⟨made, hmade, fun e he hold => ?_⟩
    exact Nat.not_lt_of_le (htracks.numbered e hold) (hnumbers e he)
  · have hnext := htracks.step hthere
    obtain ⟨made, hmade, -⟩ := app.exists_made op
    have he' : e ∈ (app.perform op).events := by
      rw [hmade]
      exact List.mem_append_left _ he
    constructor
    · intro hsettles
      rw [EventClass.isEnabled, EventClass.isEnabled, hnext.find?_eq he', htracks.find?_eq he,
        EventClass.inEffect_cons hsettles]
    · intro hsettles
      rw [EventClass.runAction, EventClass.runAction, hnext.find?_eq he', htracks.find?_eq he,
        EventClass.inEffect_cons hsettles]

/-- A text of one machine with one event. -/
def goText : String := "M { InitialStates { A } Go { A => B } }"

/-- The machine of the text. -/
def goMachine : FsmCompiler.Machine where
  name := "M"
  transitions := [⟨⟨"Go", some ⟨"m", 1, 25⟩⟩, ⟨"A", some ⟨"m", 1, 30⟩⟩, ⟨"B", some ⟨"m", 1, 35⟩⟩,
    some ⟨"m", 1, 32⟩⟩]
  initialStates := [⟨"A", some ⟨"m", 1, 21⟩⟩]
  guardResources := []
  actionResources := []
  loc := some ⟨"m", 1, 1⟩

/-- Its event in a load. -/
def goEvent (load : Nat) : EventClass := .derived (goMachine.classOf load "Go") .base

theorem goEvent_mem_load (load : Nat) (app : Application) (hload : load = app.loads + 1)
    (hkind : (machineClass load (goMachine.compile (some "m"))
      (globalsOf goMachine load)).toOption.isSome)
    (hname : (globalsOf goMachine load).find? "Go" = some (goMachine.classOf load "Go")) :
    ∃ next, app.perform (.load "m" goText) = next ∧ next.hooks = app.hooks ∧
      next.loads = app.loads + 1 ∧ goEvent load ∈ next.events ∧
        ∀ e ∈ app.events, e ∈ next.events := by
  have hread : Reader.read (Path.normalize "m") goText = .ok [goMachine] := by decide +kernel
  have hreadable : Target.holdsNul (goMachine.compile (some "m")) = false := by
    simp [Target.holdsNul, Machine.compile, Machine.compileWith, goMachine]
  obtain ⟨kind, hkind⟩ := Option.isSome_iff_exists.1 hkind
  obtain ⟨module, hmodule, -⟩ := exists_ofMachine_eq_ok (by decide +kernel) hreadable
    (by decide +kernel) (by decide +kernel) (toOption_eq_some_iff.1 hkind)
  have hmodules : LoadedModule.ofMachines (app.loads + 1) (some "m") [goMachine] =
      .ok [("M", module)] := by
    rw [← hload]
    simp only [LoadedModule.ofMachines, List.zipIdx_cons, List.zipIdx_nil, List.foldlM_cons,
      List.foldlM_nil, hmodule]
    rfl
  refine ⟨app.withModules 1 [module], ?_, rfl, rfl, ?_, fun e he => List.mem_append_left _ he⟩
  · simp only [Application.perform, hread, hmodules]
    rfl
  · have hloaded := loadedFrom_of_ofMachine hmodule
    have hcode : module.code.events = ["Go"] := by
      rw [hloaded.code]
      rfl
    have hevents : module.events = [goMachine.classOf load "Go"] := by
      rw [LoadedModule.events, LoadedModule.classes, hcode, hloaded.globals, hloaded.load]
      simp [hname]
    simp [Application.withModules, LoadedModule.eventClasses, hevents, goEvent]

/-- A guard that lets everything happen. -/
def anyway : Hook := ⟨"anyway", fun args => ⟨.ok (.bool true), args⟩⟩

/-- A guard that is set on the event of one load is not asked for the event of another load of the
same text, which has none. -/
theorem guard_of_one_load : ∃ app,
    History [.load "m" goText, .register .guard (goEvent 1) anyway, .load "m" goText] app ∧
      (goEvent 1).isEnabled app.hooks [] = ⟨.ok true, [⟨.guard, "anyway", []⟩], []⟩ ∧
        (goEvent 2).isEnabled app.hooks [] = ⟨.error (.missingGuard "M" "Go"), [], []⟩ := by
  obtain ⟨first, hfirst, -, hloads, hgo, -⟩ := goEvent_mem_load 1 .start rfl (by decide +kernel)
    (by decide +kernel)
  have hload : History [.load "m" goText] first :=
    hfirst ▸ .step (.load "m" goText) .start fun _ hon => by cases hon
  have hset := hload.step (.register .guard (goEvent 1) anyway) fun on hon => by
    rwa [← Option.some.inj hon]
  obtain ⟨second, hsecond, -, -, hgo', hold⟩ := goEvent_mem_load 2
    (first.perform (.register .guard (goEvent 1) anyway)) (congrArg (· + 1) hloads.symm)
    (by decide +kernel) (by decide +kernel)
  have hagain := hset.step (.load "m" goText) fun _ hon => by cases hon
  rw [hsecond] at hagain
  have hisolated := (hooks_isolated hagain).1
  refine ⟨second, hagain, ?_, ?_⟩
  · rw [(hisolated (goEvent 1) (hold _ hgo) []).1]
    have heffect : (goEvent 1).inEffect .guard
        [.load "m" goText, .register .guard (goEvent 1) anyway, .load "m" goText] =
          some anyway := by
      simp [goEvent, EventClass.inEffect, lastSettled, Operation.settles]
    rw [heffect]
    rfl
  · rw [(hisolated (goEvent 2) hgo' []).1]
    have heffect : (goEvent 2).inEffect .guard
        [.load "m" goText, .register .guard (goEvent 1) anyway, .load "m" goText] = none := by
      simp [goEvent, EventClass.inEffect, lastSettled, Operation.settles, Machine.classOf]
    rw [heffect]
    rfl

end Running

end FsmCompiler
