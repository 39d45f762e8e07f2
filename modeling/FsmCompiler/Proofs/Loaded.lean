/-
# What loaded modules hold

Loading a valid machine gives each of its states and events a class, and fills three
tables with what their names mean then. Here it is said when each name means the
class of its own label: exactly when the names stay apart as identifiers, also from
the names that the class of the machine defines for itself. The tables hold what was
declared then.
-/

import FsmCompiler.Proofs.Validity
import FsmCompiler.Running.Loading
import Mathlib.Data.List.Forall2

namespace FsmCompiler

open Text (compatible)

/-! ## Computations that may fail -/

theorem bind_eq_ok_iff {x : Except ε α} {f : α → Except ε β} {b : β} :
    (x >>= f) = .ok b ↔ ∃ a, x = .ok a ∧ f a = .ok b := by
  cases x <;> simp [bind, Except.bind]

theorem pure_eq_ok_iff {a b : α} : (pure a : Except ε α) = .ok b ↔ a = b := by
  simp [pure, Except.pure]

theorem toOption_eq_some_iff {x : Except ε α} {a : α} : x.toOption = some a ↔ x = .ok a := by
  cases x <;> simp [Except.toOption]

/-- A walk that succeeds gives a result for each item, in order. -/
theorem mapM_eq_ok_iff {f : α → Except ε β} {items : List α} {results : List β} :
    items.mapM f = .ok results ↔ List.Forall₂ (fun a b => f a = .ok b) items results := by
  induction items generalizing results with
  | nil =>
    rw [List.mapM_nil, List.forall₂_nil_left_iff]
    exact ⟨fun h => by cases h; rfl, fun h => by rw [h]; rfl⟩
  | cons a rest ih =>
    rw [List.mapM_cons, List.forall₂_cons_left_iff]
    simp only [← ih]
    cases hfirst : f a with
    | error e => simp [bind, Except.bind]
    | ok b =>
      cases hrest : rest.mapM f with
      | error e => simp [bind, Except.bind]
      | ok bs => simp [bind, Except.bind, pure, Except.pure, eq_comm]

/-- The results of a walk, if it is known what each item can only give. -/
theorem eq_map_of_mapM_eq_ok {f : α → Except ε β} {h : γ → α} {g : γ → β} {items : List γ}
    {results : List β} (hresults : (items.map h).mapM f = .ok results)
    (hitems : ∀ c ∈ items, ∀ b, f (h c) = .ok b → b = g c) : results = items.map g := by
  rw [mapM_eq_ok_iff, List.forall₂_map_left_iff] at hresults
  induction hresults with
  | nil => rfl
  | cons hfirst _ ih =>
    rw [List.map_cons, hitems _ (by simp) _ hfirst, ih fun c hc => hitems c (by simp [hc])]

/-- Each result of a walk comes of an item. -/
theorem exists_of_mapM_eq_ok {f : α → Except ε β} {items : List α} {results : List β} {b : β}
    (hresults : items.mapM f = .ok results) (hb : b ∈ results) : ∃ a ∈ items, f a = .ok b := by
  rw [mapM_eq_ok_iff] at hresults
  induction hresults with
  | nil => cases hb
  | cons hfirst _ ih =>
    rcases List.mem_cons.1 hb with rfl | hb
    · exact ⟨_, by simp, hfirst⟩
    · obtain ⟨a, ha, hok⟩ := ih hb
      exact ⟨a, by simp [ha], hok⟩

/-- The result of each item is among the results of a walk. -/
theorem exists_mem_of_mapM_eq_ok {f : α → Except ε β} {items : List α} {results : List β} {a : α}
    (hresults : items.mapM f = .ok results) (ha : a ∈ items) : ∃ b ∈ results, f a = .ok b := by
  rw [mapM_eq_ok_iff] at hresults
  induction hresults with
  | nil => cases ha
  | cons hfirst _ ih =>
    rcases List.mem_cons.1 ha with rfl | ha
    · exact ⟨_, by simp, hfirst⟩
    · obtain ⟨b, hb, hok⟩ := ih ha
      exact ⟨b, by simp [hb], hok⟩

/-- A walk that succeeds has a result for each item. -/
theorem exists_result_of_mapM_eq_ok {f : α → Except ε β} {items : List α} {results : List β}
    {a : α} (hresults : items.mapM f = .ok results) (ha : a ∈ items) : ∃ b, f a = .ok b := by
  obtain ⟨b, -, hok⟩ := exists_mem_of_mapM_eq_ok hresults ha
  exact ⟨b, hok⟩

/-- A walk succeeds if there is a result for each item. -/
theorem exists_mapM_eq_ok {f : α → Except ε β} {items : List α}
    (hitems : ∀ a ∈ items, ∃ b, f a = .ok b) : ∃ results, items.mapM f = .ok results := by
  induction items with
  | nil => exact ⟨[], rfl⟩
  | cons a rest ih =>
    obtain ⟨b, hfirst⟩ := hitems a List.mem_cons_self
    obtain ⟨bs, hrest⟩ := ih fun c hc => hitems c (List.mem_cons_of_mem _ hc)
    exact ⟨b :: bs, mapM_eq_ok_iff.2 (.cons hfirst (mapM_eq_ok_iff.1 hrest))⟩

/-- What stops a walk is what one of its items gives. -/
theorem exists_error_of_mapM {f : α → Except ε β} {items : List α} {error : ε}
    (herror : items.mapM f = .error error) : ∃ a ∈ items, f a = .error error := by
  induction items with
  | nil => cases herror
  | cons a rest ih =>
    rw [List.mapM_cons] at herror
    cases hfirst : f a with
    | error first =>
      rw [hfirst] at herror
      cases herror
      exact ⟨a, by simp, hfirst⟩
    | ok b =>
      cases hrest : rest.mapM f with
      | ok results => simp [hfirst, hrest, bind, Except.bind, pure, Except.pure] at herror
      | error later =>
        have hlater : later = error := by simpa [hfirst, hrest, bind, Except.bind] using herror
        obtain ⟨c, hc, hfault⟩ := ih (hlater ▸ hrest)
        exact ⟨c, by simp [hc], hfault⟩

namespace Machine

/-- The base of the class of a label. -/
def baseOf (m : Machine) (name : String) : LabelBase :=
  if name ∈ m.states.map (·.name) then
    if m.isInitial name then .initialState else .state
  else .event

/-- The class that a load makes for the state or event `name`. -/
def classOf (m : Machine) (load : Nat) (name : String) : Running.LabelClass :=
  ⟨⟨load, m.labelNames.idxOf name⟩, m.baseOf name, m.name, name,
    (m.moduleName, compatible name)⟩

variable {m : Machine} {load : Nat}

/-- Labels have classes of their own. -/
@[simp] theorem classOf_inj {a b : String} : m.classOf load a = m.classOf load b ↔ a = b := by
  constructor
  · intro h
    exact congrArg Running.LabelClass.name h
  · rintro rfl
    rfl

theorem classOf_ne_noEvent (name : String) :
    m.classOf (load + 1) name ≠ Running.LabelClass.noEvent := by
  intro h
  have hload : load + 1 = 0 := congrArg (·.id.load) h
  cases hload

theorem map_labelDefs_name (m : Machine) :
    (m.labelDefs m.derived).map (·.name) = m.labelNames := by
  simp [labelDefs, labelNames, derived, Function.comp_def]

theorem Valid.labelDef_base {label : LabelDef} (hvalid : m.Valid)
    (hlabel : label ∈ m.labelDefs m.derived) : label.base = m.baseOf label.name := by
  rcases List.mem_append.1 hlabel with hlabel | hlabel
  · obtain ⟨s, hs, rfl⟩ := List.mem_map.1 hlabel
    have hstate : s.name ∈ m.states.map (·.name) := List.mem_map.2 ⟨s, hs, rfl⟩
    simp only [baseOf, if_pos hstate]
  · obtain ⟨e, he, rfl⟩ := List.mem_map.1 hlabel
    have hevent := hvalid.event_not_state (List.mem_map.2 ⟨e, he, rfl⟩)
    simp only [baseOf, if_neg hevent]

/-- The classes of a load are those of the labels, in order. -/
theorem Valid.labelClasses_eq (hvalid : m.Valid) (load : Nat) :
    Running.labelClasses load m.moduleName m.name (m.labelDefs m.derived) =
      m.labelNames.map (m.classOf load) := by
  refine List.ext_getElem ?_ fun i hi hi' => ?_
  · simp [Running.labelClasses, ← m.map_labelDefs_name]
  · have hdefs : i < (m.labelDefs m.derived).length := by
      simpa [Running.labelClasses] using hi
    have hlabel : i < m.labelNames.length := by simpa using hi'
    have hname : (m.labelDefs m.derived)[i].name = m.labelNames[i] := by
      simp [← m.map_labelDefs_name]
    have hindex : m.labelNames.idxOf (m.labelDefs m.derived)[i].name = i := by
      rw [hname]
      exact hvalid.nodup_labelNames.idxOf_getElem i _
    have hbase := hvalid.labelDef_base (List.getElem_mem hdefs)
    simp only [Running.labelClasses, List.getElem_mapIdx, List.getElem_map]
    rw [← hname, classOf, hindex, hbase]

end Machine

namespace Running

variable {m : FsmCompiler.Machine} {load : Nat}

/-! ## What names mean -/

/-- What the names of the labels of a machine mean in its module. -/
def globalsOf (m : FsmCompiler.Machine) (load : Nat) : Globals :=
  Globals.ofLabels (labelClasses load m.moduleName m.name (m.labelDefs m.derived))

theorem globalsOf_eq (hvalid : m.Valid) :
    globalsOf m load =
      m.labelNames.reverse.map fun name => (compatible name, m.classOf load name) := by
  rw [globalsOf, hvalid.labelClasses_eq, Globals.ofLabels, ← List.map_reverse, List.map_map]
  rfl

/-- Whatever an identifier means is the class of a label with that identifier. -/
theorem exists_of_lookup_globalsOf {identifier : String} {c : LabelClass} (hvalid : m.Valid)
    (hlookup : (globalsOf m load).lookup identifier = some c) :
    ∃ name ∈ m.labelNames, compatible name = identifier ∧ c = m.classOf load name := by
  rw [globalsOf_eq hvalid, List.lookup_eq_some_iff] at hlookup
  obtain ⟨before, after, hsplit, -⟩ := hlookup
  have hmem : (identifier, c) ∈ m.labelNames.reverse.map
      fun name => (compatible name, m.classOf load name) := by simp [hsplit]
  obtain ⟨name, hname, heq⟩ := List.mem_map.1 hmem
  cases heq
  exact ⟨name, List.mem_reverse.1 hname, rfl, rfl⟩

/-- The identifier of a label means something. -/
theorem exists_lookup_globalsOf (load : Nat) {name : String} (hvalid : m.Valid)
    (hname : name ∈ m.labelNames) : ∃ c, (globalsOf m load).lookup (compatible name) = some c := by
  cases hlookup : (globalsOf m load).lookup (compatible name) with
  | some c => exact ⟨c, rfl⟩
  | none =>
    rw [globalsOf_eq hvalid, List.lookup_eq_none_iff] at hlookup
    have hne := hlookup _ (List.mem_map.2 ⟨name, List.mem_reverse.2 hname, rfl⟩)
    simp at hne

/-- The states and events are different identifiers. -/
def DistinctLabels (m : FsmCompiler.Machine) : Prop :=
  ∀ a ∈ m.labelNames, ∀ b ∈ m.labelNames, compatible a = compatible b → a = b

instance (m : FsmCompiler.Machine) : Decidable (DistinctLabels m) :=
  inferInstanceAs (Decidable (∀ a ∈ m.labelNames, ∀ b ∈ m.labelNames, _))

/-- Each label means its own class if and only if the labels are different identifiers. -/
theorem distinctLabels_iff (hvalid : m.Valid) :
    DistinctLabels m ↔ ∀ name ∈ m.labelNames,
      (globalsOf m load).lookup (compatible name) = some (m.classOf load name) := by
  constructor
  · intro hdistinct name hname
    obtain ⟨c, hlookup⟩ := exists_lookup_globalsOf load hvalid hname
    obtain ⟨other, hother, hidentifier, rfl⟩ := exists_of_lookup_globalsOf hvalid hlookup
    rw [hlookup, hdistinct other hother name hname hidentifier]
  · intro howns a ha b hb hidentifier
    have hclass := howns a ha
    rw [hidentifier, howns b hb, Option.some.injEq, Machine.classOf_inj] at hclass
    exact hclass.symm

/-! ## Scopes -/

/-- The scope of the table of initial states. -/
def initialScope (globals : Globals) : Scope :=
  ("name", .machineName) :: Scope.ofGlobals globals

/-- The scope of the table of transitions. -/
def ruleScope (globals : Globals) : Scope :=
  ("initial_states", .initialTable) :: initialScope globals

/-- The scope of the table of tags. -/
def tagScope (globals : Globals) : Scope :=
  ("transitions", .transitionTable) :: ruleScope globals

theorem machineClass_eq_ok_iff {code : CompiledModule} {globals : Globals} {kind : MachineClass} :
    machineClass load code globals = .ok kind ↔
      ∃ tags initialStates rules variantTags,
        tagMembers load (globals.find? textTypeName) [] code.tags = .ok tags ∧
        code.initialStates.mapM (Scope.resolve (initialScope globals)) = .ok initialStates ∧
        code.transitions.mapM (Scope.transitionEntry (ruleScope globals)) = .ok rules ∧
        code.variantTags.mapM (Scope.tagEntry (tagScope globals) tags) = .ok variantTags ∧
        kind = ⟨load, code.machine, initialStates, Table.ofEntries rules, tagTypeName, tags,
          Table.ofEntries variantTags⟩ := by
  unfold machineClass
  simp only [bind_eq_ok_iff, pure_eq_ok_iff]
  constructor
  · rintro ⟨tags, htags, initialStates, hinitial, rules, hrules, variantTags, hvariants, rfl⟩
    exact ⟨tags, initialStates, rules, variantTags, htags, hinitial, hrules, hvariants, rfl⟩
  · rintro ⟨tags, initialStates, rules, variantTags, htags, hinitial, hrules, hvariants, rfl⟩
    exact ⟨tags, htags, initialStates, hinitial, rules, hrules, variantTags, hvariants, rfl⟩

theorem lookup_ofGlobals (globals : Globals) (identifier : String) :
    (Scope.ofGlobals globals).lookup identifier = (globals.lookup identifier).map .label := by
  induction globals with
  | nil => rfl
  | cons entry rest ih =>
    obtain ⟨name, c⟩ := entry
    change ((name, Meaning.label c) :: Scope.ofGlobals rest).lookup identifier = _
    rw [List.lookup_cons, List.lookup_cons, ih]
    cases identifier == name <;> rfl

/-- An inner name hides the same identifier further out. -/
theorem resolve_cons (identifier name : String) (meaning : Meaning) (scope : Scope) :
    Scope.resolve ((identifier, meaning) :: scope) name =
      if compatible name = identifier then .ok meaning else scope.resolve name := by
  unfold Scope.resolve
  rw [List.lookup_cons]
  by_cases hname : compatible name = identifier
  · simp [hname]
  · have hne : (compatible name == identifier) = false := by simpa using hname
    rw [hne, if_neg hname]

theorem resolve_ofGlobals_eq_ok_iff {globals : Globals} {name : String} {meaning : Meaning} :
    (Scope.ofGlobals globals).resolve name = .ok meaning ↔
      ∃ c, globals.lookup (compatible name) = some c ∧ meaning = .label c := by
  unfold Scope.resolve
  rw [lookup_ofGlobals]
  cases globals.lookup (compatible name) <;> simp [eq_comm]

theorem resolve_initialScope_eq_label_iff {globals : Globals} {name : String} {c : LabelClass} :
    (initialScope globals).resolve name = .ok (.label c) ↔
      compatible name ≠ "name" ∧ globals.lookup (compatible name) = some c := by
  rw [initialScope, resolve_cons]
  split
  · simp_all
  · simp_all [resolve_ofGlobals_eq_ok_iff]

theorem resolve_ruleScope_eq_label_iff {globals : Globals} {name : String} {c : LabelClass} :
    (ruleScope globals).resolve name = .ok (.label c) ↔
      compatible name ≠ "initial_states" ∧ compatible name ≠ "name" ∧
        globals.lookup (compatible name) = some c := by
  rw [ruleScope, resolve_cons]
  split
  · simp_all
  · simp_all [resolve_initialScope_eq_label_iff]

theorem resolve_tagScope_eq_label_iff {globals : Globals} {name : String} {c : LabelClass} :
    (tagScope globals).resolve name = .ok (.label c) ↔
      compatible name ≠ "transitions" ∧ compatible name ≠ "initial_states" ∧
        compatible name ≠ "name" ∧ globals.lookup (compatible name) = some c := by
  rw [tagScope, resolve_cons]
  split
  · simp_all
  · simp_all [resolve_ruleScope_eq_label_iff]

/-- What can be part of a key is anything but the table of transitions. -/
theorem resolveKey_eq_ok_iff {scope : Scope} {name : String} {meaning : Meaning} :
    scope.resolveKey name = .ok meaning ↔
      scope.resolve name = .ok meaning ∧ meaning ≠ .transitionTable := by
  unfold Scope.resolveKey
  cases hname : scope.resolve name with
  | error e => simp [bind, Except.bind]
  | ok found => cases found <;> simp [bind, Except.bind] <;> rintro rfl <;> simp

theorem resolveKey_eq_label_iff {scope : Scope} {name : String} {c : LabelClass} :
    scope.resolveKey name = .ok (.label c) ↔ scope.resolve name = .ok (.label c) := by
  rw [resolveKey_eq_ok_iff]
  simp

/-- In the scope of the table of tags, the table of transitions is no part of a key. -/
theorem ne_transitions_of_resolveKey {globals : Globals} {name : String} {meaning : Meaning}
    (hkey : (tagScope globals).resolveKey name = .ok meaning) :
    compatible name ≠ "transitions" := by
  rw [resolveKey_eq_ok_iff, tagScope, resolve_cons] at hkey
  intro hname
  rw [if_pos hname] at hkey
  exact hkey.2 (Except.ok.inj hkey.1).symm

theorem transitionEntry_eq_ok_iff {scope : Scope} {source event target : String}
    {entry : (Meaning × Meaning) × Meaning} :
    scope.transitionEntry (source, event, target) = .ok entry ↔
      scope.resolveKey source = .ok entry.1.1 ∧ scope.resolveKey event = .ok entry.1.2 ∧
        scope.resolve target = .ok entry.2 := by
  obtain ⟨⟨s, e⟩, t⟩ := entry
  unfold Scope.transitionEntry
  simp only [bind_eq_ok_iff, pure_eq_ok_iff, Prod.mk.injEq]
  constructor
  · rintro ⟨_, hsource, _, hevent, _, htarget, ⟨rfl, rfl⟩, rfl⟩
    exact ⟨hsource, hevent, htarget⟩
  · rintro ⟨hsource, hevent, htarget⟩
    exact ⟨s, hsource, e, hevent, t, htarget, ⟨rfl, rfl⟩, rfl⟩

theorem tagEntry_eq_ok_iff {scope : Scope} {tags : List TagMember} {state text : String}
    {event : Option String} {entry : (Meaning × Meaning) × TagMember} :
    scope.tagEntry tags (state, event, text) = .ok entry ↔
      scope.resolveKey state = .ok entry.1.1 ∧
        (match event with
          | none => entry.1.2 = .label .noEvent
          | some name => scope.resolveKey name = .ok entry.1.2) ∧
        tags.find? (·.name == compatible text) = some entry.2 := by
  obtain ⟨⟨s, e⟩, t⟩ := entry
  unfold Scope.tagEntry
  cases event with
  | none =>
    simp only [bind_eq_ok_iff, pure_eq_ok_iff]
    constructor
    · rintro ⟨_, rfl, _, hstate, hfound⟩
      split at hfound
      · rename_i tag htag
        cases hfound
        exact ⟨hstate, rfl, htag⟩
      · cases hfound
    · rintro ⟨hstate, rfl, htag⟩
      exact ⟨_, rfl, s, hstate, by rw [htag]; rfl⟩
  | some name =>
    simp only [bind_eq_ok_iff]
    constructor
    · rintro ⟨_, hevent, _, hstate, hfound⟩
      split at hfound
      · rename_i tag htag
        cases hfound
        exact ⟨hstate, hevent, htag⟩
      · cases hfound
    · rintro ⟨hstate, hevent, htag⟩
      exact ⟨e, hevent, s, hstate, by rw [htag]; rfl⟩

/-- An entry can be filled if its names mean labels and its tag is known. -/
theorem exists_tagEntry {scope : Scope} {tags : List TagMember} {state text : String}
    {event : Option String} {tag : TagMember} (hstate : ∃ c, scope.resolve state = .ok (.label c))
    (hevent : ∀ name ∈ event.toList, ∃ c, scope.resolve name = .ok (.label c))
    (htag : tags.find? (·.name == compatible text) = some tag) :
    ∃ entry, scope.tagEntry tags (state, event, text) = .ok entry := by
  obtain ⟨s, hstate⟩ := hstate
  have hstate := resolveKey_eq_label_iff.2 hstate
  cases event with
  | none => exact ⟨((.label s, .label .noEvent), tag), tagEntry_eq_ok_iff.2 ⟨hstate, rfl, htag⟩⟩
  | some name =>
    obtain ⟨e, hevent⟩ := hevent name (by simp)
    exact ⟨((.label s, .label e), tag),
      tagEntry_eq_ok_iff.2 ⟨hstate, resolveKey_eq_label_iff.2 hevent, htag⟩⟩

/-! ## Tags -/

/-- The tag that a module has for a text. -/
def tagOf (load : Nat) (globals : Globals) (text : String) : TagMember :=
  ⟨load, tagTypeName, compatible text, text, globals.find? textTypeName⟩

/-- The tags of a module have names of their own. -/
theorem tagMembers_eq_ok {globals : Globals} {known tags : List TagMember} {texts : List String}
    (htags : tagMembers load (globals.find? textTypeName) known texts = .ok tags)
    (hknown : (known.map (·.name)).Nodup) :
    tags = known ++ texts.map (tagOf load globals) ∧ (tags.map (·.name)).Nodup := by
  induction texts generalizing known with
  | nil =>
    cases htags
    simpa using hknown
  | cons text rest ih =>
    simp only [tagMembers] at htags
    split at htags
    · cases htags
    · rename_i hnew
      change tagMembers load _ (known ++ [tagOf load globals text]) rest = _ at htags
      have hadded : ((known ++ [tagOf load globals text]).map (·.name)).Nodup := by
        rw [List.map_append, List.nodup_append]
        refine ⟨hknown, by simp, ?_⟩
        rintro name hname last hlast rfl
        obtain ⟨member, hmember, rfl⟩ := List.mem_map.1 hname
        rw [List.find?_eq_none] at hnew
        have hsame : member.name = compatible text := by simpa [tagOf] using hlast
        exact hnew member hmember (by simp [hsame])
      obtain ⟨htags, hnodup⟩ := ih htags hadded
      refine ⟨?_, hnodup⟩
      rw [htags, List.map_cons, List.append_assoc]
      rfl

/-- Tags with names of their own are those of a module. -/
theorem tagMembers_of_nodup {globals : Globals} {known : List TagMember} {texts : List String}
    (hnodup : ((known ++ texts.map (tagOf load globals)).map (·.name)).Nodup) :
    tagMembers load (globals.find? textTypeName) known texts =
      .ok (known ++ texts.map (tagOf load globals)) := by
  induction texts generalizing known with
  | nil => simp [tagMembers]
  | cons text rest ih =>
    have hsplit : known ++ (text :: rest).map (tagOf load globals) =
        (known ++ [tagOf load globals text]) ++ rest.map (tagOf load globals) := by simp
    have hnew : known.find? (·.name == compatible text) = none := by
      rw [List.map_append, List.nodup_append] at hnodup
      rw [List.find?_eq_none]
      intro member hmember hsame
      exact hnodup.2.2 _ (List.mem_map.2 ⟨member, hmember, rfl⟩) _ (by simp [tagOf])
        (beq_iff_eq.1 hsame)
    rw [hsplit] at hnodup ⊢
    rw [← ih hnodup, tagMembers]
    simp only [hnew]
    rfl

theorem find?_tagOf {globals : Globals} {texts : List String} {text : String}
    (hnodup : ((texts.map (tagOf load globals)).map (·.name)).Nodup) (htext : text ∈ texts) :
    (texts.map (tagOf load globals)).find? (·.name == compatible text) =
      some (tagOf load globals text) := by
  induction texts with
  | nil => cases htext
  | cons first rest ih =>
    rw [List.map_cons, List.map_cons, List.nodup_cons] at hnodup
    rw [List.map_cons, List.find?_cons]
    rcases List.mem_cons.1 htext with rfl | htext
    · simp [tagOf]
    · have hne : (tagOf load globals first).name ≠ compatible text := by
        intro hname
        refine hnodup.1 ?_
        rw [hname]
        exact List.mem_map.2 ⟨tagOf load globals text, List.mem_map.2 ⟨text, htext, rfl⟩, rfl⟩
      have hfalse : ((tagOf load globals first).name == compatible text) = false := by
        simpa using hne
      rw [hfalse]
      exact ih hnodup.2 htext

/-! ## Loading -/

/-- The text of the module is one that the target language reads: it says `doc` at its
top, and its dispatch function has the given signature. -/
structure Compiles (code : CompiledModule) (doc : String) (signature : Target.Signature) :
    Prop where
  readable : Target.holdsNul code = false
  top : Target.topText code = some doc
  parameters : Target.dispatchSignature code = some signature
  writable : signature.writable = true

/-- Loading succeeds for valid machines whose module can be read and whose tables can be
filled. -/
theorem ofMachine_eq_ok_iff {source : Option String} {module : LoadedModule} :
    LoadedModule.ofMachine load m source = .ok module ↔
      m.Valid ∧ ∃ doc signature kind, Compiles (m.compile source) doc signature ∧
        machineClass load (m.compile source) (globalsOf m load) = .ok kind ∧
        module = ⟨load, m.compile source, doc, signature.names, globalsOf m load, kind⟩ := by
  unfold LoadedModule.ofMachine
  cases hvalidate : m.validate with
  | error rejection =>
    have hinvalid : ¬ m.Valid := by
      rw [← Machine.validate_eq_ok_iff, hvalidate]
      simp
    simp [hinvalid]
  | ok =>
    have hvalid : m.Valid := Machine.validate_eq_ok_iff.1 hvalidate
    unfold LoadedModule.ofCode
    constructor
    · intro hload
      dsimp only at hload
      split at hload
      · cases hload
      · rename_i hreadable
        split at hload
        · rename_i doc signature htop hparameters
          split at hload
          · cases hload
          · rename_i hwritable
            split at hload
            · rename_i kind hkind
              cases hload
              exact ⟨hvalid, doc, signature, kind,
                ⟨by simpa using hreadable, htop, hparameters, by simpa using hwritable⟩, hkind, rfl⟩
            · cases hload
        · cases hload
    · rintro ⟨-, doc, signature, kind, hcompiles, hkind, rfl⟩
      have hclass : machineClass load (m.compile source) (Globals.ofLabels (labelClasses load
          m.moduleName (m.compile source).machine (m.compile source).labels)) = .ok kind := hkind
      simp [hcompiles.readable, hcompiles.top, hcompiles.parameters, hcompiles.writable, hclass]
      rfl

/-- The parts of a module that was loaded from a machine. -/
structure LoadedFrom (m : FsmCompiler.Machine) (load : Nat) (source : Option String)
    (module : LoadedModule) : Prop where
  valid : m.Valid
  code : module.code = m.compile source
  globals : module.globals = globalsOf m module.load
  load : module.load = load

theorem loadedFrom_of_ofMachine {source : Option String} {module : LoadedModule}
    (hload : LoadedModule.ofMachine load m source = .ok module) :
    LoadedFrom m load source module := by
  obtain ⟨hvalid, doc, signature, kind, -, -, rfl⟩ := ofMachine_eq_ok_iff.1 hload
  exact ⟨hvalid, rfl, rfl, rfl⟩

/-- A machine is loaded if nothing is wrong with it. -/
theorem exists_ofMachine_eq_ok {source : Option String} {kind : MachineClass}
    (hvalid : m.validate = .ok ()) (hreadable : Target.holdsNul (m.compile source) = false)
    (htop : (Target.topText (m.compile source)).isSome)
    (hparameters : (Target.dispatchSignature (m.compile source)).any (·.writable))
    (hkind : machineClass load (m.compile source) (globalsOf m load) = .ok kind) :
    ∃ module, LoadedModule.ofMachine load m source = .ok module ∧ module.load = load ∧
      module.kind = kind := by
  obtain ⟨doc, htop⟩ := Option.isSome_iff_exists.1 htop
  obtain ⟨signature, hparameters, hwritable⟩ := (Option.any_eq_true _ _).1 hparameters
  exact ⟨_, ofMachine_eq_ok_iff.2 ⟨Machine.validate_eq_ok_iff.1 hvalid, doc, signature, kind,
    ⟨hreadable, htop, hparameters, hwritable⟩, hkind, rfl⟩, rfl, rfl⟩

/-- As identifiers, the states and events take no name that every module defines or imports.
What a module imports begins with an underscore. -/
def FreshLabels (m : FsmCompiler.Machine) : Prop :=
  ∀ name ∈ m.labelNames, compatible name ∉ Validation.generatedNames ∧
    (compatible name).startsWith "_" = false

instance (m : FsmCompiler.Machine) : Decidable (FreshLabels m) :=
  inferInstanceAs (Decidable (∀ name ∈ m.labelNames, _))

/-- The names of a machine stay apart in its module: as identifiers, its states and events
differ from each other, from what every module defines, and from what the class of the
machine defines before its tables. -/
structure NamesApart (m : FsmCompiler.Machine) : Prop where
  distinct : DistinctLabels m
  fresh : FreshLabels m
  name : ∀ name ∈ m.labelNames, compatible name ≠ "name"
  initialStates : ∀ name ∈ m.labelNames, compatible name ≠ "initial_states"

theorem namesApart_iff :
    NamesApart m ↔ (DistinctLabels m ∧ FreshLabels m) ∧
      ∀ name ∈ m.labelNames, compatible name ≠ "name" ∧ compatible name ≠ "initial_states" :=
  ⟨fun ⟨distinct, fresh, name, initialStates⟩ =>
      ⟨⟨distinct, fresh⟩, fun label hlabel => ⟨name label hlabel, initialStates label hlabel⟩⟩,
    fun ⟨⟨distinct, fresh⟩, hnames⟩ =>
      ⟨distinct, fresh, fun label hlabel => (hnames label hlabel).1,
        fun label hlabel => (hnames label hlabel).2⟩⟩

instance (m : FsmCompiler.Machine) : Decidable (NamesApart m) :=
  decidable_of_iff' _ namesApart_iff

theorem NamesApart.resolve_initialScope {name : String} (hapart : NamesApart m)
    (hvalid : m.Valid) (hname : name ∈ m.labelNames) :
    (initialScope (globalsOf m load)).resolve name = .ok (.label (m.classOf load name)) :=
  resolve_initialScope_eq_label_iff.2
    ⟨hapart.name name hname, (distinctLabels_iff hvalid).1 hapart.distinct name hname⟩

theorem NamesApart.resolve_ruleScope {name : String} (hapart : NamesApart m)
    (hvalid : m.Valid) (hname : name ∈ m.labelNames) :
    (ruleScope (globalsOf m load)).resolve name = .ok (.label (m.classOf load name)) :=
  resolve_ruleScope_eq_label_iff.2 ⟨hapart.initialStates name hname, hapart.name name hname,
    (distinctLabels_iff hvalid).1 hapart.distinct name hname⟩

theorem NamesApart.resolveKey_tagScope {name : String} {meaning : Meaning}
    (hapart : NamesApart m) (hvalid : m.Valid) (hname : name ∈ m.labelNames)
    (hkey : (tagScope (globalsOf m load)).resolveKey name = .ok meaning) :
    meaning = .label (m.classOf load name) := by
  have hlabel :
      (tagScope (globalsOf m load)).resolveKey name = .ok (.label (m.classOf load name)) := by
    rw [resolveKey_eq_label_iff, resolve_tagScope_eq_label_iff]
    exact ⟨ne_transitions_of_resolveKey hkey, hapart.initialStates name hname,
      hapart.name name hname, (distinctLabels_iff hvalid).1 hapart.distinct name hname⟩
  rw [hkey] at hlabel
  exact Except.ok.inj hlabel

end Running

end FsmCompiler
