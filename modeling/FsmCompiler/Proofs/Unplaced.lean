/-
# Places are no part of what a machine is

Every declaration carries the place where it stands, and what is derived from declarations
carries it on. Names are compared without it: a machine put elsewhere has the same derived
sets, defects and module, put elsewhere, and the text of the module tells no places.
-/

import FsmCompiler.Module.Text
import FsmCompiler.Proofs.Relocation
import FsmCompiler.Proofs.Validity

namespace FsmCompiler

open Source (Location)
open Validation

/-! ## Other places -/

/-- The machine without the places of its declarations. -/
def Machine.unplaced (m : Machine) : Machine := m.relocate fun _ => none

/-- The variant at the place that `f` gives it. -/
def Variant.relocate (f : Option Location → Option Location) (v : Variant) : Variant :=
  ⟨v.tag, v.state.relocate f, v.event.map (·.relocate f)⟩

@[simp] theorem Variant.relocate_tag (f : Option Location → Option Location) (v : Variant) :
    (v.relocate f).tag = v.tag := rfl

/-- The arm at the place that `f` gives it. -/
def Arm.relocate (f : Option Location → Option Location) (arm : Arm) : Arm :=
  ⟨arm.variant.relocate f, match arm.response with
    | .stay => .stay
    | .fireFirst chain => .fireFirst (chain.map fun c => ⟨c.event.relocate f, c.target.relocate f⟩)⟩

/-- The finding at the place that `f` gives it. -/
def Finding.relocate (f : Option Location → Option Location) (finding : Finding α) : Finding α :=
  { finding with loc := f finding.loc }

/-- The module with its parameters at the places that `f` gives them. -/
def CompiledModule.relocate (f : Option Location → Option Location) (code : CompiledModule) :
    CompiledModule :=
  { code with
    guardResources := code.guardResources.map (·.relocate f)
    actionResources := code.actionResources.map (·.relocate f) }

variable {f : Option Location → Option Location} {m : Machine}

/-! ## Derived sets -/

namespace Machine

theorem mentionedStates_relocate :
    (m.relocate f).mentionedStates = m.mentionedStates.map (·.relocate f) := by
  simp [mentionedStates, List.flatMap_map, List.map_flatMap]

@[simp] theorem states_relocate : (m.relocate f).states = m.states.map (·.relocate f) := by
  rw [states, mentionedStates_relocate, distinctBy_map]
  rfl

@[simp] theorem nonTerminalStates_relocate :
    (m.relocate f).nonTerminalStates = m.nonTerminalStates.map (·.relocate f) := by
  have hsources : (m.relocate f).transitions.map (·.source) =
      (m.transitions.map (·.source)).map (·.relocate f) := by
    simp
  rw [nonTerminalStates, hsources, distinctBy_map]
  rfl

@[simp] theorem events_relocate : (m.relocate f).events = m.events.map (·.relocate f) := by
  have hevents : (m.relocate f).transitions.map (·.event) =
      (m.transitions.map (·.event)).map (·.relocate f) := by
    simp
  rw [events, hevents, distinctBy_map]
  rfl

theorem terminalStates_relocate :
    (m.relocate f).terminalStates = m.terminalStates.map (·.relocate f) := by
  have hnames :
      (m.relocate f).nonTerminalStates.map (·.name) = m.nonTerminalStates.map (·.name) := by
    simp
  rw [terminalStates, states_relocate, hnames, List.filter_map]
  rfl

theorem variants_relocate : (m.relocate f).variants = m.variants.map (·.relocate f) := by
  have hvariants : (m.relocate f).initialStates.map Variant.initial ++
      (m.relocate f).transitions.map Variant.entered =
        (m.initialStates.map Variant.initial ++ m.transitions.map Variant.entered).map
          (·.relocate f) := by
    rw [List.map_append, List.map_map, List.map_map, relocate_initialStates,
      relocate_transitions, List.map_map, List.map_map]
    rfl
  rw [variants, hvariants, distinctBy_map]
  rfl

theorem transitionsFrom_relocate (state : String) :
    (m.relocate f).transitionsFrom state = (m.transitionsFrom state).map (·.relocate f) := by
  simp [transitionsFrom, List.filter_map, Function.comp_def]

theorem arms_relocate : (m.relocate f).arms = m.arms.map (·.relocate f) := by
  simp [arms, armsFor, derived, chainFrom, terminalStates_relocate, variants_relocate,
    transitionsFrom_relocate, List.flatMap_map, List.map_flatMap, List.filter_map,
    Function.comp_def, Arm.relocate, Variant.relocate]

@[simp] theorem labelNames_relocate : (m.relocate f).labelNames = m.labelNames := by
  simp [labelNames, Function.comp_def]

/-! ## Defects -/

theorem nameDefects_relocate :
    (m.relocate f).nameDefects = m.nameDefects.map (·.relocate f) := by
  simp [nameDefects, stateDefects, eventDefects, found, Finding.relocate, List.flatMap_map,
    List.map_flatMap, Function.comp_def]

theorem resourceDefectsFrom_relocate (labels earlier : List String) (resources : List Resource) :
    resourceDefectsFrom labels earlier (resources.map (·.relocate f)) =
      (resourceDefectsFrom labels earlier resources).map (·.map (·.relocate f)) := by
  induction resources generalizing earlier with
  | nil => rfl
  | cons r rest ih =>
    rw [List.map_cons, resourceDefectsFrom, resourceDefectsFrom, Resource.relocate_type,
      Resource.relocate_name, ih]
    cases isType? r.type with
    | none => rfl
    | some isType =>
      cases resourceDefectsFrom labels (earlier ++ [r.name]) rest <;>
        simp [Except.map, found, Finding.relocate, Function.comp_def]

theorem resourceDefects_relocate :
    (m.relocate f).resourceDefects = m.resourceDefects.map (·.map (·.relocate f)) := by
  rw [resourceDefects, labelNames_relocate, resourceDefects, ← resourceDefectsFrom_relocate,
    List.map_append]
  rfl

theorem tagDefectsFrom_relocate (owners : Table String (String × Option String))
    (rules : List Transition) :
    tagDefectsFrom owners (rules.map (·.relocate f)) =
      (tagDefectsFrom owners rules).map (·.relocate f) := by
  induction rules generalizing owners with
  | nil => rfl
  | cons t rest ih =>
    simp [tagDefectsFrom, ih, found, Finding.relocate]

theorem targetDefectsFrom_relocate (targets : Table (String × String) String)
    (rules : List Transition) :
    targetDefectsFrom targets (rules.map (·.relocate f)) =
      (targetDefectsFrom targets rules).map (·.relocate f) := by
  induction rules generalizing targets with
  | nil => rfl
  | cons t rest ih =>
    simp [targetDefectsFrom, ih, found, Finding.relocate]

theorem initialOwners_relocate : (m.relocate f).initialOwners = m.initialOwners := by
  simp [initialOwners, List.foldl_map]

/-- A machine put elsewhere has the same defects, put elsewhere. -/
theorem defects_relocate :
    (m.relocate f).defects = m.defects.map (·.map (·.relocate f)) := by
  have htags : (m.relocate f).tagDefects = m.tagDefects.map (·.relocate f) := by
    rw [tagDefects, initialOwners_relocate]
    exact tagDefectsFrom_relocate _ _
  have htargets : (m.relocate f).targetDefects = m.targetDefects.map (·.relocate f) :=
    targetDefectsFrom_relocate _ _
  rw [defects, defects, resourceDefects_relocate, nameDefects_relocate, htags, htargets]
  cases m.resourceDefects <;> simp [Except.map]

theorem validate_relocate_eq_ok_iff :
    (m.relocate f).validate = .ok () ↔ m.validate = .ok () := by
  rw [validate_eq_ok_iff_defects, validate_eq_ok_iff_defects, defects_relocate]
  cases m.defects <;> simp [Except.map]

/-! ## Modules -/

/-- A machine put elsewhere is compiled to the same module, but for the places. -/
theorem compile_relocate (source : Option String) :
    (m.relocate f).compile source = (m.compile source).relocate f := by
  have hinitial : (m.relocate f).isInitial = m.isInitial := by
    funext name
    simp [isInitial, initialNames, Function.comp_def]
  have hentry : ∀ v : Variant, tagEntry (v.relocate f) = tagEntry v := by
    intro v
    simp [tagEntry, Variant.relocate, Variant.eventName?, Function.comp_def]
  have hbranch : ∀ arm : Arm, branchDef (arm.relocate f) = branchDef arm := by
    rintro ⟨v, response⟩
    cases response <;>
      simp [branchDef, Arm.relocate, Variant.relocate, Response.chain, Function.comp_def]
  have hlabels : (m.relocate f).labelDefs (m.relocate f).derived = m.labelDefs m.derived := by
    simp only [labelDefs, hinitial, derived, states_relocate, events_relocate, List.map_map]
    rfl
  rw [compile, compileWith, hlabels]
  simp [compile, compileWith, derived, terminalStates_relocate, variants_relocate, arms_relocate,
    hentry, hbranch, CompiledModule.relocate, initialNames, Function.comp_def]

end Machine

/-- The text of a module tells no places. -/
theorem ModuleText.ofModule_relocate (code : CompiledModule) :
    ofModule (code.relocate f) = ofModule code := by
  have hargs : ∀ resources : List Resource,
      args (resources.map (·.relocate f)) = args resources := by
    simp [args, Function.comp_def]
  have hparams : ∀ resources : List Resource,
      params (resources.map (·.relocate f)) = params resources := by
    simp [params, Function.comp_def]
  have hdispatch : dispatch (code.relocate f) = dispatch code := by
    simp [dispatch, dispatchParams, CompiledModule.relocate, hargs, hparams]
  rw [ofModule, rows, hdispatch]
  rfl

namespace Machine

/-- Machines that agree up to places are accepted alike. -/
theorem validate_eq_ok_iff_of_unplaced {m' : Machine} (hsame : m.unplaced = m'.unplaced) :
    m.validate = .ok () ↔ m'.validate = .ok () := by
  have hplaces := congrArg (fun m : Machine => m.validate = .ok ()) hsame
  simpa only [unplaced, validate_relocate_eq_ok_iff, eq_iff_iff] using hplaces

/-- Machines that agree up to places are compiled to the same text. -/
theorem text_eq_of_unplaced {m' : Machine} (hsame : m.unplaced = m'.unplaced)
    (source : Option String) :
    ModuleText.ofModule (m.compile source) = ModuleText.ofModule (m'.compile source) := by
  have hplaces := congrArg (fun m : Machine => ModuleText.ofModule (m.compile source)) hsame
  simpa only [unplaced, compile_relocate, ModuleText.ofModule_relocate] using hplaces

end Machine

end FsmCompiler
