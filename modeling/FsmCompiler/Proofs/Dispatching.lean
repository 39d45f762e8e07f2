/-
# Dispatching in machines that are read

A machine that is read from a text declares types that are nested expressions, so the
dispatch function has one parameter for each resource. With it the machine starts, follows
events and dispatches as declared exactly if its names stay apart.
-/

import FsmCompiler.Proofs.FirstEnabled
import FsmCompiler.Proofs.Occurrence
import FsmCompiler.Proofs.Parameters
import FsmCompiler.Proofs.Reading

namespace FsmCompiler

open Text (compatible)

/-! ## Parameters of a machine that is read -/

namespace Running

variable {m : FsmCompiler.Machine} {load : Nat} {source : Option String} {module : LoadedModule}
  {file text : String} {machines : List FsmCompiler.Machine}

/-- The types of a valid machine that is read are declared types. -/
theorem declaredType_of_read (hread : Reader.read file text = .ok machines) (hm : m ∈ machines)
    (hvalid : m.Valid) {r : Resource} (hr : r ∈ m.guardResources ++ m.actionResources) :
    Target.DeclaredType r.type := by
  obtain ⟨tokens, hscan, hfile⟩ := Reader.exists_file_of_read hread
  obtain ⟨block, hblock, houter⟩ := hfile.exists_block hm
  obtain ⟨part, hitem, hinner⟩ := hblock.exists_resource hr
  have hmem := (hinner.trans houter).subset
  cases hitem with
  | intro _ _ hrun _ =>
    refine ⟨?_, (hvalid.resource hr).expression⟩
    exact Target.typeChars_ofTokens hrun fun token h =>
      Target.spelled_of_scanFrom hscan token (hmem (by simp [h]))

/-- The parameters of a machine that is read are its resources, each of which has its own. -/
theorem resourceParams_of_read (hread : Reader.read file text = .ok machines) (hm : m ∈ machines)
    (hload : LoadedModule.ofMachine load m source = .ok module) :
    ResourceParams module ∧ module.params.Nodup := by
  obtain ⟨hvalid, doc, signature, kind, hcompiles, -, rfl⟩ := ofMachine_eq_ok_iff.1 hload
  obtain ⟨whole, hwhole, rfl⟩ := Option.map_eq_some_iff.1 hcompiles.parameters
  obtain ⟨hnames, hnodup⟩ := Target.names_of_signature (fun r hr =>
    ⟨(hvalid.resource hr).bindable.identifier, declaredType_of_read hread hm hvalid hr⟩) hwhole
  constructor
  · unfold ResourceParams
    simp only [hnames, List.drop_one, List.tail_cons]
    rfl
  · exact hnodup.sublist (List.drop_sublist 1 _)

/-- Dispatching fires the first enabled rule exactly if the names stay apart. For a
machine that is read from a text and loaded, and whose states and events take no name that
every module defines: over all runs of starting, following events and dispatching, it starts,
follows events and dispatches as declared if and only if its names stay apart. -/
theorem dispatches_iff_namesApart (hread : Reader.read file text = .ok machines) (hm : m ∈ machines)
    (hload : LoadedModule.ofMachine (load + 1) m source = .ok module) (hfresh : FreshLabels m) :
    Conforms m module ∧ Dispatches m module ↔ NamesApart m ∧ DispatchApart m := by
  obtain ⟨hparams, hnodup⟩ := resourceParams_of_read hread hm hload
  constructor
  · rintro ⟨hconforms, hdispatches⟩
    have hapart := hconforms.namesApart hfresh hload
    exact ⟨hapart, hdispatches.dispatchApart hapart hload hparams hnodup⟩
  · rintro ⟨hapart, hdispatch⟩
    exact ⟨conforms_of_namesApart hapart hload,
      dispatches_of_dispatchApart hapart hdispatch hload hparams hnodup⟩

/-- A machine that is read from line 1: its only rule leads from `A`, which stands in
`column` first, to `B`, and its guards take a number. -/
def guardedRule (resource : String) (column : Nat) : FsmCompiler.Machine where
  name := "M"
  transitions := [⟨⟨"Go", some ⟨"m", 1, column + 4⟩⟩, ⟨"A", some ⟨"m", 1, column + 9⟩⟩,
    ⟨"B", some ⟨"m", 1, column + 14⟩⟩, some ⟨"m", 1, column + 11⟩⟩]
  initialStates := [⟨"A", some ⟨"m", 1, column⟩⟩]
  guardResources := [⟨resource, "int", some ⟨"m", 1, 22⟩⟩]
  actionResources := []
  loc := some ⟨"m", 1, 1⟩

/-- The machine is loaded if its module can be made. -/
theorem exists_loaded_guardedRule (resource : String) (column : Nat)
    (hlabels : (guardedRule resource column).nameDefects = [])
    (hname : Machine.resourceNameDefects ["A", "B", "Go"] [] resource = [])
    (htop : (Target.topText ((guardedRule resource column).compile none)).isSome)
    (hparameters :
      (Target.dispatchSignature ((guardedRule resource column).compile none)).any (·.writable))
    (hkind : (machineClass 1 ((guardedRule resource column).compile none)
      (globalsOf (guardedRule resource column) 1)).toOption.isSome) :
    ∃ module, LoadedModule.ofMachine 1 (guardedRule resource column) none = .ok module ∧
      module.load = 1 := by
  have hvalid : (guardedRule resource column).Valid := by
    have htype : Validation.isType? "int" = some true := by
      refine Validation.isType?_eq_some_true_iff.2 ⟨?_, by decide +kernel⟩
      rw [Validation.nul]
      simp
    have hnames : (guardedRule resource column).labelNames = ["A", "B", "Go"] := rfl
    refine ⟨hlabels, ?_, rfl, rfl⟩
    rw [Machine.resourceDefects, hnames]
    simp [guardedRule, Machine.resourceDefectsFrom, hname, htype, Except.map,
      Validation.defectIf, Validation.found]
  have hreadable : Target.holdsNul ((guardedRule resource column).compile none) = false := by
    simp [Target.holdsNul, Machine.compile, Machine.compileWith, guardedRule]
  obtain ⟨kind, hkind⟩ := Option.isSome_iff_exists.1 hkind
  obtain ⟨module, hload, hmodule, -⟩ := exists_ofMachine_eq_ok
    (Machine.validate_eq_ok_iff.2 hvalid) hreadable htop hparameters (toOption_eq_some_iff.1 hkind)
  exact ⟨module, hload, hmodule⟩

/-- The machine whose guards take a number `n`. -/
theorem read_numbered :
    Reader.read "m" "M { GuardResources { n: int } InitialStates { A } Go { A => B } }" =
      .ok [guardedRule "n" 47] := by decide +kernel

theorem exists_loaded_numbered :
    ∃ module, LoadedModule.ofMachine 1 (guardedRule "n" 47) none = .ok module ∧
      ResourceParams module ∧ module.params.Nodup := by
  obtain ⟨module, hload, -⟩ := exists_loaded_guardedRule "n" 47 (by decide +kernel)
    (by decide +kernel) (by decide +kernel) (by decide +kernel) (by decide +kernel)
  exact ⟨module, hload, resourceParams_of_read read_numbered (List.mem_singleton.2 rfl) hload⟩

theorem namesApart_numbered : NamesApart (guardedRule "n" 47) := by decide +kernel

theorem dispatchApart_numbered : DispatchApart (guardedRule "n" 47) := by
  refine ⟨fun t ht _ => ?_, fun _ _ _ => ?_, fun _ => ?_⟩
  · rw [List.mem_singleton.1 ht]
    decide +kernel
  all_goals decide +kernel

/-- It does what was declared. -/
theorem guarded_dispatches :
    ∃ module, LoadedModule.ofMachine 1 (guardedRule "n" 47) none = .ok module ∧
      Conforms (guardedRule "n" 47) module ∧ Dispatches (guardedRule "n" 47) module := by
  obtain ⟨module, hload, -⟩ := exists_loaded_numbered
  exact ⟨module, hload,
    (dispatches_iff_namesApart read_numbered (List.mem_singleton.2 rfl) hload
      namesApart_numbered.fresh).2 ⟨namesApart_numbered, dispatchApart_numbered⟩⟩

/-- A parameter that hides the tags is taken for the type of the tags. -/
theorem dispatch_of_hidden {hooks : Hooks} {v : RunningVariant}
    {guardValues actionValues : List Datum} {first : BranchDef} {type : String}
    (hparams : ResourceParams module) (hsupplied : Supplied module.code guardValues actionValues)
    (hfirst : module.code.branches.head? = some first)
    (htype : (Frame.holding module hooks v guardValues actionValues []).localType? tagTypeName =
      some type) :
    (dispatch module hooks v (guardValues ++ actionValues)).result =
      .error (.noAttribute type (compatible first.tag)) := by
  rw [dispatch_of_supplied _ _ hparams hsupplied, Dispatch.runIn_run_of_hidden hfirst htype]

/-- The resource is no label, but as an identifier it is the type of the tags: no variant
can be dispatched on, whatever the hooks do. -/
theorem hidden_tags_not_dispatched :
    ∃ module r v, Reader.read "m"
        "M { GuardResources { VªriantTag: int } InitialStates { A } Go { A => B } }" =
          .ok [guardedRule "VªriantTag" 56] ∧
      LoadedModule.ofMachine 1 (guardedRule "VªriantTag" 56) none = .ok module ∧
      (∀ name ∈ (guardedRule "VªriantTag" 56).labelNames,
        name ∉ ["name", "initial_states", "transitions", "str", "variant", "tag", "machine"]) ∧
      RunningMachine.new module.kind
        (.labelClass ((guardedRule "VªriantTag" 56).classOf 1 "A")) = .ok r ∧
      r.asVariant = .ok v ∧
      ∀ hooks, (dispatch module hooks v [.whole 0]).result =
        .error (.noAttribute "int" "BByGo") := by
  let m := guardedRule "VªriantTag" 56
  have hread : Reader.read "m"
      "M { GuardResources { VªriantTag: int } InitialStates { A } Go { A => B } }" =
        .ok [m] := by decide +kernel
  obtain ⟨module, hload, hmodule⟩ := exists_loaded_guardedRule "VªriantTag" 56 (by decide +kernel)
    (by decide +kernel) (by decide +kernel) (by decide +kernel) (by decide +kernel)
  have hapart : NamesApart m := by decide +kernel
  obtain ⟨hparams, hnodup⟩ := resourceParams_of_read hread (List.mem_singleton.2 rfl) hload
  have hkind := kind_of_ofMachine hapart hload
  have hnew := new_eq_ok hkind (show "A" ∈ m.initialNames by decide)
    (show StandsFor m module.load (.labelClass (m.classOf module.load "A")) "A" from rfl)
  obtain ⟨hvalid, hcode, -, -⟩ := loadedFrom_of_ofMachine hload
  obtain ⟨w, hw⟩ := (Reached.new hnew).exists_atVariant hvalid hmodule hkind
  refine ⟨module, _, _, hread, hload, by decide +kernel, hmodule ▸ hnew,
    hw.asVariant hmodule hkind, fun hooks => ?_⟩
  have hsupplied : Supplied module.code [.whole 0] [] :=
    supplied_of_length hload hparams hnodup rfl rfl
  have hfirst : module.code.branches.head? = some ⟨"BByGo", []⟩ := by
    rw [hcode]
    decide +kernel
  have hparameter : parameterOf ⟨"VªriantTag", "int", some ⟨"m", 1, 22⟩⟩ = tagTypeName := by
    decide +kernel
  have htype : ∀ v, (Frame.holding module hooks v [.whole 0] [] []).localType? tagTypeName =
      some "int" := by
    intro v
    unfold Frame.localType?
    rw [compatible_tagTypeName, Frame.holding, hcode]
    simp only [guardedRule, Machine.compile, Machine.compileWith, List.map_cons, hparameter]
    rfl
  have htag : compatible "BByGo" = "BByGo" := by decide +kernel
  refine (dispatch_of_hidden hparams hsupplied hfirst (htype _)).trans ?_
  rw [htag]

end Running

end FsmCompiler
