/-
# Packages and linting

A package is rendered exactly if linting finds no defect and no two machines share a
module. Then it has one file for each machine and one that imports them all, and none of
them takes the place of another. Otherwise the fault is that of the first machine that is
refused: linting finds the same defects in it, or an earlier machine has its module.
-/

import FsmCompiler.Package.Rendering
import FsmCompiler.Proofs.Lines
import FsmCompiler.Proofs.ModuleNames
import Mathlib.Data.List.Nodup

namespace FsmCompiler

open Validation

/-! ## The file that imports the modules -/

namespace ModuleText

/-- The rows of a text that import modules of its package. -/
def importRows (text : String) : List String :=
  (Text.lines text).filter fun row => row.startsWith "from . import "

/-- The rows of a text from the list of the names that it exports on. -/
def exportRows (text : String) : List String :=
  (Text.lines text).dropWhile (· ≠ "__all__ = [")

/-- A text that imports and exports some modules and nothing else. No name holds a comma, a
quote or a line feed, so the rows determine the names. -/
structure Imports (modules : List String) (text : String) : Prop where
  words : ∀ name ∈ modules, ∀ c ∈ name.toList, Text.WordLike c
  imported : importRows text =
    if modules = [] then [] else ["from . import " ++ Text.commaList modules]
  exported : exportRows text =
    "__all__ = [" :: modules.map (fun name => "    \"" ++ name ++ "\",") ++ ["]", ""]

/-- The rows of the text of `packageInit`. -/
def initRows (modules : List String) : List String :=
  [longQuote, "Generated state machines.", generatedMark, longQuote] ++
    (if modules = [] then [] else ["", "from . import " ++ Text.commaList modules]) ++
    ["", "__all__ = ["] ++ modules.map (fun name => "    \"" ++ name ++ "\",") ++ ["]"]

theorem packageInit_eq (modules : List String) :
    packageInit modules = Text.unlines (initRows modules) ++ "\n" := by
  have hquoted : ∀ name : String, body s!"\"{name}\"," = "    \"" ++ name ++ "\"," := by
    intro name
    apply String.toList_injective
    simp [body, indent, toString]
  have hrows : quotedNames modules = modules.map fun name => "    \"" ++ name ++ "\"," :=
    List.map_congr_left fun name _ => hquoted name
  rw [packageInit, initRows, hrows]
  cases modules <;> rfl

variable {modules : List String}

/-- No row of the importing file holds a line feed. -/
theorem newline_not_mem_initRows (hwords : ∀ name ∈ modules, ∀ c ∈ name.toList, Text.WordLike c) :
    ∀ row ∈ initRows modules, '\n' ∉ row.toList := by
  have hnames : ∀ name ∈ modules, '\n' ∉ ("    \"" ++ name ++ "\",").toList := by
    intro name hname hmem
    simp only [String.toList_append, List.mem_append] at hmem
    rcases hmem with (hmem | hmem) | hmem
    · simp at hmem
    · exact Text.not_wordLike_newline (hwords name hname _ hmem)
    · simp at hmem
  have hcommas : '\n' ∉ (Text.commaList modules).toList := by
    refine Text.newline_not_mem_commaList fun name hname hmem => ?_
    exact Text.not_wordLike_newline (hwords name hname _ hmem)
  have himport : '\n' ∉ ("from . import " ++ Text.commaList modules).toList := by
    simpa using hcommas
  intro row hrow
  simp only [initRows, List.mem_append, List.mem_cons, List.mem_map, List.not_mem_nil,
    or_false] at hrow
  rcases hrow with (((hrow | hrow) | hrow) | ⟨name, hname, rfl⟩) | rfl
  · rcases hrow with rfl | rfl | rfl | rfl <;> decide
  · split at hrow
    · cases hrow
    · rcases List.mem_pair.1 hrow with rfl | rfl
      · decide
      · exact himport
  · rcases hrow with rfl | rfl <;> decide
  · exact hnames name hname
  · decide

/-- A row for a quoted name imports nothing. -/
theorem quoted_startsWith (name : String) :
    ("    \"" ++ name ++ "\",").startsWith "from . import " = false := by
  rw [Bool.eq_false_iff, ne_eq, String.startsWith_string_iff]
  simp

theorem import_startsWith (names : String) :
    ("from . import " ++ names).startsWith "from . import " = true := by
  simp

/-- The importing file imports and exports the modules. -/
theorem imports_packageInit (hwords : ∀ name ∈ modules, ∀ c ∈ name.toList, Text.WordLike c) :
    Imports modules (packageInit modules) := by
  have hlines : Text.lines (packageInit modules) = initRows modules ++ [""] := by
    rw [packageInit_eq]
    exact Text.lines_unlines_append_newline (by simp [initRows]) (newline_not_mem_initRows hwords)
  have hquoted : (modules.map fun name => "    \"" ++ name ++ "\",").filter
      (·.startsWith "from . import ") = [] := by
    rw [List.filter_eq_nil_iff]
    intro row hrow
    obtain ⟨name, -, rfl⟩ := List.mem_map.1 hrow
    simp [quoted_startsWith]
  refine ⟨hwords, ?_, ?_⟩
  · have hplain : ∀ row ∈ ["", "__all__ = [", "]", longQuote, "Generated state machines.",
        generatedMark], row.startsWith "from . import " = false := by
      intro row hrow
      rw [Bool.eq_false_iff, ne_eq, String.startsWith_string_iff]
      revert row
      decide
    rw [importRows, hlines, initRows]
    simp only [List.filter_append, hquoted]
    split <;> simp [hplain, import_startsWith]
  · have himport : "from . import " ++ Text.commaList modules ≠ "__all__ = [" := by
      intro heq
      simpa using congrArg String.toList heq
    have hbefore : ∀ row ∈ [longQuote, "Generated state machines.", generatedMark, longQuote] ++
        (if modules = [] then [] else ["", "from . import " ++ Text.commaList modules]) ++ [""],
        row ≠ "__all__ = [" := by
      intro row hrow
      simp only [List.mem_append, List.mem_cons, List.not_mem_nil, or_false] at hrow
      rcases hrow with (hrow | hrow) | rfl
      · rcases hrow with rfl | rfl | rfl | rfl <;> decide
      · split at hrow
        · cases hrow
        · rcases List.mem_pair.1 hrow with rfl | rfl
          · decide
          · exact himport
      · decide
    have hrows : initRows modules ++ [""] =
        ([longQuote, "Generated state machines.", generatedMark, longQuote] ++
          (if modules = [] then [] else ["", "from . import " ++ Text.commaList modules]) ++
            [""]) ++
        "__all__ = [" :: modules.map (fun name => "    \"" ++ name ++ "\",") ++ ["]", ""] := by
      simp [initRows]
    rw [exportRows, hlines, hrows, List.append_assoc _ _ ["]", ""],
      List.dropWhile_append_of_pos fun row hrow => decide_eq_true (hbefore row hrow)]
    simp

end ModuleText

/-! ## Linting -/

/-- No type of the machines holds a NUL character, so that all types can be looked at. -/
def Readable (placed : List (Path × Machine)) : Prop :=
  ∀ entry ∈ placed, ∀ r ∈ entry.2.guardResources ++ entry.2.actionResources,
    r.type.contains nul = false

namespace Machine

variable {m : Machine}

/-- The defects of resources are found if and only if reading each type comes to an end. -/
theorem exists_resourceDefectsFrom_iff [TargetVersion] {labels : List String}
    (earlier : List String) {resources : List Resource} :
    (∃ defects, resourceDefectsFrom labels earlier resources = .ok defects) ↔
      ∀ r ∈ resources, (isType? r.type).isSome := by
  induction resources generalizing earlier with
  | nil => simp [resourceDefectsFrom]
  | cons first rest ih =>
    rw [List.forall_mem_cons, ← ih (earlier ++ [first.name]), resourceDefectsFrom]
    cases isType? first.type with
    | none => simp
    | some isType =>
      cases resourceDefectsFrom labels (earlier ++ [first.name]) rest <;> simp [Except.map]

/-- The defects of a machine are found if and only if reading each type comes to an end. -/
theorem exists_defects_iff [TargetVersion] : (∃ defects, m.defects = .ok defects) ↔
    ∀ r ∈ m.guardResources ++ m.actionResources, (isType? r.type).isSome := by
  have hresources : (∃ defects, m.resourceDefects = .ok defects) ↔ _ :=
    exists_resourceDefectsFrom_iff _
  rw [← hresources, defects]
  cases m.resourceDefects <;> simp [Except.map]

theorem exists_defects
    (hreadable : ∀ r ∈ m.guardResources ++ m.actionResources, r.type.contains nul = false) :
    ∃ defects, m.defects = .ok defects :=
  exists_defects_iff.2 fun r hr => isSome_isType?_iff.2 (.inr (hreadable r hr))

/-- Linting a machine finds its defects, whether or not spelling is looked at. -/
theorem exists_lint [TargetVersion] {defects : List (Finding Defect)} (extended : Bool)
    (hdefects : m.defects = .ok defects) : ∃ doubts, m.lint extended = .ok ⟨defects, doubts⟩ := by
  rw [lint_eq, hdefects]
  exact ⟨_, rfl⟩

/-- Validation rejects a machine for its defects. -/
theorem validate_of_defects [TargetVersion] {defects : List (Finding Defect)}
    (hdefects : m.defects = .ok defects) :
    m.validate = if defects = [] then .ok () else .error (.defective m defects) := by
  rw [validate_eq, hdefects]

end Machine

/-! ## Linting a project -/

namespace Lint

variable {files : List MachineFile} {placed : List (Path × Machine)} {extended : Bool}

/-- Linting machines finds no defect exactly if none of them has one and each has a name of
its own, which no machine before has. -/
theorem machinesFrom_defects (extended : Bool) (definedIn : Table String Path)
    (hreadable : Readable placed) :
    ∃ result, machinesFrom extended definedIn placed = .ok result ∧
      (result.defects = [] ↔
        (∀ entry ∈ placed, entry.2.validate = .ok () ∧ definedIn.lookup entry.2.name = none) ∧
          (placed.map (·.2.name)).Nodup) := by
  induction placed generalizing definedIn with
  | nil => exact ⟨_, rfl, by simp⟩
  | cons entry rest ih =>
    obtain ⟨path, m⟩ := entry
    obtain ⟨defects, hdefects⟩ := Machine.exists_defects (hreadable _ List.mem_cons_self)
    obtain ⟨later, hlater, hiff⟩ := ih (definedIn.remember m.name path).2
      fun entry hentry => hreadable entry (List.mem_cons_of_mem _ hentry)
    have hhere : defects = [] ↔ m.validate = .ok () := by
      rw [Machine.validate_of_defects hdefects]
      split <;> simp_all
    obtain ⟨doubts, hlint⟩ := Machine.exists_lint extended hdefects
    refine ⟨_, by rw [machinesFrom, hlint, hlater]; rfl, ?_⟩
    have hremember : ∀ name, ((definedIn.remember m.name path).2).lookup name = none ↔
        definedIn.lookup name = none ∧ name ≠ m.name := by
      intro name
      rw [Table.lookup_remember]
      simp
    simp only [LintResult.append, List.append_eq_nil_iff, found_eq_nil_iff, List.map_eq_nil_iff,
      Option.toList_eq_nil_iff, hhere, hiff, hremember, List.forall_mem_cons, List.map_cons,
      List.nodup_cons, List.mem_map, not_exists, not_and]
    constructor
    · rintro ⟨hnew, hvalid, hrest, hnodup⟩
      exact ⟨⟨⟨hvalid, hnew⟩,
          fun other hother => ⟨(hrest other hother).1, (hrest other hother).2.1⟩⟩,
        fun other hother => (hrest other hother).2.2, hnodup⟩
    · rintro ⟨⟨⟨hvalid, hnew⟩, hrest⟩, hdistinct, hnodup⟩
      exact ⟨hnew, hvalid,
        fun other hother =>
          ⟨(hrest other hother).1, (hrest other hother).2, hdistinct other hother⟩,
        hnodup⟩

/-- Linting a project whose types can be looked at finds no defect exactly if every machine
is valid and has a name of its own. -/
theorem files_errors (hreadable : Readable (placedMachines files)) (extended : Bool) :
    ∃ result, Lint.files extended files = .ok result ∧
      (result.errors = [] ↔
        (∀ entry ∈ placedMachines files, entry.2.validate = .ok ()) ∧
          ((placedMachines files).map (·.2.name)).Nodup) := by
  obtain ⟨result, hresult, hiff⟩ := machinesFrom_defects extended [] hreadable
  refine ⟨_, by rw [Lint.files, hresult]; rfl, ?_⟩
  simpa [LintResult.errors, LintResult.append] using hiff

end Lint

/-! ## Rendering a package -/

namespace Package

variable {files : List MachineFile} {placed before : List (Path × Machine)} {extended : Bool}
  {m : Machine} {fault : RenderFault}

/-- The names of the modules of machines. -/
def moduleNames (placed : List (Path × Machine)) : List String := placed.map (·.2.moduleName)

/-- Machines without defects, each with a module of its own. -/
structure Renderable (placed : List (Path × Machine)) : Prop where
  valid : ∀ entry ∈ placed, entry.2.validate = .ok ()
  distinct : (moduleNames placed).Nodup

/-- Why a machine is refused after those before it: linting finds defects in it, and they
are what is reported, or it has the module of one of those before. -/
inductive Refused (extended : Bool) (before : List (Path × Machine)) (m : Machine) :
    RenderFault → Prop
  | defective {result : LintResult} (hlint : m.lint extended = .ok result)
      (hvalidate : m.validate = .error (.defective m result.defects))
      (herrors : result.errors ≠ [])
      (hmessage : (Rejection.defective m result.defects).report.message =
        Text.unlines result.errors) :
      Refused extended before m (.rejected (.defective m result.defects))
  | shared {owner : Path × Machine} (hvalidate : m.validate = .ok ()) (howner : owner ∈ before)
      (hname : owner.2.moduleName = m.moduleName) :
      Refused extended before m (.sharedModule m.moduleName owner.2.name m.name)

/-- A fault is that of the first machine that is refused. -/
def FirstRefused (extended : Bool) (placed : List (Path × Machine)) (fault : RenderFault) : Prop :=
  ∃ before path m after, placed = before ++ (path, m) :: after ∧ Renderable before ∧
    Refused extended before m fault

/-- The module of a machine, and the machine that has it. -/
def owners (placed : List (Path × Machine)) : Table String String :=
  placed.map fun entry => (entry.2.moduleName, entry.2.name)

/-- A machine as it is rendered. -/
def renderedOf (entry : Path × Machine) : Rendered := ⟨entry.2, entry.1.name⟩

/-- Wherever a report points, its message is the one it was made with. -/
theorem message_located (message : String) (file : Option String) (line column : Option Int)
    (machine : Option String) :
    (Source.Report.located message file line column machine).message = message := by
  unfold Source.Report.located
  split
  · split <;> rfl
  · rfl

theorem lookup_owners_eq_none_iff {name : String} :
    (owners before).lookup name = none ↔ name ∉ moduleNames before := by
  rw [List.lookup_eq_none_iff]
  simp only [owners, moduleNames, List.mem_map, bne_iff_ne, not_exists, not_and]
  constructor
  · rintro hnone entry hentry rfl
    exact hnone _ ⟨entry, hentry, rfl⟩ rfl
  · rintro hnone _ ⟨entry, hentry, rfl⟩ rfl
    exact hnone entry hentry rfl

/-- The owner of a module is a machine that has it. -/
theorem exists_of_lookup_owners {name first : String}
    (hlookup : (owners before).lookup name = some first) :
    ∃ owner ∈ before, owner.2.moduleName = name ∧ owner.2.name = first := by
  obtain ⟨earlier, later, howners, -⟩ := List.lookup_eq_some_iff.1 hlookup
  have hmem : (name, first) ∈ owners before := by simp [howners]
  obtain ⟨owner, howner, heq⟩ := List.mem_map.1 hmem
  cases heq
  exact ⟨owner, howner, rfl, rfl⟩

/-- A machine is rendered, or refused for a reason. -/
theorem renderOne_cases (before : List (Path × Machine)) (m : Machine) (path : Path)
    (extended : Bool)
    (hreadable : ∀ r ∈ m.guardResources ++ m.actionResources, r.type.contains nul = false) :
    (m.validate = .ok () ∧ m.moduleName ∉ moduleNames before ∧
        renderOne (owners before) path m = .ok (renderedOf (path, m))) ∨
      ∃ fault, Refused extended before m fault ∧
        renderOne (owners before) path m = .error fault := by
  obtain ⟨defects, hdefects⟩ := Machine.exists_defects hreadable
  have hvalidate := Machine.validate_of_defects hdefects
  by_cases hnone : defects = []
  · rw [if_pos hnone] at hvalidate
    cases howner : (owners before).lookup m.moduleName with
    | none =>
      left
      refine ⟨hvalidate, lookup_owners_eq_none_iff.1 howner, ?_⟩
      rw [renderOne, hvalidate]
      simp [howner, renderedOf]
    | some first =>
      right
      obtain ⟨owner, hmem, hname, rfl⟩ := exists_of_lookup_owners howner
      refine ⟨_, .shared hvalidate hmem hname, ?_⟩
      rw [renderOne, hvalidate]
      simp [howner]
  · rw [if_neg hnone] at hvalidate
    obtain ⟨doubts, hlint⟩ := Machine.exists_lint extended hdefects
    refine .inr ⟨_, .defective hlint hvalidate ?_ (message_located _ _ _ _ _), ?_⟩
    · simpa [LintResult.errors] using hnone
    · rw [renderOne, hvalidate]

/-- Machines are rendered after those before them, or the first that is refused stops it. -/
theorem renderFrom_cases (extended : Bool) (hreadable : Readable placed)
    (hbefore : Renderable before) :
    (Renderable (before ++ placed) ∧
        renderFrom (owners before) placed = (placed.map renderedOf, none)) ∨
      ∃ fault, FirstRefused extended (before ++ placed) fault ∧
        (renderFrom (owners before) placed).2 = some fault := by
  induction placed generalizing before with
  | nil => exact .inl ⟨by simpa using hbefore, rfl⟩
  | cons entry rest ih =>
    obtain ⟨path, m⟩ := entry
    rcases renderOne_cases before m path extended (hreadable _ List.mem_cons_self) with
      ⟨hvalid, hnew, hone⟩ | ⟨fault, hrefused, hone⟩
    · have hbefore : Renderable (before ++ [(path, m)]) := by
        constructor
        · intro entry hentry
          rcases List.mem_append.1 hentry with hentry | hentry
          · exact hbefore.valid entry hentry
          · rw [List.mem_singleton.1 hentry]
            exact hvalid
        · rw [moduleNames, List.map_append]
          exact hbefore.distinct.append (List.nodup_singleton _) (by simpa using hnew)
      have howners :
          owners before ++ [(m.moduleName, m.name)] = owners (before ++ [(path, m)]) := by
        simp [owners]
      have hrest := ih (fun entry hentry => hreadable entry (List.mem_cons_of_mem _ hentry)) hbefore
      rw [List.append_assoc, List.singleton_append] at hrest
      rw [renderFrom, hone]
      simp only [howners]
      rcases hrest with ⟨hall, hrest⟩ | ⟨fault, hfirst, hrest⟩
      · rw [hrest]
        exact .inl ⟨hall, rfl⟩
      · exact .inr ⟨fault, hfirst, hrest⟩
    · refine .inr ⟨fault, ⟨before, path, m, rest, rfl, hbefore, hrefused⟩, ?_⟩
      rw [renderFrom, hone]

/-- Where a machine is refused, not all machines can be rendered. -/
theorem FirstRefused.not_renderable (hfirst : FirstRefused extended placed fault) :
    ¬ Renderable placed := by
  obtain ⟨before, path, m, after, rfl, -, hrefused⟩ := hfirst
  rintro ⟨hvalid, hdistinct⟩
  have hm : m.validate = .ok () := hvalid (path, m) (by simp)
  cases hrefused with
  | defective _ hvalidate =>
    rw [hm] at hvalidate
    cases hvalidate
  | @shared owner _ howner hname =>
    rw [moduleNames, List.map_append, List.nodup_append] at hdistinct
    exact hdistinct.2.2 _ (List.mem_map_of_mem howner) _ (by simp) hname

/-- Machines with modules of their own have names of their own. -/
theorem nodup_names (hdistinct : (moduleNames placed).Nodup) :
    (placed.map (·.2.name)).Nodup := by
  refine List.Nodup.of_map Naming.moduleName ?_
  rw [List.map_map]
  exact hdistinct

/-- The name of the file for a machine, and its text. -/
def moduleFile (entry : Path × Machine) : String × String :=
  (entry.2.moduleName ++ ".py", ModuleText.ofModule (entry.2.compile (some entry.1.name)))

/-- A package of machines: one file for each machine, in order, and a last one that imports
them. No file has the name of another, so none is written over another. -/
structure IsPackage (placed : List (Path × Machine)) (package : List (String × String)) : Prop where
  files : ∃ init, package = placed.map moduleFile ++ [("__init__.py", init)] ∧
    ModuleText.Imports (moduleNames placed) init
  distinct : (package.map (·.1)).Nodup

/-- The modules of machines that can be rendered have names with no leading underscore, of
word characters. -/
theorem Renderable.name (hrenderable : Renderable placed) {name : String}
    (hname : name ∈ moduleNames placed) :
    name.toList.head? ≠ some '_' ∧ ∀ c ∈ name.toList, Text.WordLike c := by
  obtain ⟨entry, hentry, rfl⟩ := List.mem_map.1 hname
  have hbindable := (Machine.validate_eq_ok_iff.1 (hrenderable.valid entry hentry)).bindable
  exact ⟨Naming.head_moduleName_ne_underscore hbindable,
    fun c hc => Naming.wordLike_of_mem_moduleName hbindable hc⟩

/-- Machines that can be rendered have a package. -/
theorem isPackage_filesOf (hrenderable : Renderable placed) :
    IsPackage placed (filesOf (placed.map renderedOf)) := by
  have hmodules : (placed.map renderedOf).map (·.moduleName) = moduleNames placed := by
    simp [moduleNames, renderedOf, Rendered.moduleName]
  have hfiles : (placed.map renderedOf).map
      (fun r => (r.fileName, ModuleText.ofModule r.code)) = placed.map moduleFile := by
    simp [moduleFile, renderedOf, Rendered.fileName, Rendered.code, Rendered.moduleName,
      Rendered.suffix]
  rw [filesOf, hmodules, hfiles, initFile]
  constructor
  · exact ⟨_, rfl, ModuleText.imports_packageInit fun name hname => (hrenderable.name hname).2⟩
  · have hnames : (placed.map moduleFile).map (·.1) = (moduleNames placed).map (· ++ ".py") := by
      simp [moduleNames, moduleFile]
    rw [List.map_append, hnames, List.map_singleton]
    refine List.Nodup.append ?_ (List.nodup_singleton _) ?_
    · apply hrenderable.distinct.map
      intro first second heq
      exact (String.append_left_inj _).1 heq
    · rw [List.disjoint_singleton]
      intro hmem
      obtain ⟨name, hname, heq⟩ := List.mem_map.1 hmem
      apply (hrenderable.name hname).1
      have hinit : name = "__init__" := (String.append_left_inj ".py").1 heq
      rw [hinit]
      decide

/-- Files are rendered as a whole, or the first machine that is refused stops them. -/
theorem render_cases (hreadable : Readable (Lint.placedMachines files)) (extended : Bool) :
    (Renderable (Lint.placedMachines files) ∧
        render files = .ok (filesOf ((Lint.placedMachines files).map renderedOf))) ∨
      ∃ fault, FirstRefused extended (Lint.placedMachines files) fault ∧
        render files = .error fault := by
  have hnone : Renderable [] := ⟨by simp, by simp [moduleNames]⟩
  have howners : ([] : Table String String) = owners [] := rfl
  rcases renderFrom_cases extended hreadable hnone with ⟨hall, hrender⟩ | ⟨fault, hfirst, hrender⟩
  · exact .inl ⟨hall, by rw [render, renderAll, howners, hrender]⟩
  · refine .inr ⟨fault, hfirst, ?_⟩
    rw [render, renderAll, howners]
    cases hrun : renderFrom (owners []) (Lint.placedMachines files) with
    | mk rendered stopped =>
      rw [hrun] at hrender
      cases hrender
      rfl

/-- Rendering agrees with linting. -/
theorem render_agrees_with_lint (hreadable : Readable (Lint.placedMachines files))
    (extended : Bool) :
    ∃ result, Lint.files extended files = .ok result ∧
      ((∃ package, render files = .ok package) ↔
        result.errors = [] ∧ (moduleNames (Lint.placedMachines files)).Nodup) ∧
      (∀ package, render files = .ok package → IsPackage (Lint.placedMachines files) package) ∧
      ∀ fault, render files = .error fault →
        FirstRefused extended (Lint.placedMachines files) fault := by
  obtain ⟨result, hlint, hiff⟩ := Lint.files_errors hreadable extended
  have hrenderable : result.errors = [] ∧ (moduleNames (Lint.placedMachines files)).Nodup ↔
      Renderable (Lint.placedMachines files) := by
    rw [hiff]
    constructor
    · rintro ⟨⟨hvalid, -⟩, hdistinct⟩
      exact ⟨hvalid, hdistinct⟩
    · rintro ⟨hvalid, hdistinct⟩
      exact ⟨⟨hvalid, nodup_names hdistinct⟩, hdistinct⟩
  refine ⟨result, hlint, ?_⟩
  rw [hrenderable]
  rcases render_cases hreadable extended with ⟨hall, hok⟩ | ⟨fault, hfirst, herror⟩
  · rw [hok]
    refine ⟨⟨fun _ => hall, fun _ => ⟨_, rfl⟩⟩, ?_, by simp⟩
    rintro package ⟨⟩
    exact isPackage_filesOf hall
  · rw [herror]
    refine ⟨⟨by simp, fun hall => absurd hall hfirst.not_renderable⟩, by simp, ?_⟩
    rintro fault ⟨⟩
    exact hfirst

/-- A machine of some name with one state and one resource. -/
def lampNamed (name : String) : Machine :=
  ⟨name, [], [⟨"Off", none⟩], [⟨"power", "list[int]", none⟩], [], none⟩

/-- Two machines in two files. -/
def lampFiles (first second : String) : List MachineFile :=
  [⟨⟨"", ["a.sm"]⟩, [lampNamed first]⟩, ⟨⟨"", ["b.sm"]⟩, [lampNamed second]⟩]

/-- Types without a NUL are what rendering and linting need to agree. -/
theorem lampFiles_agree :
    Readable (Lint.placedMachines (lampFiles "Lamp" "StreetLamp")) ∧
      ∃ result, Lint.files true (lampFiles "Lamp" "StreetLamp") = .ok result ∧
        ((∃ package, render (lampFiles "Lamp" "StreetLamp") = .ok package) ↔
          result.errors = [] ∧
            (moduleNames (Lint.placedMachines (lampFiles "Lamp" "StreetLamp"))).Nodup) ∧
        (∀ package, render (lampFiles "Lamp" "StreetLamp") = .ok package →
          IsPackage (Lint.placedMachines (lampFiles "Lamp" "StreetLamp")) package) ∧
        ∀ fault, render (lampFiles "Lamp" "StreetLamp") = .error fault →
          FirstRefused true (Lint.placedMachines (lampFiles "Lamp" "StreetLamp")) fault := by
  have hreadable : Readable (Lint.placedMachines (lampFiles "Lamp" "StreetLamp")) := by
    intro entry hentry r hr
    have hresources : entry.2.guardResources ++ entry.2.actionResources =
        [⟨"power", "list[int]", none⟩] := by
      rcases List.mem_pair.1 hentry with rfl | rfl <;> rfl
    rw [hresources, List.mem_singleton] at hr
    rw [hr, String.contains_char_eq]
    decide
  exact ⟨hreadable, render_agrees_with_lint hreadable true⟩

end Package

end FsmCompiler
