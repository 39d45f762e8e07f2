/-
# Checking machines that have been read

A check of machines finds defects or none, unless reading a type fails: early versions of the
target language fail at a NUL character, which later ones refuse. Only strings bring
characters of any kind into a type, and a string stands nowhere but in types. So the checks of
what was read come to an end exactly if the version is a later one, or no string of the texts
holds a NUL.
-/

import FsmCompiler.Command.Run
import FsmCompiler.Proofs.Generation
import FsmCompiler.Proofs.Occurrence
import FsmCompiler.Proofs.Reading
import FsmCompiler.Proofs.Respelling

namespace FsmCompiler

open Validation (nul isType? TargetVersion isSome_isType?_iff)

/-! ## Where strings stand -/

namespace Grammar

open TokenKind

variable {file : String} {tokens others : List Token} {resources more : List Resource}
  {machines : List Machine} {m : Machine}

/-- No token is a string. -/
def NoStrings (tokens : List Token) : Prop := ∀ token ∈ tokens, token.kind ≠ string

/-- Each string among some tokens is written in the type of one of some resources. -/
def StringsTyped (tokens : List Token) (resources : List Resource) : Prop :=
  ∀ token ∈ tokens, token.kind = string →
    ∃ r ∈ resources, ∃ type, TypeRun false type ∧ r.type = TypeText.ofTokens type ∧ token ∈ type

@[simp] theorem noStrings_nil : NoStrings [] := by simp [NoStrings]

@[simp] theorem noStrings_cons {token : Token} :
    NoStrings (token :: tokens) ↔ token.kind ≠ string ∧ NoStrings tokens :=
  List.forall_mem_cons

@[simp] theorem noStrings_append :
    NoStrings (tokens ++ others) ↔ NoStrings tokens ∧ NoStrings others :=
  List.forall_mem_append

@[simp] theorem stringsTyped_append : StringsTyped (tokens ++ others) resources ↔
    StringsTyped tokens resources ∧ StringsTyped others resources :=
  List.forall_mem_append

theorem NoStrings.stringsTyped (htokens : NoStrings tokens) : StringsTyped tokens resources :=
  fun token htoken hstring => absurd hstring (htokens token htoken)

theorem StringsTyped.mono (htokens : StringsTyped tokens resources) (hmore : resources ⊆ more) :
    StringsTyped tokens more := by
  intro token htoken hstring
  obtain ⟨r, hr, htype⟩ := htokens token htoken hstring
  exact ⟨r, hmore hr, htype⟩

theorem Semicolons.noStrings (htokens : Semicolons tokens) : NoStrings tokens := by
  intro token htoken
  simp [htokens token htoken]

theorem Separators.noStrings (htokens : Separators tokens) : NoStrings tokens := by
  intro token htoken
  rcases htokens token htoken with hkind | hkind <;> simp [hkind]

theorem SourceList.noStrings {sources : List Token} (hlist : SourceList tokens sources) :
    NoStrings tokens := by
  induction hlist with
  | one hname => simp [hname]
  | cons hname hseparator _ ih => simp [hname, hseparator, ih]

theorem Line.noStrings {event : Declaration} {rules : List Transition}
    (hline : Line file event tokens rules) : NoStrings tokens := by
  cases hline with
  | intro hsources harrow htarget => simp [hsources.noStrings, harrow, htarget]

theorem LineRun.noStrings {event : Declaration} {rules : List Transition}
    (hrun : LineRun file event tokens rules) : NoStrings tokens := by
  induction hrun with
  | one hline hseparators => simp [hline.noStrings, hseparators.noStrings]
  | cons hline hseparators _ ih => simp [hline.noStrings, hseparators.noStrings, ih]

theorem EventRun.noStrings {rules : List Transition} (hrun : EventRun file tokens rules) :
    NoStrings tokens := by
  induction hrun with
  | nil => exact noStrings_nil
  | cons hblock hseparators _ ih =>
    cases hblock with
    | intro hname hopening hbody hclosing =>
      simp [hname, hopening, hbody.noStrings, hclosing, hseparators.noStrings, ih]

theorem InitialBlock.noStrings {states : List Declaration}
    (hblock : InitialBlock file tokens states) : NoStrings tokens := by
  cases hblock with
  | @intro keyword _ body _ _ hkeyword hopening hbody hclosing =>
    have hnames : NoStrings body := by
      clear hkeyword
      induction hbody with
      | nil => exact noStrings_nil
      | last hitem =>
        cases hitem with
        | intro hname => simp [hname]
      | cons hitem hseparator _ ih =>
        cases hitem with
        | intro hname => simp [hname, hseparator, ih]
    have hkeyword : keyword.kind ≠ string := by
      rcases hkeyword with hkind | hkind <;> simp [hkind]
    simp [hkeyword, hopening, hnames, hclosing]

/-- Only the types of resources hold strings. -/
theorem CommaList.stringsTyped (hlist : CommaList (ResourceItem file) tokens resources) :
    StringsTyped tokens resources := by
  have hitems : ∀ {part r}, ResourceItem file part r → StringsTyped part [r] := by
    intro part r hitem
    cases hitem with
    | intro hname hseparator htype _ =>
      intro token htoken hstring
      simp only [List.mem_cons] at htoken
      rcases htoken with rfl | rfl | htoken
      · simp [hname] at hstring
      · simp [hseparator] at hstring
      · exact ⟨_, List.mem_singleton_self _, _, htype, rfl, htoken⟩
  induction hlist with
  | nil => exact noStrings_nil.stringsTyped
  | last hitem => exact hitems hitem
  | @cons _ _ separator rest _ hitem hseparator _ ih =>
    have hcomma : NoStrings [separator] := by simp [hseparator]
    rw [← List.singleton_append (l := rest), stringsTyped_append, stringsTyped_append]
    exact ⟨(hitems hitem).mono (by simp), hcomma.stringsTyped, ih.mono (by simp)⟩

theorem Optional.stringsTyped {kind : TokenKind} (hkind : kind ≠ string)
    (hblock : Optional (ResourceBlock file kind) tokens resources) :
    StringsTyped tokens resources := by
  cases hblock with
  | absent => exact noStrings_nil.stringsTyped
  | present hblock hseparators =>
    cases hblock with
    | @intro keyword opening body _ closing hkeyword hopening hbody hclosing =>
      have hfront : NoStrings [keyword, opening] := by simp [hkeyword, hkind, hopening]
      have hback : NoStrings [closing] := by simp [hclosing]
      have hsplit : keyword :: opening :: body ++ [closing] =
          [keyword, opening] ++ body ++ [closing] := rfl
      rw [hsplit, stringsTyped_append, stringsTyped_append, stringsTyped_append]
      exact ⟨⟨⟨hfront.stringsTyped, hbody.stringsTyped⟩, hback.stringsTyped⟩,
        hseparators.noStrings.stringsTyped⟩

theorem MachineBlock.stringsTyped (hblock : MachineBlock file tokens m) :
    StringsTyped tokens (m.guardResources ++ m.actionResources) := by
  cases hblock with
  | @intro name opening separators _ _ initialTokens _ closing _ _ _ _ hname hopening hseparators
      hguards hactions hinitials hevents hclosing _ =>
    have hfront : NoStrings (name :: opening :: separators) := by
      simp [hname, hopening, hseparators.noStrings]
    have hinitials : NoStrings initialTokens := by
      cases hinitials with
      | absent => exact noStrings_nil
      | present hblock hseparators => simp [hblock.noStrings, hseparators.noStrings]
    have hback : NoStrings [closing] := by simp [hclosing]
    simp only [stringsTyped_append, hfront.stringsTyped, hinitials.stringsTyped,
      hevents.noStrings.stringsTyped, hback.stringsTyped, and_true, true_and]
    exact ⟨(hguards.stringsTyped (by decide)).mono (List.subset_append_left _ _),
      (hactions.stringsTyped (by decide)).mono (List.subset_append_right _ _)⟩

/-- The resources of machines. -/
def resourcesOf (machines : List Machine) : List Resource :=
  machines.flatMap fun m => m.guardResources ++ m.actionResources

theorem MachineRun.stringsTyped (hrun : MachineRun file tokens machines) :
    StringsTyped tokens (resourcesOf machines) := by
  induction hrun with
  | nil => exact noStrings_nil.stringsTyped
  | cons hblock hseparators _ ih =>
    rw [stringsTyped_append, stringsTyped_append, resourcesOf, List.flatMap_cons]
    exact ⟨⟨hblock.stringsTyped.mono (List.subset_append_left _ _),
      hseparators.noStrings.stringsTyped⟩, ih.mono (List.subset_append_right _ _)⟩

/-- Each string of a file is written in the type of a resource. -/
theorem File.stringsTyped (hfile : File file tokens machines) :
    StringsTyped tokens (resourcesOf machines) := by
  cases hfile with
  | @intro _ _ _ ending hseparators hmachines hending =>
    have hback : NoStrings [ending] := by simp [hending]
    rw [stringsTyped_append, stringsTyped_append]
    exact ⟨⟨hseparators.noStrings.stringsTyped, hmachines.stringsTyped⟩, hback.stringsTyped⟩

/-- The tokens of a type are tokens of the file. -/
theorem File.exists_type {r : Resource} (hfile : File file tokens machines)
    (hr : r ∈ resourcesOf machines) :
    ∃ type, TypeRun false type ∧ r.type = TypeText.ofTokens type ∧ type ⊆ tokens := by
  obtain ⟨m, hm, hr⟩ := List.mem_flatMap.1 hr
  obtain ⟨block, hblock, houter⟩ := hfile.exists_block hm
  obtain ⟨part, hitem, hinner⟩ := hblock.exists_resource hr
  cases hitem with
  | @intro name separator type _ _ htype _ =>
    refine ⟨type, htype, rfl, fun token htoken => ?_⟩
    exact (hinner.trans houter).subset (by simp [htoken])

end Grammar

/-! ## NUL characters in types -/

namespace TypeText

variable {tokens : List Token}

/-- Leaving out blanks in front leaves out no NUL. -/
theorem nul_mem_dropWhile {text : List Char} : nul ∈ text.dropWhile (· == ' ') ↔ nul ∈ text := by
  have hblanks : nul ∉ text.takeWhile (· == ' ') := by
    intro hmem
    exact absurd (List.mem_takeWhile_imp hmem) (by decide)
  conv_rhs => rw [← List.takeWhile_append_dropWhile (p := (· == ' ')) (l := text)]
  rw [List.mem_append, or_iff_right hblanks]

theorem nul_mem_trim {text : String} : nul ∈ (trim text).toList ↔ nul ∈ text.toList := by
  rw [trim, String.toList_ofList, List.mem_reverse, nul_mem_dropWhile, List.mem_reverse,
    nul_mem_dropWhile]

theorem nul_mem_tokenText_iff {afterWord : Bool} {token : Token} :
    nul ∈ (tokenText afterWord token).toList ↔
      token.kind ≠ .comma ∧ token.kind ≠ .pipe ∧ nul ∈ token.text.toList := by
  have hcomma : nul ∉ ", ".toList := by decide
  have hpipe : nul ∉ " | ".toList := by decide
  have hblank : nul ∈ (" " ++ token.text).toList ↔ nul ∈ token.text.toList := by
    have hnone : nul ∉ " ".toList := by decide
    rw [String.toList_append, List.mem_append, or_iff_right hnone]
  unfold tokenText
  split
  · rename_i hkind
    exact iff_of_false hcomma (by simp [hkind])
  · rename_i hkind
    exact iff_of_false hpipe (by simp [hkind])
  · rename_i hnoComma hnoPipe
    rw [← and_assoc, and_iff_right ⟨hnoComma, hnoPipe⟩]
    split
    · exact hblank
    · rfl

/-- A type holds a NUL exactly if a token does that is written as it is. -/
theorem nul_mem_ofTokens_iff : nul ∈ (ofTokens tokens).toList ↔
    ∃ token ∈ tokens, token.kind ≠ .comma ∧ token.kind ≠ .pipe ∧ nul ∈ token.text.toList := by
  have hall : ∀ afterWord, nul ∈ (textsFrom afterWord tokens).flatMap String.toList ↔
      ∃ token ∈ tokens, token.kind ≠ .comma ∧ token.kind ≠ .pipe ∧ nul ∈ token.text.toList := by
    induction tokens with
    | nil => simp [textsFrom]
    | cons token rest ih =>
      intro afterWord
      rw [textsFrom, List.flatMap_cons, List.mem_append, nul_mem_tokenText_iff, ih,
        List.exists_mem_cons_iff]
  rw [ofTokens, nul_mem_trim, String.toList_join, hall]

end TypeText

/-- No string of a text holds a NUL. -/
def StringsReadable (text : String) : Prop :=
  ∀ tokens, Token.scan text = .ok tokens → ∀ token ∈ tokens, token.kind = .string →
    nul ∉ token.text.toList

namespace Target

/-- Of the tokens that may stand in a type only strings hold NUL characters. -/
theorem Spelled.kind_of_nul {kind : TokenKind} {text : List Char} (hspelled : Spelled kind text)
    (htype : kind.inType = true) (hnul : nul ∈ text) : kind = .string := by
  have hname : mayContinueName nul = false := by decide
  cases kind with
  | string => rfl
  | identifier | number =>
    obtain ⟨first, rest, rfl, hfirst, hrest⟩ := hspelled
    rcases List.mem_cons.1 hnul with rfl | hnul
    · rw [hname] at hfirst
      cases hfirst
    · rcases hrest nul hnul with hnul | hnul
      · rw [hname] at hnul
        cases hnul
      · exact absurd hnul (by decide)
  | _ => first | exact absurd htype (by decide) | exact absurd (hspelled htype ▸ hnul) (by decide)

end Target

/-- The types of the machines of a text can all be looked at exactly if no string of the text
holds a NUL. -/
theorem types_readable_iff {file text : String} {machines : List Machine}
    (hread : Reader.read file text = .ok machines) :
    (∀ r ∈ Grammar.resourcesOf machines, r.type.contains nul = false) ↔ StringsReadable text := by
  obtain ⟨tokens, hscan, hfile⟩ := Reader.exists_file_of_read hread
  have hspelled : ∀ token ∈ tokens, Target.Spelled token.kind token.text.toList :=
    Target.spelled_of_scanFrom hscan
  constructor
  · intro hreadable scanned hscanned token htoken hstring hnul
    obtain rfl : tokens = scanned := Except.ok.inj (hscan.symm.trans hscanned)
    obtain ⟨r, hr, type, -, htext, hin⟩ := hfile.stringsTyped token htoken hstring
    have hinside : nul ∈ r.type.toList := by
      rw [htext, TypeText.nul_mem_ofTokens_iff]
      exact ⟨token, hin, by simp [hstring], by simp [hstring], hnul⟩
    simpa [hinside] using hreadable r hr
  · intro hreadable r hr
    obtain ⟨type, hrun, htext, hwithin⟩ := hfile.exists_type hr
    by_contra hholds
    have hinside : nul ∈ (TypeText.ofTokens type).toList := by
      rw [← htext]
      simpa using hholds
    obtain ⟨token, htoken, -, -, hnul⟩ := TypeText.nul_mem_ofTokens_iff.1 hinside
    have hkind := (hspelled token (hwithin htoken)).kind_of_nul
      (Token.inType_of_typeRun hrun token htoken) hnul
    exact hreadable tokens hscan token (hwithin htoken) hkind hnul

/-! ## Checks of machines -/

/-- Reading each type of the machines comes to an end. -/
def Examinable [TargetVersion] (placed : List (Path × Machine)) : Prop :=
  ∀ entry ∈ placed, ∀ r ∈ entry.2.guardResources ++ entry.2.actionResources,
    (isType? r.type).isSome

/-- A version that fails at a NUL reads to the end what holds none. -/
theorem examinable_iff [TargetVersion] {placed : List (Path × Machine)} :
    Examinable placed ↔ TargetVersion.nul = .refusal ∨ Readable placed := by
  by_cases hversion : TargetVersion.nul = .refusal
  · simp [Examinable, isSome_isType?_iff, hversion]
  · simp [Examinable, isSome_isType?_iff, hversion, Readable]

/-- Validation accepts a machine or reports its defects, if and only if reading each type comes to
an end. -/
theorem Machine.validate_ends_iff [TargetVersion] {m : Machine} :
    (m.validate = .ok () ∨ ∃ defects, m.validate = .error (.defective m defects)) ↔
      ∀ r ∈ m.guardResources ++ m.actionResources, (isType? r.type).isSome := by
  rw [← exists_defects_iff]
  cases hdefects : m.defects with
  | error type => simp [validate_eq, hdefects]
  | ok defects =>
    rw [validate_of_defects hdefects]
    split <;> simp

namespace Lint

variable {files : List MachineFile} {placed : List (Path × Machine)}

/-- Linting machines ends with a result if and only if reading each type comes to an end. -/
theorem exists_machinesFrom_iff [TargetVersion] (extended : Bool)
    (definedIn : Table String Path) :
    (∃ result, machinesFrom extended definedIn placed = .ok result) ↔ Examinable placed := by
  induction placed generalizing definedIn with
  | nil => simp [machinesFrom, Examinable]
  | cons entry rest ih =>
    obtain ⟨path, m⟩ := entry
    rw [Examinable, List.forall_mem_cons, ← Machine.exists_defects_iff, ← Examinable,
      ← ih (definedIn.remember m.name path).2, machinesFrom]
    cases hdefects : m.defects with
    | error type => simp [Machine.lint_eq, hdefects, Except.map, bind, Except.bind]
    | ok defects =>
      obtain ⟨doubts, hlint⟩ := Machine.exists_lint extended hdefects
      cases machinesFrom extended (definedIn.remember m.name path).2 rest <;>
        simp [hlint, bind, Except.bind, pure, Except.pure]

/-- Linting ends with a result if and only if reading each type comes to an end. -/
theorem exists_files_iff [TargetVersion] (extended : Bool) :
    (∃ result, Lint.files extended files = .ok result) ↔ Examinable (placedMachines files) := by
  rw [← exists_machinesFrom_iff extended [], Lint.files]
  cases machinesFrom extended [] (placedMachines files) <;> simp [Except.map]

end Lint

/-- Rendering does not stop at a type if reading each comes to an end. -/
theorem Package.not_unreadable_of_renderFrom [TargetVersion] {placed : List (Path × Machine)}
    (hexaminable : Examinable placed) (owners : Table String String)
    (type : Validation.UnreadableType) :
    (renderFrom owners placed).2 ≠ some (.rejected (.unreadable type)) := by
  induction placed generalizing owners with
  | nil => simp [renderFrom]
  | cons entry rest ih =>
    obtain ⟨path, m⟩ := entry
    obtain ⟨defects, hdefects⟩ :=
      Machine.exists_defects_iff.2 (hexaminable (path, m) List.mem_cons_self)
    rw [renderFrom, renderOne, Machine.validate_of_defects hdefects]
    split_ifs
    · cases owners.lookup m.moduleName with
      | some first => simp
      | none => exact ih (fun entry hentry => hexaminable entry (List.mem_cons_of_mem _ hentry)) _
    · simp

/-! ## Commands -/

namespace Command

variable {tree : FileTree} {working : Path} {call : Invocation} {files : List MachineFile}

/-- The project of a call is read, and these are the machines of its files. -/
def Loads (tree : FileTree) (working : Path) (call : Invocation) (files : List MachineFile) :
    Prop :=
  ∃ manifest paths, Project.Manifest.load tree (manifestPath working call) = .ok manifest ∧
    Project.discover tree manifest = .ok paths ∧ Project.readSources tree paths = .ok files

/-- A command goes on with the project that is read. -/
theorem withProject_of_loads (complainOf : SourceComplaint) (outcome : Outcome)
    (hloads : Loads outcome.tree working call files)
    (next : LoadedProject → Outcome → Outcome) :
    ∃ manifest later, later.crash = outcome.crash ∧
      withProject working call complainOf outcome next = next ⟨manifest, files⟩ later := by
  obtain ⟨manifest, paths, hmanifest, hpaths, hfiles⟩ := hloads
  refine ⟨manifest, outcome.record
    (.discovered paths.length manifest.root :: Journal.ofSources outcome.tree paths), rfl, ?_⟩
  unfold withProject
  simp only [hmanifest, hpaths, Outcome.record, hfiles]

section Crash

variable {outcome : Outcome} {lines : List String}

@[simp] theorem crash_say : (outcome.say lines).crash = outcome.crash := rfl

@[simp] theorem crash_complain : (outcome.complain lines).crash = outcome.crash := rfl

@[simp] theorem crash_fail : (outcome.fail lines).crash = outcome.crash := rfl

theorem crash_showFindings (result : LintResult) :
    (showFindings result outcome).crash = outcome.crash := by
  unfold showFindings
  split_ifs <;> simp

theorem crash_showDiagnostics (root : Path) (result : LintResult) :
    (showDiagnostics root result outcome).crash = outcome.crash := by
  unfold showDiagnostics
  split_ifs <;> simp

end Crash

/-- A check of a project crashes if a type fails to be read, and only then. -/
theorem crash_check [TargetVersion] {extended : Bool} (hloads : Loads tree working call files) :
    (check extended working call (.start tree)).crash = none ∧
        Examinable (Lint.placedMachines files) ∨
      (check extended working call (.start tree)).crash = some .unreadableType ∧
        ¬ Examinable (Lint.placedMachines files) := by
  obtain ⟨manifest, later, hlater, hnext⟩ := withProject_of_loads
    (checkComplaint (manifestPath working call).parent (call.value? .format == some editorFormat))
    (.start tree) hloads _
  rw [check, hnext, ← Lint.exists_files_iff extended]
  cases hlint : Lint.files extended files with
  | error type => exact .inr ⟨rfl, by simp⟩
  | ok result =>
    refine .inl ⟨?_, result, rfl⟩
    dsimp only
    split_ifs <;> simp [crash_showDiagnostics, crash_showFindings, hlater, Outcome.start]

/-- No type keeps a package from being generated without a finding, if reading each comes to an
end. -/
theorem not_unreadable_of_generate [TargetVersion] {directory : Path} {clean : Bool}
    (hexaminable : Examinable (Lint.placedMachines files)) (type : Validation.UnreadableType) :
    (Package.generate tree directory clean files).result ≠
      .error (.unrendered (.rejected (.unreadable type))) := by
  have hrender := Package.not_unreadable_of_renderFrom hexaminable [] type
  rw [← Package.renderAll] at hrender
  intro hresult
  unfold Package.generate at hresult
  split at hresult
  · rename_i hfault
    rw [hfault] at hrender
    cases hresult
    exact hrender rfl
  · dsimp only at hresult
    split at hresult <;> cases hresult

/-- Generating crashes at most because of the path that is written to. -/
theorem crash_generate [TargetVersion] (call : Invocation) (project : LoadedProject)
    (outcome : Outcome)
    (hexaminable : Examinable (Lint.placedMachines project.files)) :
    (generate call project outcome).crash = outcome.crash ∨
      (generate call project outcome).crash = some (.inaccessible .nullInPath) := by
  unfold generate
  dsimp only
  split
  · rename_i type hresult
    exact absurd hresult (not_unreadable_of_generate hexaminable type)
  · exact .inr rfl
  · exact .inl rfl
  · exact .inl rfl

/-- A build of a project crashes if a type fails to be read, and else only because of the path
that is written to. -/
theorem crash_build [TargetVersion] (hloads : Loads tree working call files) :
    ((build working call (.start tree)).crash = none ∨
        (build working call (.start tree)).crash = some (.inaccessible .nullInPath)) ∧
        Examinable (Lint.placedMachines files) ∨
      (build working call (.start tree)).crash = some .unreadableType ∧
        ¬ Examinable (Lint.placedMachines files) := by
  obtain ⟨manifest, later, hlater, hnext⟩ :=
    withProject_of_loads usualComplaint (.start tree) hloads _
  rw [build, hnext, ← Lint.exists_files_iff false]
  cases hlint : Lint.files false files with
  | error type => exact .inr ⟨rfl, by simp⟩
  | ok result =>
    refine .inl ⟨?_, result, rfl⟩
    dsimp only
    split_ifs
    · have hexaminable : Examinable (Lint.placedMachines files) :=
        (Lint.exists_files_iff false).1 ⟨result, hlint⟩
      have hgenerate := crash_generate call ⟨manifest, files⟩
        ((later.record (result.warnings.map .doubted)).display (result.warnings.map warningLine))
        hexaminable
      exact hgenerate.imp_left fun hcrash => hcrash.trans hlater
    · exact .inl hlater

/-- A command that checks a project crashes if a type fails to be read, and else at most because
of the path that a build writes to. -/
theorem crash_run [TargetVersion] (hloads : Loads tree working call files)
    (haction : call.action ≠ .inspect) :
    ((run tree working call).crash = none ∨
        call.action = .build ∧ (run tree working call).crash = some (.inaccessible .nullInPath)) ∧
        Examinable (Lint.placedMachines files) ∨
      (run tree working call).crash = some .unreadableType ∧
        ¬ Examinable (Lint.placedMachines files) := by
  unfold run
  cases hcase : call.action with
  | validate => exact (crash_check hloads).imp_left fun h => ⟨.inl h.1, h.2⟩
  | lint => exact (crash_check hloads).imp_left fun h => ⟨.inl h.1, h.2⟩
  | inspect => exact absurd hcase haction
  | build =>
    refine (crash_build hloads).imp_left fun ⟨hcrash, hexaminable⟩ => ⟨?_, hexaminable⟩
    exact hcrash.imp_right fun hpath => ⟨rfl, hpath⟩

end Command

/-- Files whose machines were read from texts. -/
def ReadFrom (texts : List String) (files : List MachineFile) : Prop :=
  List.Forall₂ (fun text file => ∃ name, Reader.read name text = .ok file.machines) texts files

theorem readable_iff_of_readFrom {texts : List String} {files : List MachineFile}
    (hread : ReadFrom texts files) :
    Readable (Lint.placedMachines files) ↔ ∀ text ∈ texts, StringsReadable text := by
  induction hread with
  | nil => simp [Readable, Lint.placedMachines]
  | @cons text file texts files hfirst _ ih =>
    obtain ⟨name, hfirst⟩ := hfirst
    have hsplit : Lint.placedMachines (file :: files) =
        file.machines.map (file.path, ·) ++ Lint.placedMachines files := List.flatMap_cons
    rw [List.forall_mem_cons, ← ih, ← types_readable_iff hfirst, Readable, hsplit,
      List.forall_mem_append, List.forall_mem_map, Grammar.resourcesOf]
    simp only [List.forall_mem_flatMap]
    rfl

/-- The checks of files come to an end: linting has a result, validation accepts a machine or
reports its defects, and a command that checks the files does not crash, but for a build whose
path to write to no system takes. -/
structure ChecksEnd [TargetVersion] (files : List MachineFile) : Prop where
  lint : ∀ extended, ∃ result, Lint.files extended files = .ok result
  validate : ∀ entry ∈ Lint.placedMachines files, entry.2.validate = .ok () ∨
    ∃ defects, entry.2.validate = .error (.defective entry.2 defects)
  command : ∀ tree working call, Command.Loads tree working call files → call.action ≠ .inspect →
    (Command.run tree working call).crash = none ∨
      call.action = .build ∧
        (Command.run tree working call).crash = some (.inaccessible .nullInPath)

theorem checksEnd_iff_examinable [TargetVersion] {files : List MachineFile} :
    ChecksEnd files ↔ Examinable (Lint.placedMachines files) := by
  refine ⟨fun hend => ?_, fun hexaminable => ⟨?_, ?_, ?_⟩⟩
  · exact (Lint.exists_files_iff false).1 (hend.lint false)
  · exact fun extended => (Lint.exists_files_iff extended).2 hexaminable
  · exact fun entry hentry => Machine.validate_ends_iff.2 (hexaminable entry hentry)
  · intro tree working call hloads haction
    exact ((Command.crash_run hloads haction).resolve_right fun h => h.2 hexaminable).1

/-- The checks of what was read come to an end exactly if the version refuses a NUL like any other
mistake in a type, or no string of the texts holds one. In a version that fails at a NUL, a string
with one makes each command crash that checks the files. -/
theorem checksEnd_iff [TargetVersion] {texts : List String} {files : List MachineFile}
    (hread : ReadFrom texts files) :
    (ChecksEnd files ↔
      TargetVersion.nul = .refusal ∨ ∀ text ∈ texts, StringsReadable text) ∧
    (TargetVersion.nul = .failure → (∃ text ∈ texts, ¬ StringsReadable text) →
      ∀ tree working call, Command.Loads tree working call files → call.action ≠ .inspect →
        (Command.run tree working call).crash = some .unreadableType) := by
  have hends : Examinable (Lint.placedMachines files) ↔
      TargetVersion.nul = .refusal ∨ ∀ text ∈ texts, StringsReadable text := by
    rw [examinable_iff, readable_iff_of_readFrom hread]
  rw [checksEnd_iff_examinable]
  refine ⟨hends, ?_⟩
  rintro hversion ⟨text, htext, hnul⟩ tree working call hloads haction
  have hstuck : ¬ Examinable (Lint.placedMachines files) := by
    intro hexaminable
    rcases hends.1 hexaminable with hrefusal | hreadable
    · rw [hversion] at hrefusal
      cases hrefusal
    · exact hnul (hreadable text htext)
  exact ((Command.crash_run hloads haction).resolve_left fun h => hstuck h.2).1

/-- A machine with one guard resource of the given type, declared in a text of one line. -/
def typedMachine (type : String) (column : Int) : Machine where
  name := "M"
  transitions := []
  initialStates := [⟨"A", some ⟨"m", 1, column⟩⟩]
  guardResources := [⟨"a", type, some ⟨"m", 1, 22⟩⟩]
  actionResources := []
  loc := some ⟨"m", 1, 1⟩

theorem resourcesOf_typedMachine (type : String) (column : Int) :
    Grammar.resourcesOf [typedMachine type column] = [⟨"a", type, some ⟨"m", 1, 22⟩⟩] := rfl

/-- A text with a resource whose type is a string of one NUL. -/
def nulText : String := "M \x7b GuardResources \x7b a: '\x00' \x7d InitialStates \x7b A \x7d \x7d"

/-- The file of that text. -/
def nulFile : MachineFile := ⟨⟨"", ["m.sm"]⟩, [typedMachine "'\x00'" 47]⟩

theorem readFrom_nulText : ReadFrom [nulText] [nulFile] := by
  have hread : Reader.read "m" nulText = .ok [typedMachine "'\x00'" 47] := by decide +kernel
  exact .cons ⟨"m", hread⟩ .nil

/-- Checks of a type that is a string of letters come to an end, and in a later version those of a
type with a NUL do so as well. -/
theorem quoted_type_checked :
    ReadFrom ["M \x7b GuardResources \x7b a: 'int' \x7d InitialStates \x7b A \x7d \x7d"]
        [⟨⟨"", ["m.sm"]⟩, [typedMachine "'int'" 49]⟩] ∧
      ChecksEnd [⟨⟨"", ["m.sm"]⟩, [typedMachine "'int'" 49]⟩] ∧
      ReadFrom [nulText] [nulFile] ∧ @ChecksEnd .late [nulFile] := by
  have hread : Reader.read "m"
      "M \x7b GuardResources \x7b a: 'int' \x7d InitialStates \x7b A \x7d \x7d" =
      .ok [typedMachine "'int'" 49] := by decide +kernel
  have hfrom : ReadFrom ["M \x7b GuardResources \x7b a: 'int' \x7d InitialStates \x7b A \x7d \x7d"]
      [⟨⟨"", ["m.sm"]⟩, [typedMachine "'int'" 49]⟩] := .cons ⟨"m", hread⟩ .nil
  have hplain : ∀ r ∈ Grammar.resourcesOf [typedMachine "'int'" 49],
      r.type.contains nul = false := by
    rw [resourcesOf_typedMachine, List.forall_mem_singleton, String.contains_char_eq]
    decide
  have hreadable := (types_readable_iff hread).1 hplain
  refine ⟨hfrom, ?_, readFrom_nulText, ?_⟩
  · exact (checksEnd_iff hfrom).1.2 (.inr (List.forall_mem_singleton.2 hreadable))
  · let _ : TargetVersion := .late
    exact (checksEnd_iff readFrom_nulText).1.2 (.inl rfl)

/-- In an early version no check of a type with a NUL comes to an end. -/
theorem nul_type_unchecked :
    ReadFrom [nulText] [nulFile] ∧ TargetVersion.nul = .failure ∧
      (typedMachine "'\x00'" 47).validate = .error (.unreadable ⟨"a"⟩) ∧
      (∀ extended, Lint.files extended [nulFile] = .error ⟨"a"⟩) ∧ ¬ ChecksEnd [nulFile] := by
  have htype : isType? "'\x00'" = none := by
    have hholds : "'\x00'".contains nul = true := by
      rw [String.contains_char_eq]
      decide
    rw [isType?, if_pos hholds]
    rfl
  have hdefects : (typedMachine "'\x00'" 47).defects = .error ⟨"a"⟩ := by
    simp [Machine.defects, Machine.resourceDefects, Machine.resourceDefectsFrom, typedMachine,
      htype, Except.map]
  have hlint : ∀ extended, Lint.files extended [nulFile] = .error ⟨"a"⟩ := by
    intro extended
    simp [Lint.files, Lint.placedMachines, nulFile, Lint.machinesFrom, Machine.lint_eq, hdefects,
      Except.map, bind, Except.bind]
  refine ⟨readFrom_nulText, rfl, ?_, hlint, fun hend => ?_⟩
  · rw [Machine.validate_eq, hdefects]
  · obtain ⟨result, hresult⟩ := hend.lint false
    rw [hlint] at hresult
    cases hresult

end FsmCompiler
