/-
# Generating a package touches what it owns

What generating a package does to the files of a tree, whatever is in the directory
before. A project that cannot be rendered changes nothing. Otherwise each file of the
package has its text, the generated files that are no longer part of the package are
gone if that was asked for, with a warning for each in the order of their names, and
all else is as it was. Generating the same package again changes nothing.

Systems that refuse an operation stop a run half-way; what holds then is not said
here, but only for which trees no operation is refused.
-/

import FsmCompiler.Package.Writing
import FsmCompiler.Proofs.FileTrees
import FsmCompiler.Proofs.Packaging
import Mathlib.Data.String.Basic

namespace FsmCompiler.Package

open FileTree (OnTheWay)

variable {tree after : FileTree} {directory : Path} {place : Place} {clean : Bool}
  {files : List MachineFile} {placed : List (Path × Machine)} {package : List (String × String)}

/-! ## Packages that are rendered -/

/-- What is rendered could be looked at. -/
theorem readable_of_renderFrom {owners : Table String String}
    (hrender : (renderFrom owners placed).2 = none) : Readable placed := by
  induction placed generalizing owners with
  | nil => simp [Readable]
  | cons entry rest ih =>
    obtain ⟨path, m⟩ := entry
    unfold renderFrom at hrender
    cases hone : renderOne owners path m with
    | error fault => simp [hone] at hrender
    | ok rendered =>
      simp only [hone] at hrender
      have hvalid : m.validate = .ok () := by
        unfold renderOne at hone
        split at hone
        · cases hone
        · assumption
      refine List.forall_mem_cons.2 ⟨fun r hr => ?_, ih hrender⟩
      exact ((Machine.validate_eq_ok_iff.1 hvalid).resource hr).readable

/-- What is rendered are the files of machines that can be rendered. -/
theorem renderable_of_render (hrender : render files = .ok package) :
    Renderable (Lint.placedMachines files) ∧
      package = filesOf ((Lint.placedMachines files).map renderedOf) := by
  have hstopped : (renderAll files).2 = none := by
    unfold render at hrender
    split at hrender
    · rename_i heq
      rw [heq]
    · cases hrender
  rcases render_cases (readable_of_renderFrom hstopped) false with ⟨hall, hok⟩ | ⟨_, -, herror⟩
  · rw [hok] at hrender
    cases hrender
    exact ⟨hall, rfl⟩
  · rw [herror] at hrender
    cases hrender

/-- What is rendered is a package. -/
theorem isPackage_of_render (hrender : render files = .ok package) :
    IsPackage (Lint.placedMachines files) package := by
  obtain ⟨hall, rfl⟩ := renderable_of_render hrender
  exact isPackage_filesOf hall

/-- No file of a package has the name that leads back. -/
theorem IsPackage.name_ne (hpackage : IsPackage placed package) {file : String × String}
    (hfile : file ∈ package) : file.1 ≠ ".." := by
  obtain ⟨init, rfl, -⟩ := hpackage.files
  rcases List.mem_append.1 hfile with hfile | hfile
  · obtain ⟨entry, -, rfl⟩ := List.mem_map.1 hfile
    intro heq
    have hlength := congrArg String.length heq
    rw [moduleFile, String.length_append] at hlength
    have hsuffix : ".py".length = 3 := rfl
    have hback : "..".length = 2 := rfl
    omega
  · rw [List.mem_singleton.1 hfile]
    exact show "__init__.py" ≠ ".." by decide

/-! ## Writing files -/

/-- What writing files into the directory at a place did: each has its text, and no other
entry changed. -/
structure Wrote (tree after : FileTree) (directory : Path) (place : Place)
    (package : List (String × String)) : Prop where
  wellFormed : after.WellFormed
  directories : tree.KeepsDirectories after
  located : ∀ file ∈ package, after.locate (directory.child file.1) = .ok (place ++ [file.1])
  written : ∀ file ∈ package, after.entry? (place ++ [file.1]) = some (.file (Text.encode file.2))
  kept : ∀ other, (∀ file ∈ package, other ≠ place ++ [file.1]) →
    after.entry? other = tree.entry? other

theorem wrote_of_writeFiles (hwell : tree.WellFormed) (hlocate : tree.locate directory = .ok place)
    (hnames : ∀ file ∈ package, file.1 ≠ "..") (hdistinct : (package.map (·.1)).Nodup)
    (hwrite : (writeFiles directory tree package).error = none) :
    Wrote tree (writeFiles directory tree package).tree directory place package ∧
      (writeFiles directory tree package).steps =
        package.map fun file => .wrote (directory.child file.1) := by
  induction package generalizing tree with
  | nil => exact ⟨⟨hwell, fun _ h => h, by simp, by simp, fun _ _ => rfl⟩, rfl⟩
  | cons file rest ih =>
    obtain ⟨name, text⟩ := file
    rw [List.map_cons, List.nodup_cons] at hdistinct
    cases hfirst : tree.write (directory.child name) (Text.encode text) with
    | error fault => simp [writeFiles, hfirst] at hwrite
    | ok next =>
      simp only [writeFiles, hfirst] at hwrite ⊢
      obtain ⟨found, hfound, -, -⟩ := FileTree.write_eq_ok_iff.1 hfirst
      cases FileTree.locate_child (hnames _ List.mem_cons_self) hlocate hfound
      obtain ⟨hnext, hkeeps, hentry⟩ := hwell.write hfound hfirst
      obtain ⟨hrest, hsteps⟩ := ih hnext (hkeeps.locate hlocate)
        (fun file hfile => hnames file (List.mem_cons_of_mem _ hfile)) hdistinct.2 hwrite
      have hapart : ∀ file ∈ rest, place ++ [name] ≠ place ++ [file.1] := by
        intro file hfile heq
        have hname : name = file.1 := by simpa using heq
        exact hdistinct.1 (List.mem_map.2 ⟨file, hfile, hname.symm⟩)
      refine ⟨⟨hrest.wellFormed, fun other hother => hrest.directories other (hkeeps other hother),
        ?_, ?_, fun other hother => ?_⟩, by rw [hsteps]; rfl⟩
      · exact List.forall_mem_cons.2
          ⟨hrest.directories.locate (hkeeps.locate hfound), hrest.located⟩
      · refine List.forall_mem_cons.2 ⟨?_, hrest.written⟩
        rw [hrest.kept _ hapart, hentry, if_pos rfl]
      · rw [List.forall_mem_cons] at hother
        rw [hrest.kept other hother.2, hentry, if_neg hother.1]

/-- Files that have their texts are written anew without a change. -/
theorem writeFiles_of_written
    (hlocated : ∀ file ∈ package, tree.locate (directory.child file.1) = .ok (place ++ [file.1]))
    (hwritten : ∀ file ∈ package,
      tree.entry? (place ++ [file.1]) = some (.file (Text.encode file.2))) :
    writeFiles directory tree package =
      ⟨tree, package.map fun file => .wrote (directory.child file.1), none⟩ := by
  induction package with
  | nil => rfl
  | cons file rest ih =>
    rw [List.forall_mem_cons] at hlocated hwritten
    rw [writeFiles, FileTree.write_of_entry? hlocated.1 hwritten.1]
    simp only [ih hlocated.2 hwritten.2, List.map_cons]

/-- Files are written where no directory stands in their way. -/
theorem writeFiles_error_eq_none (hwell : tree.WellFormed)
    (hlocated : ∀ file ∈ package, tree.locate (directory.child file.1) = .ok (place ++ [file.1]))
    (hfree : ∀ file ∈ package, tree.entry? (place ++ [file.1]) ≠ some .directory) :
    (writeFiles directory tree package).error = none := by
  induction package generalizing tree with
  | nil => rfl
  | cons file rest ih =>
    rw [List.forall_mem_cons] at hlocated hfree
    have hwrite := FileTree.write_eq_ok_iff.2
      ⟨_, hlocated.1, hfree.1, (Eq.refl (tree.put _ (.file (Text.encode file.2))))⟩
    obtain ⟨hnext, hkeeps, hentry⟩ := hwell.write hlocated.1 hwrite
    simp only [writeFiles, hwrite]
    refine ih hnext (fun other hother => hkeeps.locate (hlocated.2 other hother)) ?_
    intro other hother
    rw [hentry]
    split
    · simp
    · exact hfree.2 other hother

/-! ## Files that are no longer part of a package -/

/-- A file in the directory at a place that was generated, and is not part of a package:
it has the suffix of modules, and is a text with the mark of generated files among its
first characters. -/
structure Stale (tree : FileTree) (place : Place) (package : List (String × String))
    (name : String) : Prop where
  suffix : name.endsWith ".py" = true
  fresh : name ∉ package.map (·.1)
  marked : ∃ content text, tree.entry? (place ++ [name]) = some (.file content) ∧
    Text.decode content = .ok text ∧
    ModuleText.generatedMark.toList <:+: (Text.uniformLines text.toList).take 500

theorem isMarked_iff {text : List Char} :
    isMarked text = true ↔ ModuleText.generatedMark.toList <:+: text.take 500 := by
  unfold isMarked markReach
  generalize ModuleText.generatedMark.toList = mark
  rw [List.any_eq_true]
  constructor
  · rintro ⟨start, -, hprefix⟩
    rw [List.isPrefixOf_iff_prefix] at hprefix
    exact hprefix.isInfix.trans (List.drop_suffix _ _).isInfix
  · rintro ⟨before, behind, heq⟩
    refine ⟨before.length, ?_, ?_⟩
    · have hlength : before.length ≤ (text.take 500).length := by
        rw [← heq]
        simp only [List.length_append]
        omega
      have hreach := List.length_take_le 500 text
      exact List.mem_range.2 (by omega)
    · rw [List.isPrefixOf_iff_prefix, ← heq, List.append_assoc, List.drop_left]
      exact List.prefix_append _ _

theorem isGenerated_iff {entry : Entry} : isGenerated entry = true ↔
    ∃ content text, entry = .file content ∧ Text.decode content = .ok text ∧
      ModuleText.generatedMark.toList <:+: (Text.uniformLines text.toList).take 500 := by
  cases entry with
  | directory => simp [isGenerated]
  | file content =>
    unfold isGenerated
    cases hdecode : Text.decode content with
    | error fault => simp [hdecode]
    | ok text => simp [hdecode, isMarked_iff]

/-- The names that are found are those of the stale files. -/
theorem mem_staleNames_iff {name : String} :
    name ∈ staleNames tree place (package.map (·.1)) ↔ Stale tree place package name := by
  unfold staleNames
  rw [List.mem_mergeSort, List.mem_filter, FileTree.mem_namesIn_iff, Bool.and_eq_true,
    Bool.and_eq_true, Option.any_eq_true]
  constructor
  · rintro ⟨-, ⟨hsuffix, hfresh⟩, entry, hentry, hgenerated⟩
    obtain ⟨content, text, rfl, hdecode, hmark⟩ := isGenerated_iff.1 hgenerated
    exact ⟨hsuffix, by simpa using hfresh, content, text, hentry, hdecode, hmark⟩
  · rintro ⟨hsuffix, hfresh, content, text, hentry, hdecode, hmark⟩
    exact ⟨by simp [hentry], ⟨hsuffix, by simpa using hfresh⟩, .file content, hentry,
      isGenerated_iff.2 ⟨content, text, rfl, hdecode, hmark⟩⟩

/-- The names that are found come in order, each once. -/
theorem pairwise_staleNames (hwell : tree.WellFormed) (names : List String) :
    (staleNames tree place names).Pairwise (· < ·) := by
  have hsorted : (staleNames tree place names).Pairwise fun a b => decide (a ≤ b) = true := by
    refine List.pairwise_mergeSort (fun a b c hab hbc => ?_) (fun a b => ?_) _
    · simp only [decide_eq_true_eq] at *
      exact hab.trans hbc
    · simpa using le_total a b
  have hdistinct : (staleNames tree place names).Pairwise (· ≠ ·) :=
    (List.mergeSort_perm _ _).nodup_iff.2 (hwell.nodup_namesIn.filter _)
  refine (hsorted.and hdistinct).imp fun {a b} hab => ?_
  exact lt_of_le_of_ne (by simpa using hab.1) hab.2

/-- The tree without what has some names in the directory at a place. -/
def removeNames (tree : FileTree) (place : Place) (names : List String) : FileTree :=
  names.foldl (fun tree name => tree.remove (place ++ [name])) tree

/-- Files of one directory that are removed are gone, and nothing else is. -/
theorem entry?_removeNames {names : List String} (hwell : tree.WellFormed)
    (hfiles : ∀ name ∈ names, tree.entry? (place ++ [name]) ≠ some .directory) :
    (removeNames tree place names).WellFormed ∧
      ∀ other, FileTree.entry? (removeNames tree place names) other =
        if ∃ name ∈ names, other = place ++ [name] then none else tree.entry? other := by
  unfold removeNames
  induction names generalizing tree with
  | nil => exact ⟨hwell, by simp⟩
  | cons name rest ih =>
    rw [List.forall_mem_cons] at hfiles
    have hentry := hwell.entry?_remove hfiles.1
    have hplace : place ++ [name] ≠ [] := by simp
    have hrest : ∀ other ∈ rest,
        FileTree.entry? (tree.remove (place ++ [name])) (place ++ [other]) ≠ some .directory := by
      intro other hother
      rw [hentry]
      split
      · simp
      · exact hfiles.2 other hother
    obtain ⟨hafter, hothers⟩ := ih (hwell.remove hplace) hrest
    refine ⟨hafter, fun other => ?_⟩
    rw [List.foldl_cons, hothers, hentry]
    by_cases hhere : other = place ++ [name] <;> simp [hhere]

theorem keepsDirectories_removeNames {names : List String} (hwell : tree.WellFormed)
    (hfiles : ∀ name ∈ names, tree.entry? (place ++ [name]) ≠ some .directory) :
    tree.KeepsDirectories (removeNames tree place names) := by
  intro other hother
  rw [(entry?_removeNames hwell hfiles).2, if_neg]
  · exact hother
  · rintro ⟨name, hname, rfl⟩
    exact hfiles name hname hother

/-! ## A whole run -/

/-- The names that a run removes, in order. -/
def removedNames (tree : FileTree) (place : Place) (clean : Bool)
    (package : List (String × String)) : List String :=
  if clean then staleNames tree place (package.map (·.1)) else []

/-- The places of a run's own: those of the files of the package, and those of the stale files
if the directory is cleaned. -/
def Owned (tree : FileTree) (place : Place) (clean : Bool) (package : List (String × String))
    (other : Place) : Prop :=
  (∃ file ∈ package, other = place ++ [file.1]) ∨
    clean = true ∧ ∃ name, Stale tree place package name ∧ other = place ++ [name]

/-- What a run in a directory, which is at a place, did to a tree with its own entries and
with those of others. Directories are made on the way to the directory; below it they are
only if the path leads back out of what is made. -/
structure TouchesOwn (tree : FileTree) (directory : Path) (place : Place) (clean : Bool)
    (package : List (String × String)) (run : Generation) : Prop where
  located : run.tree.locate directory = .ok place
  written : ∀ file ∈ package, run.tree.read (directory.child file.1) = .ok (Text.encode file.2) ∧
    run.tree.entry? (place ++ [file.1]) = some (.file (Text.encode file.2))
  removed : clean = true → ∀ name, Stale tree place package name →
    run.tree.entry? (place ++ [name]) = none
  kept : ∀ other, ¬ Owned tree place clean package other →
    run.tree.entry? other = tree.entry? other ∨
      tree.entry? other = none ∧ run.tree.entry? other = some .directory ∧ OnTheWay directory other
  inside : ".." ∉ directory.names ∨ tree.entryAt directory = .ok .directory →
    ∀ other, place <+: other → other ≠ place → ¬ Owned tree place clean package other →
      run.tree.entry? other = tree.entry? other
  warned : ∃ stale : List String, stale.Pairwise (· < ·) ∧
    (∀ name, name ∈ stale ↔ clean = true ∧ Stale tree place package name) ∧
    warnings run.steps = stale.map fun name => s!"Removed stale module {name}"
  wrote : Package.written run.steps = package.map fun file => directory.child file.1

theorem mem_removedNames_iff {name : String} :
    name ∈ removedNames tree place clean package ↔
      clean = true ∧ Stale tree place package name := by
  cases clean <;> simp [removedNames, mem_staleNames_iff]

theorem not_directory_of_removed (tree : FileTree) (place : Place) (clean : Bool)
    (package : List (String × String)) :
    ∀ name ∈ removedNames tree place clean package,
      tree.entry? (place ++ [name]) ≠ some .directory := by
  intro name hname
  obtain ⟨-, -, -, content, text, hentry, -⟩ := mem_removedNames_iff.1 hname
  simp [hentry]

/-- Making directories makes no stale file. -/
theorem Stale.of_settled {name : String} (hsettled : tree.Settled after directory place) :
    Stale after place package name ↔ Stale tree place package name := by
  have hfile : ∀ content, after.entry? (place ++ [name]) = some (.file content) ↔
      tree.entry? (place ++ [name]) = some (.file content) := by
    intro content
    rcases hsettled.entry (place ++ [name]) with heq | ⟨hnone, hmade, -⟩
    · rw [heq]
    · simp [hnone, hmade]
  constructor
  · rintro ⟨hsuffix, hfresh, content, text, hentry, hmarked⟩
    exact ⟨hsuffix, hfresh, content, text, (hfile content).1 hentry, hmarked⟩
  · rintro ⟨hsuffix, hfresh, content, text, hentry, hmarked⟩
    exact ⟨hsuffix, hfresh, content, text, (hfile content).2 hentry, hmarked⟩

/-- No place on the way of a path that does not lead back is below the place it leads to. -/
theorem not_onTheWay_of_below {other : Place} (hforward : ".." ∉ directory.names)
    (hlocate : tree.locate directory = .ok place) (hbelow : place <+: other) (hne : other ≠ place) :
    ¬ OnTheWay directory other := by
  have hfollow : ∀ names : List String, ".." ∉ names → names.foldl Path.follow [] = names := by
    intro names hnames
    induction names using List.reverseRecOn with
    | nil => rfl
    | append_singleton names name ih =>
      simp only [List.mem_append, List.mem_singleton, not_or] at hnames
      rw [List.foldl_append, ih hnames.1]
      simp [Path.follow, Ne.symm hnames.2]
  rintro ⟨front, hfront, rfl⟩
  have hplace := FileTree.eq_follow_of_enter (FileTree.locate_eq_ok_iff.1 hlocate).2.2
  rw [hfollow _ hforward] at hplace
  rw [hfollow _ fun hmem => hforward (hfront.subset hmem)] at hbelow hne
  subst hplace
  exact hne (hfront.eq_of_length_le hbelow.length_le)

/-- A run for which no operation was refused, phase by phase: the directory is made unless it
is there, the stale files are removed from it, and the files of the package are written. -/
structure Phases (tree made cleaned after : FileTree) (directory : Path) (place : Place)
    (clean : Bool) (package : List (String × String)) (steps : List WriteStep) : Prop where
  settled : tree.Settled made directory place
  there : tree.entryAt directory = .ok .directory → made = tree
  located : after.locate directory = .ok place
  isDirectory : after.entry? place = some .directory
  removed : ∀ other, cleaned.entry? other =
    if ∃ name ∈ removedNames made place clean package, other = place ++ [name] then none
    else made.entry? other
  wrote : Wrote cleaned after directory place package
  steps : steps = (removedNames made place clean package).map (fun name =>
      .removed (directory.child name)) ++
    package.map fun file => .wrote (directory.child file.1)

theorem phases_of_write (hwell : tree.WellFormed) (hpackage : IsPackage placed package)
    (hwrite : (write tree directory clean package).error = none) :
    ∃ made cleaned place, Phases tree made cleaned (write tree directory clean package).tree
      directory place clean package (write tree directory clean package).steps := by
  unfold write at hwrite ⊢
  cases herror : (tree.makeDirectories directory).error with
  | some error => simp [herror] at hwrite
  | none =>
    obtain ⟨place, hsettled⟩ := hwell.makeDirectories herror
    have hthere : tree.entryAt directory = .ok .directory →
        (tree.makeDirectories directory).tree = tree := by
      intro hentry
      obtain ⟨found, hfound, hdirectory⟩ := FileTree.entryAt_eq_ok_iff.1 hentry
      rw [FileTree.makeDirectories_of_directory hfound hdirectory]
    simp only [herror, hsettled.located] at hwrite ⊢
    generalize (tree.makeDirectories directory).tree = made at hsettled hthere hwrite ⊢
    have hnames : (if clean then staleNames made place (package.map (·.1)) else []) =
      removedNames made place clean package := rfl
    rw [hnames] at hwrite ⊢
    have hfiles := not_directory_of_removed made place clean package
    obtain ⟨hcleaned, hremoved⟩ := entry?_removeNames hsettled.wellFormed hfiles
    have hkeeps := keepsDirectories_removeNames hsettled.wellFormed hfiles
    have hlocated := hkeeps.locate hsettled.located
    obtain ⟨hwrote, hsteps⟩ := wrote_of_writeFiles hcleaned hlocated
      (fun file hfile => hpackage.name_ne hfile) hpackage.distinct hwrite
    exact ⟨made, _, place, hsettled, hthere, hwrote.directories.locate hlocated,
      hwrote.directories place (hkeeps place hsettled.directory), hremoved, hwrote,
      congrArg _ hsteps⟩

/-- A warning is given for each file that is removed. -/
theorem warnings_of_steps (directory : Path) (names : List String)
    (package : List (String × String)) :
    warnings (names.map (fun name => .removed (directory.child name)) ++
        package.map fun file => .wrote (directory.child file.1)) =
      names.map fun name => s!"Removed stale module {name}" := by
  rw [warnings, List.filterMap_append, List.filterMap_map, List.filterMap_map]
  have hremoved : ∀ name, (directory.child name).name = name := by simp [Path.name, Path.child]
  have hnone : package.filterMap (fun _ => (none : Option String)) = [] := by simp
  simp only [Function.comp_def, hremoved, hnone, List.append_nil]
  exact congrFun List.filterMap_eq_map' names

theorem written_of_steps (names : List String) (package : List (String × String)) :
    Package.written (names.map (fun name => .removed (directory.child name)) ++
        package.map fun file => .wrote (directory.child file.1)) =
      package.map fun file => directory.child file.1 := by
  simp [Package.written, List.filterMap_map]

/-- A run touches what is its own. -/
theorem Phases.touchesOwn {made cleaned : FileTree} {run : Generation}
    (hphases : Phases tree made cleaned run.tree directory place clean package run.steps) :
    TouchesOwn tree directory place clean package run := by
  obtain ⟨hsettled, hthere, hlocated, -, hremoved, hwrote, hsteps⟩ := hphases
  have hstale : ∀ name, name ∈ removedNames made place clean package ↔
      clean = true ∧ Stale tree place package name := by
    intro name
    rw [mem_removedNames_iff, Stale.of_settled hsettled]
  have hentry : ∀ other, ¬ Owned tree place clean package other →
      run.tree.entry? other = made.entry? other := by
    intro other hother
    rw [hwrote.kept other fun file hfile heq => hother (.inl ⟨file, hfile, heq⟩), hremoved, if_neg]
    rintro ⟨name, hname, heq⟩
    obtain ⟨hclean, hname⟩ := (hstale name).1 hname
    exact hother (.inr ⟨hclean, name, hname, heq⟩)
  constructor
  case located => exact hlocated
  case written =>
    intro file hfile
    exact ⟨FileTree.read_of_entry? (hwrote.located file hfile) (hwrote.written file hfile),
      hwrote.written file hfile⟩
  case removed =>
    intro hclean name hname
    rw [hwrote.kept, hremoved, if_pos ⟨name, (hstale name).2 ⟨hclean, hname⟩, rfl⟩]
    rintro file hfile heq
    have hname' : name = file.1 := by simpa using heq
    exact hname.fresh (List.mem_map.2 ⟨file, hfile, hname'.symm⟩)
  case kept =>
    intro other hother
    rw [hentry other hother]
    exact hsettled.entry other
  case inside =>
    intro hcase other hbelow hne hother
    rw [hentry other hother]
    rcases hcase with hforward | hdirectory
    · rcases hsettled.entry other with heq | ⟨-, -, hway⟩
      · exact heq
      · exact absurd hway (not_onTheWay_of_below hforward hsettled.located hbelow hne)
    · rw [hthere hdirectory]
  case warned =>
    refine ⟨removedNames made place clean package, ?_, hstale, ?_⟩
    · unfold removedNames
      split
      · exact pairwise_staleNames hsettled.wellFormed _
      · exact .nil
    · rw [hsteps, warnings_of_steps]
  case wrote => rw [hsteps, written_of_steps]

/-- After a run no file is stale if stale files were removed by it. -/
theorem TouchesOwn.not_stale {run : Generation} {name : String}
    (htouches : TouchesOwn tree directory place clean package run) (hclean : clean = true) :
    ¬ Stale run.tree place package name := by
  intro hstale
  obtain ⟨content, text, hentry, hmarked⟩ := hstale.marked
  have hnone : ∀ h : Stale tree place package name, False := by
    intro h
    rw [htouches.removed hclean name h] at hentry
    cases hentry
  have hother : ¬ Owned tree place clean package (place ++ [name]) := by
    rintro (⟨file, hfile, heq⟩ | ⟨-, other, hother, heq⟩)
    · have hname : name = file.1 := by simpa using heq
      exact hstale.fresh (List.mem_map.2 ⟨file, hfile, hname.symm⟩)
    · have hname : name = other := by simpa using heq
      exact hnone (hname ▸ hother)
  rcases htouches.kept _ hother with heq | ⟨-, hmade, -⟩
  · exact hnone ⟨hstale.suffix, hstale.fresh, content, text, heq ▸ hentry, hmarked⟩
  · rw [hentry] at hmade
    cases hmade

/-- Writing the files again that a run wrote changes nothing. -/
theorem Phases.write_again {made cleaned : FileTree} {run : Generation} {again : Bool}
    (hphases : Phases tree made cleaned run.tree directory place clean package run.steps)
    (hagain : again = true → clean = true) :
    write run.tree directory again package =
      ⟨run.tree, package.map fun file => .wrote (directory.child file.1), none⟩ := by
  have htouches := hphases.touchesOwn
  have hnames : (if again then staleNames run.tree place (package.map (·.1)) else []) = [] := by
    cases again with
    | false => rfl
    | true =>
      refine List.eq_nil_iff_forall_not_mem.2 fun name hname => ?_
      exact htouches.not_stale (hagain rfl) (mem_staleNames_iff.1 hname)
  unfold write
  simp only [FileTree.makeDirectories_of_directory hphases.located hphases.isDirectory,
    hphases.located, hnames, replaceFiles, List.foldl_nil, List.map_nil, List.nil_append,
    writeFiles_of_written hphases.wrote.located hphases.wrote.written]

/-! ## Generating -/

theorem generate_of_fault {fault : RenderFault} (hrender : render files = .error fault) :
    generate tree directory clean files = ⟨tree, [], .error (.unrendered fault)⟩ := by
  unfold render at hrender
  unfold generate
  split at hrender
  · cases hrender
  · rename_i heq
    cases hrender
    rw [heq]

theorem generate_of_package (hrender : render files = .ok package) :
    ∃ rendered, filesOf rendered = package ∧ ∀ tree directory clean,
      generate tree directory clean files =
        ⟨(write tree directory clean package).tree, (write tree directory clean package).steps,
          match (write tree directory clean package).error with
          | some error => .error (.unwritten directory error)
          | none => .ok rendered⟩ := by
  unfold render at hrender
  split at hrender
  · rename_i rendered heq
    cases hrender
    refine ⟨rendered, rfl, fun tree directory clean => ?_⟩
    unfold generate
    split
    · rename_i herror
      rw [heq] at herror
      cases herror
    · rename_i hok
      rw [heq] at hok
      cases hok
      rfl
  · cases hrender

/-- Generating a package touches what it owns. A project that cannot be rendered changes
nothing. If no operation is refused, the run touches its own entries only, and another run that
cleans no more than the first changes nothing and gives no warning. -/
theorem generate_touches_own (hwell : tree.WellFormed) (directory : Path) (clean : Bool)
    (files : List MachineFile) :
    (∀ fault, render files = .error fault →
      generate tree directory clean files = ⟨tree, [], .error (.unrendered fault)⟩) ∧
    ∀ package, render files = .ok package →
      (∀ error, (generate tree directory clean files).result ≠
        .error (.unwritten directory error)) →
      (∃ place, TouchesOwn tree directory place clean package
        (generate tree directory clean files)) ∧
      ∀ again : Bool, (again = true → clean = true) →
        ∃ steps, warnings steps = [] ∧
          generate (generate tree directory clean files).tree directory again files =
            ⟨(generate tree directory clean files).tree, steps,
              (generate tree directory clean files).result⟩ := by
  refine ⟨fun fault => generate_of_fault, fun package hrender hresult => ?_⟩
  obtain ⟨rendered, -, hgenerate⟩ := generate_of_package hrender
  have hwrite : (write tree directory clean package).error = none := by
    by_contra hsome
    obtain ⟨error, herror⟩ := Option.ne_none_iff_exists'.1 hsome
    refine hresult error ?_
    rw [hgenerate, herror]
  have hok : (generate tree directory clean files).result = .ok rendered := by
    rw [hgenerate, hwrite]
  have hphases : ∃ made cleaned place, Phases tree made cleaned
      (generate tree directory clean files).tree directory place clean package
      (generate tree directory clean files).steps := by
    rw [hgenerate]
    exact phases_of_write hwell (isPackage_of_render hrender) hwrite
  obtain ⟨made, cleaned, place, hphases⟩ := hphases
  refine ⟨⟨place, hphases.touchesOwn⟩, fun again hagain => ?_⟩
  refine ⟨_, warnings_of_steps directory [] package, ?_⟩
  rw [hgenerate (generate tree directory clean files).tree, hphases.write_again hagain, hok]
  rfl

/-- No operation is refused where the directory is there, the names of the package can be looked
up in it, and none of them is that of a directory. -/
theorem not_unwritten_of_free (clean : Bool) (hwell : tree.WellFormed)
    (hrender : render files = .ok package) (hlocate : tree.locate directory = .ok place)
    (hdirectory : tree.entry? place = some .directory)
    (hlocated : ∀ file ∈ package, tree.locate (directory.child file.1) = .ok (place ++ [file.1]))
    (hfree : ∀ file ∈ package, tree.entry? (place ++ [file.1]) ≠ some .directory) :
    ∀ error, (generate tree directory clean files).result ≠
      .error (.unwritten directory error) := by
  intro error
  obtain ⟨rendered, -, hgenerate⟩ := generate_of_package hrender
  have hfiles := not_directory_of_removed tree place clean package
  obtain ⟨hcleaned, hremoved⟩ := entry?_removeNames hwell hfiles
  have hkeeps := keepsDirectories_removeNames hwell hfiles
  have hstill : ∀ file ∈ package,
      FileTree.entry? (removeNames tree place (removedNames tree place clean package))
          (place ++ [file.1]) ≠
        some .directory := by
    intro file hfile
    rw [hremoved]
    split
    · simp
    · exact hfree file hfile
  have hwrite : (write tree directory clean package).error = none := by
    unfold write
    simp only [FileTree.makeDirectories_of_directory hlocate hdirectory, hlocate]
    exact writeFiles_error_eq_none hcleaned
      (fun file hfile => hkeeps.locate (hlocated file hfile)) hstill
  rw [hgenerate, hwrite]
  simp

/-- A directory with a module of an earlier package, a module written by hand, a file that is no
text and a directory. -/
def usedTree : FileTree := ⟨[
  (["out"], .directory),
  (["out", "old.py"], .file (Text.encode ModuleText.generatedMark)),
  (["out", "mine.py"], .file (Text.encode "x = 1")),
  (["out", "bytes.py"], .file [0xff]),
  (["out", "inner.py"], .directory)]⟩

/-- A project of one machine, without resources. -/
def bareProject : List MachineFile :=
  [⟨⟨"", ["a.sm"]⟩, [⟨"Lamp", [], [⟨"Off", none⟩], [], [], none⟩]⟩]

theorem exists_package_bareProject :
    ∃ package, render bareProject = .ok package ∧
      package.map (·.1) = ["lamp.py", "__init__.py"] := by
  have hvalid : (⟨"Lamp", [], [⟨"Off", none⟩], [], [], none⟩ : Machine).validate = .ok () :=
    Machine.validate_eq_ok_iff.2 ⟨by decide +kernel, rfl, rfl, rfl⟩
  refine ⟨filesOf [⟨⟨"Lamp", [], [⟨"Off", none⟩], [], [], none⟩, "a.sm"⟩], ?_, ?_⟩
  · simp [render, renderAll, bareProject, Lint.placedMachines, renderFrom, renderOne, hvalid,
      Path.name]
  · have hname : Naming.moduleName "Lamp" = "lamp" := by decide +kernel
    simp [filesOf, Rendered.fileName, Rendered.moduleName, Machine.moduleName, hname,
      Rendered.suffix, initFile]

theorem wellFormed_usedTree : usedTree.WellFormed := ⟨by decide, by decide⟩

theorem locate_out : usedTree.locate ⟨"", ["out"]⟩ = .ok ["out"] := by
  simp only [FileTree.locate, String.contains_char_eq]
  decide +kernel

/-- Nothing stands in the way of the files of the new package. -/
theorem free_of_bareFile {name : String} (hname : name ∈ ["lamp.py", "__init__.py"]) :
    usedTree.locate (Path.child ⟨"", ["out"]⟩ name) = .ok (["out"] ++ [name]) ∧
      usedTree.entry? (["out"] ++ [name]) ≠ some .directory := by
  rcases List.mem_pair.1 hname with rfl | rfl <;>
    · simp only [FileTree.locate, String.contains_char_eq]
      decide +kernel

theorem stale_usedTree_iff {package : List (String × String)} {name : String}
    (hnames : package.map (·.1) = ["lamp.py", "__init__.py"]) :
    Stale usedTree ["out"] package name ↔ name = "old.py" := by
  have hfound : staleNames usedTree ["out"] ["lamp.py", "__init__.py"] = ["old.py"] := by
    decide +kernel
  rw [← mem_staleNames_iff, hnames, hfound, List.mem_singleton]

/-- The module of an earlier package goes, and all else in the directory stays. -/
theorem generate_in_usedTree :
    usedTree.WellFormed ∧
      (∃ package, render bareProject = .ok package) ∧
      (∀ error, (generate usedTree ⟨"", ["out"]⟩ true bareProject).result ≠
        .error (.unwritten ⟨"", ["out"]⟩ error)) ∧
      (generate usedTree ⟨"", ["out"]⟩ true bareProject).tree.entry? ["out", "old.py"] = none ∧
      ∀ name ∈ ["mine.py", "bytes.py", "inner.py"],
        (generate usedTree ⟨"", ["out"]⟩ true bareProject).tree.entry? ["out", name] =
          usedTree.entry? ["out", name] := by
  have hapart : ∀ name ∈ ["mine.py", "bytes.py", "inner.py"],
      name ∉ ["lamp.py", "__init__.py"] ∧ name ≠ "old.py" := by decide
  obtain ⟨package, hrender, hnames⟩ := exists_package_bareProject
  have hname : ∀ file ∈ package, file.1 ∈ ["lamp.py", "__init__.py"] := fun file hfile =>
    hnames ▸ List.mem_map_of_mem hfile
  have hresult := not_unwritten_of_free true wellFormed_usedTree hrender locate_out (by decide)
    (fun file hfile => (free_of_bareFile (hname file hfile)).1)
    fun file hfile => (free_of_bareFile (hname file hfile)).2
  obtain ⟨⟨place, htouches⟩, -⟩ := (generate_touches_own wellFormed_usedTree ⟨"", ["out"]⟩ true
    bareProject).2 package hrender hresult
  have hplace : place = ["out"] :=
    FileTree.eq_follow_of_enter (FileTree.locate_eq_ok_iff.1 htouches.located).2.2
  subst hplace
  refine ⟨wellFormed_usedTree, ⟨package, hrender⟩, hresult,
    htouches.removed rfl "old.py" ((stale_usedTree_iff hnames).2 rfl), ?_⟩
  intro name hkept
  refine htouches.inside (.inl (by decide)) _ ⟨[name], rfl⟩ (by simp) ?_
  rintro (⟨file, hfile, heq⟩ | ⟨-, other, hother, heq⟩)
  · have hsame : name = file.1 := by simpa using heq
    exact (hapart name hkept).1 (hsame ▸ hname file hfile)
  · have hsame : name = other := by simpa using heq
    exact (hapart name hkept).2 (hsame.trans ((stale_usedTree_iff hnames).1 hother))

end FsmCompiler.Package
