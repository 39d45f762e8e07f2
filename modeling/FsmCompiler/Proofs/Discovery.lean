/-
# Which sources a project has

Every path of the manifest is looked at without two dots, and a directory there is searched for all
that has the suffix. The paths found come in order and each once; which they are depends on which
paths the manifest has, and neither on their order nor on their repetition. They are the source
files of the project exactly if no directory with the suffix is among them, no path is refused, and
no file whose whole name is the suffix is named without a directory around it.
-/

import FsmCompiler.Project.Sources
import FsmCompiler.Proofs.AccessibleTrees
import FsmCompiler.Proofs.Loaded

namespace FsmCompiler

namespace Project

variable {tree : FileTree} {manifest other : Manifest} {base path : Path} {paths : List Path}

/-! ## What one path of a manifest leads to -/

/-- A path is refused: it has a null character, or it is too long or has a name that is. -/
def Refused (tree : FileTree) (base : Path) : Prop :=
  base.names.any (·.contains '\x00') = true ∨
    tree.entryAt base.straighten = .error (.fault .nameTooLong base.straighten)

instance : Decidable (Refused tree base) := inferInstanceAs (Decidable (_ ∨ _))

/-- What is found for a path of the manifest: an entry below the directory that it leads to, or the
file that it leads to. -/
structure FoundAt (tree : FileTree) (base path : Path) : Prop where
  root : path.root = "/"
  suffix : hasSourceSuffix path.name = true
  selected :
    (tree.entry? base.straighten.names = some .directory ∧ (tree.entry? path.names).isSome ∧
      base.straighten.names <+: path.names ∧ path.names ≠ base.straighten.names) ∨
    ((∃ content, tree.entry? path.names = some (.file content)) ∧
      path.names = base.straighten.names ∧ path.name ≠ sourceSuffix)

theorem straighten_names_subset : base.straighten.names ⊆ base.names := by
  intro name hname
  simpa using FileTree.mem_of_mem_follow hname

theorem any_nul_of_straighten (hnul : base.straighten.names.any (·.contains '\x00') = true) :
    base.names.any (·.contains '\x00') = true := by
  rw [List.any_eq_true] at hnul ⊢
  obtain ⟨name, hname, hcontains⟩ := hnul
  exact ⟨name, straighten_names_subset hname, hcontains⟩

theorem exists_sourcesAt_iff :
    (∃ found, sourcesAt tree base = .ok found) ↔ ¬ Refused tree base := by
  unfold sourcesAt Refused
  cases hnul : base.names.any (·.contains '\x00') with
  | true => simp
  | false =>
    cases hentry : tree.entryAt base.straighten with
    | ok entry => cases entry <;> simp [hentry]
    | error error =>
      rcases FileTree.entryAt_eq_error hentry with ⟨rfl, hstraight⟩ | ⟨fault, rfl, hfault⟩
      · rw [any_nul_of_straighten hstraight] at hnul
        cases hnul
      · rcases hfault with rfl | rfl | rfl <;> simp [hentry]

theorem FoundAt.exists_entry (hfound : FoundAt tree base path) :
    ∃ entry, tree.entry? base.straighten.names = some entry := by
  rcases hfound.selected with ⟨hdirectory, -⟩ | ⟨⟨content, hfile⟩, hnames, -⟩
  · exact ⟨_, hdirectory⟩
  · exact ⟨_, hnames ▸ hfile⟩

theorem foundAt_file {content : List UInt8}
    (hfile : tree.entry? base.straighten.names = some (.file content)) :
    FoundAt tree base path ↔ path = base.straighten ∧
      hasSourceSuffix base.straighten.name = true ∧ base.straighten.name ≠ sourceSuffix := by
  constructor
  · rintro ⟨hroot, hsuffix, ⟨hdirectory, -⟩ | ⟨-, hnames, hname⟩⟩
    · rw [hfile] at hdirectory
      cases hdirectory
    · obtain ⟨root, names⟩ := path
      obtain rfl : root = "/" := hroot
      obtain rfl : names = base.straighten.names := hnames
      exact ⟨rfl, hsuffix, hname⟩
  · rintro ⟨rfl, hsuffix, hname⟩
    exact ⟨rfl, hsuffix, .inr ⟨⟨content, hfile⟩, rfl, hname⟩⟩

theorem foundAt_directory (hdirectory : tree.entry? base.straighten.names = some .directory) :
    FoundAt tree base path ↔ path.root = "/" ∧ path.names ∈ tree.placesBelow base.straighten.names ∧
      hasSourceSuffix path.name = true := by
  have hbelow : path.names ∈ tree.placesBelow base.straighten.names ↔
      (tree.entry? path.names).isSome ∧ base.straighten.names <+: path.names ∧
        path.names ≠ base.straighten.names := by
    rw [FileTree.placesBelow, List.mem_filter, Bool.and_eq_true, List.isPrefixOf_iff_prefix,
      bne_iff_ne]
    refine and_congr_left fun ⟨hbelow, hne⟩ => ?_
    have hroot : path.names ≠ [] := by
      intro hroot
      rw [hroot, List.prefix_nil] at hbelow
      exact hne (hroot.trans hbelow.symm)
    rw [FileTree.entry?_of_ne_root hroot, Table.isSome_lookup_iff]
  rw [hbelow]
  constructor
  · rintro ⟨hroot, hsuffix, ⟨-, hselected⟩ | ⟨⟨content, hfile⟩, hnames, -⟩⟩
    · exact ⟨hroot, hselected, hsuffix⟩
    · rw [hnames, hdirectory] at hfile
      cases hfile
  · rintro ⟨hroot, hselected, hsuffix⟩
    exact ⟨hroot, hsuffix, .inl ⟨hdirectory, hselected⟩⟩

theorem mem_sourcesAt_iff (haccessible : tree.Accessible) {found : List Path}
    (hfound : sourcesAt tree base = .ok found) : path ∈ found ↔ FoundAt tree base path := by
  have hnothing : ∀ error, tree.entryAt base.straighten = .error error →
      ¬ FoundAt tree base path := by
    intro error herror hfound
    obtain ⟨entry, hentry⟩ := hfound.exists_entry
    rw [haccessible.entryAt_straighten.2 hentry] at herror
    cases herror
  unfold sourcesAt at hfound
  dsimp only at hfound
  split at hfound
  · cases hfound
  · split at hfound
    · rename_i hmissing
      cases hfound
      simpa using hnothing _ hmissing
    · rename_i hnoDirectory
      cases hfound
      simpa using hnothing _ hnoDirectory
    · cases hfound
    · rename_i content hfile
      cases hfound
      rw [foundAt_file (haccessible.entryAt_straighten.1 hfile)]
      split
      · rename_i hselected
        rw [List.mem_singleton]
        exact ⟨fun heq => ⟨heq, hselected⟩, And.left⟩
      · rename_i hother
        exact ⟨fun hmem => absurd hmem List.not_mem_nil, fun hfound => absurd hfound.2 hother⟩
    · rename_i hdirectory
      cases hfound
      rw [foundAt_directory (haccessible.entryAt_straighten.1 hdirectory), List.mem_map]
      constructor
      · rintro ⟨place, hplace, rfl⟩
        exact ⟨rfl, List.mem_filter.1 hplace⟩
      · rintro ⟨hroot, hselected⟩
        refine ⟨path.names, List.mem_filter.2 hselected, ?_⟩
        rw [show base.straighten.root = path.root from hroot.symm]

/-! ## All paths together -/

theorem discover_eq_ok_iff :
    discover tree manifest = .ok paths ↔
      ∃ founds, manifest.sourcePaths.mapM (sourcesAt tree) = .ok founds ∧
        paths = inOrder founds.flatten := by
  unfold discover
  rw [bind_eq_ok_iff]
  simp only [pure_eq_ok_iff, eq_comm (a := paths)]

theorem exists_discover_iff :
    (∃ paths, discover tree manifest = .ok paths) ↔
      ∀ base ∈ manifest.sourcePaths, ¬ Refused tree base := by
  constructor
  · rintro ⟨paths, hpaths⟩ base hbase
    obtain ⟨founds, hfounds, -⟩ := discover_eq_ok_iff.1 hpaths
    exact exists_sourcesAt_iff.1 (exists_result_of_mapM_eq_ok hfounds hbase)
  · intro haccepted
    obtain ⟨founds, hfounds⟩ := exists_mapM_eq_ok fun base hbase =>
      exists_sourcesAt_iff.2 (haccepted base hbase)
    exact ⟨_, discover_eq_ok_iff.2 ⟨founds, hfounds, rfl⟩⟩

theorem mem_inOrder_iff {found : List Path} : path ∈ inOrder found ↔ path ∈ found := by
  rw [inOrder, List.mem_mergeSort, mem_distinctBy]

/-- What is discovered is what is found for some path of the manifest. -/
theorem mem_discover_iff (haccessible : tree.Accessible)
    (hpaths : discover tree manifest = .ok paths) :
    path ∈ paths ↔ ∃ base ∈ manifest.sourcePaths, FoundAt tree base path := by
  obtain ⟨founds, hfounds, rfl⟩ := discover_eq_ok_iff.1 hpaths
  rw [mem_inOrder_iff, List.mem_flatten]
  constructor
  · rintro ⟨found, hfound, hmem⟩
    obtain ⟨base, hbase, hat⟩ := exists_of_mapM_eq_ok hfounds hfound
    exact ⟨base, hbase, (mem_sourcesAt_iff haccessible hat).1 hmem⟩
  · rintro ⟨base, hbase, hmem⟩
    obtain ⟨found, hfound, hat⟩ := exists_mem_of_mapM_eq_ok hfounds hbase
    exact ⟨found, hfound, (mem_sourcesAt_iff haccessible hat).2 hmem⟩

/-- One path comes before another: its names end where those go on, or have a smaller one where they
first differ. -/
def Precedes (a b : Path) : Prop := List.Lex (· < ·) a.names b.names

theorem lex_iff_precedes {a b : Path} : List.lex a.names b.names = true ↔ Precedes a b :=
  List.lex_eq_true_iff_lt

theorem Precedes.irrefl (a : Path) : ¬ Precedes a a := List.lt_irrefl a.names

theorem Precedes.asymm {a b : Path} (hab : Precedes a b) : ¬ Precedes b a := fun hba =>
  Precedes.irrefl a (List.lt_trans hab hba)

theorem names_eq_of_not_precedes {a b : Path} (hba : ¬ Precedes b a) (hab : ¬ Precedes a b) :
    a.names = b.names :=
  List.le_antisymm hba hab

/-- Paths come in the order of their names. -/
theorem pairwise_inOrder (found : List Path) :
    (inOrder found).Pairwise fun a b => ¬ Precedes b a := by
  have hle : ∀ a b : Path, (!List.lex b.names a.names) = true ↔ ¬ Precedes b a := by
    intro a b
    rw [Bool.not_eq_true', ← Bool.not_eq_true, lex_iff_precedes]
  have hsorted : (inOrder found).Pairwise fun a b => (!List.lex b.names a.names) = true := by
    refine List.pairwise_mergeSort ?_ ?_ _
    · intro a b c hab hbc
      rw [hle] at *
      exact List.le_trans (List.not_lt.1 hab) (List.not_lt.1 hbc)
    · intro a b
      rw [Bool.or_eq_true, hle, hle]
      exact List.le_total a.names b.names
  exact hsorted.imp fun h => (hle _ _).1 h

theorem nodup_inOrder (found : List Path) : (inOrder found).Nodup := by
  rw [inOrder, (List.mergeSort_perm _ _).nodup_iff]
  simpa using nodup_map_distinctBy id found

/-- The paths discovered come in the order of their names, none of them twice. -/
theorem pairwise_discover (haccessible : tree.Accessible)
    (hpaths : discover tree manifest = .ok paths) :
    paths.Pairwise Precedes := by
  have hroot : ∀ path ∈ paths, path.root = "/" := by
    intro path hpath
    obtain ⟨base, -, hfound⟩ := (mem_discover_iff haccessible hpaths).1 hpath
    exact hfound.root
  obtain ⟨founds, -, rfl⟩ := discover_eq_ok_iff.1 hpaths
  refine ((pairwise_inOrder founds.flatten).and (nodup_inOrder founds.flatten)).imp_of_mem ?_
  rintro ⟨root, names⟩ ⟨root', names'⟩ ha hb ⟨hle, hne⟩
  obtain rfl : root = "/" := hroot _ ha
  obtain rfl : root' = "/" := hroot _ hb
  by_contra hnot
  exact hne (congrArg (Path.mk "/") (names_eq_of_not_precedes hle hnot))

theorem nodup_of_increasing (hpaths : paths.Pairwise Precedes) :
    paths.Nodup := by
  refine hpaths.imp ?_
  rintro a b hab rfl
  exact Precedes.irrefl a hab

/-- Increasing lists of the same paths are the same. -/
theorem eq_of_increasing {others : List Path}
    (hpaths : paths.Pairwise Precedes)
    (hothers : others.Pairwise Precedes)
    (hmem : ∀ path, path ∈ others ↔ path ∈ paths) : others = paths := by
  have hperm : others.Perm paths :=
    (List.perm_ext_iff_of_nodup (nodup_of_increasing hothers) (nodup_of_increasing hpaths)).2 hmem
  exact hperm.eq_of_pairwise (fun a b _ _ hab hba => absurd hba hab.asymm) hothers hpaths

/-- In which order and how often a manifest has its paths makes no difference. -/
theorem discover_of_same_paths (haccessible : tree.Accessible)
    (hsame : ∀ base, base ∈ other.sourcePaths ↔ base ∈ manifest.sourcePaths)
    (hpaths : discover tree manifest = .ok paths) : discover tree other = .ok paths := by
  have haccepted := exists_discover_iff.1 ⟨paths, hpaths⟩
  obtain ⟨others, hothers⟩ := exists_discover_iff.2 fun base hbase =>
    haccepted base ((hsame base).1 hbase)
  have hmem : ∀ path, path ∈ others ↔ path ∈ paths := by
    intro path
    rw [mem_discover_iff haccessible hothers, mem_discover_iff haccessible hpaths]
    simp only [hsame]
  rw [hothers, eq_of_increasing (pairwise_discover haccessible hpaths)
    (pairwise_discover haccessible hothers) hmem]

/-! ## The sources of a project -/

/-- A source of a project: a file whose name ends in the suffix, and which the manifest names
itself or a directory around it. -/
structure IsSource (tree : FileTree) (manifest : Manifest) (path : Path) : Prop where
  root : path.root = "/"
  file : ∃ content, tree.entry? path.names = some (.file content)
  suffix : hasSourceSuffix path.name = true
  configured : ∃ base ∈ manifest.sourcePaths, base.straighten.names = path.names ∨
    tree.entry? base.straighten.names = some .directory ∧ base.straighten.names <+: path.names

/-- The paths discovered are the sources of the project in order, and none of them is unreadable. -/
structure Discovers (tree : FileTree) (manifest : Manifest) (paths : List Path) : Prop where
  found : discover tree manifest = .ok paths
  increasing : paths.Pairwise Precedes
  mem_iff : ∀ path, path ∈ paths ↔ IsSource tree manifest path
  readable : ∀ path error, readSources tree paths ≠ .error (.unreadable path error)

/-- What a project has to be like: no path is refused, no directory that is searched has another
one with the suffix in it, and a file whose name is the suffix is named together with a directory
around it. -/
structure Plain (tree : FileTree) (manifest : Manifest) : Prop where
  accepted : ∀ base ∈ manifest.sourcePaths, ¬ Refused tree base
  directories : ∀ base ∈ manifest.sourcePaths, ∀ place : Place,
    tree.entry? base.straighten.names = some .directory → tree.entry? place = some .directory →
      base.straighten.names <+: place → place ≠ base.straighten.names →
        hasSourceSuffix (Path.mk "/" place).name = false
  bareSuffix : ∀ base ∈ manifest.sourcePaths,
    (∃ content, tree.entry? base.straighten.names = some (.file content)) →
      base.straighten.name = sourceSuffix → ∃ around ∈ manifest.sourcePaths,
        tree.entry? around.straighten.names = some .directory ∧
          around.straighten.names <+: base.straighten.names

/-- A source with a directory around it is found there. -/
theorem IsSource.foundAt (hsource : IsSource tree manifest path)
    (hdirectory : tree.entry? base.straighten.names = some .directory)
    (hbelow : base.straighten.names <+: path.names) : FoundAt tree base path := by
  obtain ⟨content, hfile⟩ := hsource.file
  refine ⟨hsource.root, hsource.suffix, .inl ⟨hdirectory, by simp [hfile], hbelow, ?_⟩⟩
  intro heq
  rw [heq, hdirectory] at hfile
  cases hfile

theorem Plain.isSource_iff (hplain : Plain tree manifest) :
    IsSource tree manifest path ↔ ∃ base ∈ manifest.sourcePaths, FoundAt tree base path := by
  constructor
  · intro hsource
    obtain ⟨base, hbase, hnames | ⟨hdirectory, hbelow⟩⟩ := hsource.configured
    · have hname : base.straighten.name = path.name := by simp only [Path.name, hnames]
      by_cases hbare : path.name = sourceSuffix
      · obtain ⟨around, haround, hdirectory, hbelow⟩ :=
          hplain.bareSuffix base hbase (hnames ▸ hsource.file) (hname.trans hbare)
        exact ⟨around, haround, hsource.foundAt hdirectory (hnames ▸ hbelow)⟩
      · exact ⟨base, hbase, hsource.root, hsource.suffix, .inr ⟨hsource.file, hnames.symm, hbare⟩⟩
    · exact ⟨base, hbase, hsource.foundAt hdirectory hbelow⟩
  · rintro ⟨base, hbase, hroot, hsuffix, ⟨hdirectory, hthere, hbelow, hne⟩ | ⟨hfile, hnames, -⟩⟩
    · obtain ⟨entry, hentry⟩ := Option.isSome_iff_exists.1 hthere
      cases entry with
      | file content =>
        exact ⟨hroot, ⟨content, hentry⟩, hsuffix, base, hbase, .inr ⟨hdirectory, hbelow⟩⟩
      | directory =>
        have hother := hplain.directories base hbase path.names hdirectory hentry hbelow hne
        rw [← hroot, hsuffix] at hother
        cases hother
    · exact ⟨hroot, hfile, hsuffix, base, hbase, .inl hnames.symm⟩

theorem plain_of_isSource_iff (haccepted : ∀ base ∈ manifest.sourcePaths, ¬ Refused tree base)
    (hsources : ∀ path, IsSource tree manifest path ↔
      ∃ base ∈ manifest.sourcePaths, FoundAt tree base path) : Plain tree manifest := by
  refine ⟨haccepted, fun base hbase place hdirectory hplace hbelow hne => ?_,
    fun base hbase hfile hname => ?_⟩
  · rw [← Bool.not_eq_true]
    intro hsuffix
    have hfound : FoundAt tree base ⟨"/", place⟩ :=
      ⟨rfl, hsuffix, .inl ⟨hdirectory, by simp [hplace], hbelow, hne⟩⟩
    obtain ⟨content, hfile⟩ := ((hsources _).2 ⟨base, hbase, hfound⟩).file
    rw [hplace] at hfile
    cases hfile
  · have hsource : IsSource tree manifest base.straighten :=
      ⟨rfl, hfile, by rw [hname]; decide +kernel, base, hbase, .inl rfl⟩
    obtain ⟨around, haround, hfound⟩ := (hsources _).1 hsource
    rcases hfound.selected with ⟨hdirectory, -, hbelow, -⟩ | ⟨-, -, hother⟩
    · exact ⟨around, haround, hdirectory, hbelow⟩
    · exact absurd hname hother

/-- A file that is there is not unreadable. -/
theorem readSources_ne_unreadable (haccessible : tree.Accessible)
    (hfiles : ∀ path ∈ paths, path.root = "/" ∧
      ∃ content, tree.entry? path.names = some (.file content)) (error : FileError) :
    readSources tree paths ≠ .error (.unreadable path error) := by
  intro herror
  obtain ⟨⟨root, names⟩, hmem, hsource⟩ := exists_error_of_mapM herror
  obtain ⟨hroot, content, hfile⟩ := hfiles _ hmem
  obtain rfl : root = "/" := hroot
  unfold readSource sourceText at hsource
  rw [haccessible.read hfile] at hsource
  cases hdecode : Text.decode content with
  | error fault => simp [hdecode] at hsource
  | ok text =>
    simp only [hdecode] at hsource
    split at hsource
    · cases hsource
    · cases hsource

/-- What is discovered are the sources of the project, in order and readable, exactly if the
project is a plain one. In any case it comes in order, and depends on nothing in the manifest but
which paths there are. -/
theorem discovers_iff_plain (haccessible : tree.Accessible) (manifest : Manifest) :
    ((∃ paths, Discovers tree manifest paths) ↔ Plain tree manifest) ∧
      ∀ paths, discover tree manifest = .ok paths →
        paths.Pairwise Precedes ∧
          ∀ other : Manifest,
            (∀ base, base ∈ other.sourcePaths ↔ base ∈ manifest.sourcePaths) →
              discover tree other = .ok paths := by
  refine ⟨⟨?_, fun hplain => ?_⟩, fun paths hpaths =>
    ⟨pairwise_discover haccessible hpaths, fun other hsame =>
      discover_of_same_paths haccessible hsame hpaths⟩⟩
  · rintro ⟨paths, hdiscovers⟩
    refine plain_of_isSource_iff (exists_discover_iff.1 ⟨paths, hdiscovers.found⟩) fun path => ?_
    rw [← hdiscovers.mem_iff, mem_discover_iff haccessible hdiscovers.found]
  · obtain ⟨paths, hpaths⟩ := exists_discover_iff.2 hplain.accepted
    have hmem : ∀ path, path ∈ paths ↔ IsSource tree manifest path := by
      intro path
      rw [mem_discover_iff haccessible hpaths, hplain.isSource_iff]
    refine ⟨paths, hpaths, pairwise_discover haccessible hpaths, hmem, fun path error => ?_⟩
    refine readSources_ne_unreadable haccessible (fun path hpath => ?_) error
    have hsource := (hmem path).1 hpath
    exact ⟨hsource.root, hsource.file⟩

/-- A directory of machines with another one in it. -/
def machinesTree : FileTree := ⟨[
  (["machines"], .directory),
  (["machines", "b.sm"], .file []),
  (["machines", "a"], .directory),
  (["machines", "a", "c.sm"], .file []),
  (["machines", "notes"], .file [])]⟩

/-- A project with paths that overlap, and one that leads nowhere. -/
def overlapping : Manifest :=
  ⟨⟨"", ""⟩, ["machines/b.sm", "machines", "x/../machines/a", "y"], ⟨"", true⟩, ⟨"/", []⟩⟩

theorem accessible_machinesTree : machinesTree.Accessible := by
  refine ⟨⟨by decide, by decide⟩, fun place hplace => ?_⟩
  simp only [machinesTree, Table.keys, List.map_cons, List.map_nil, List.mem_cons,
    List.not_mem_nil, or_false] at hplace
  rcases hplace with rfl | rfl | rfl | rfl | rfl <;>
    exact ⟨by decide, by simp only [String.contains_char_eq]; decide, by decide, by decide⟩

theorem plain_overlapping : Plain machinesTree overlapping := by
  refine ⟨?_, fun base _ place _ hplace _ _ => ?_, fun base hbase _ hname => ?_⟩
  · have hpaths : overlapping.sourcePaths = [⟨"/", ["machines", "b.sm"]⟩, ⟨"/", ["machines"]⟩,
        ⟨"/", ["x", "..", "machines", "a"]⟩, ⟨"/", ["y"]⟩] := by decide +kernel
    rw [hpaths]
    simp only [Refused, FileTree.entryAt, FileTree.locate, String.contains_char_eq]
    decide +kernel
  · have hnone : ∀ place ∈ [] :: machinesTree.entries.keys,
        machinesTree.entry? place = some .directory →
          hasSourceSuffix (Path.mk "/" place).name = false := by decide +kernel
    exact hnone place (List.mem_cons.2 (FileTree.mem_keys_of_entry? hplace)) hplace
  · have hnone : ∀ base ∈ overlapping.sourcePaths, base.straighten.name ≠ sourceSuffix := by
      decide +kernel
    exact absurd hname (hnone base hbase)

/-- Sources that several paths lead to are discovered. -/
theorem sources_of_overlapping : ∃ paths, machinesTree.Accessible ∧
    Discovers machinesTree overlapping paths ∧
    ⟨"/", ["machines", "a", "c.sm"]⟩ ∈ paths ∧ ⟨"/", ["machines", "b.sm"]⟩ ∈ paths := by
  obtain ⟨paths, hdiscovers⟩ :=
    (discovers_iff_plain accessible_machinesTree overlapping).1.2 plain_overlapping
  refine ⟨paths, accessible_machinesTree, hdiscovers, ?_, ?_⟩
  · exact (hdiscovers.mem_iff _).2 ⟨rfl, ⟨[], by decide⟩, by decide +kernel,
      ⟨"/", ["machines"]⟩, by decide, .inr (by decide)⟩
  · exact (hdiscovers.mem_iff _).2 ⟨rfl, ⟨[], by decide⟩, by decide +kernel,
      ⟨"/", ["machines", "b.sm"]⟩, by decide, .inl (by decide)⟩

/-- A directory with the suffix is discovered, and is no source. -/
theorem directory_discovered : ∃ (tree : FileTree) (manifest : Manifest) (path : Path),
    tree.Accessible ∧ manifest.sourcePaths = [⟨"/", ["machines"]⟩] ∧
      path = ⟨"/", ["machines", "d.sm"]⟩ ∧ tree.entry? path.names = some .directory ∧
        discover tree manifest = .ok [path] ∧ ¬ IsSource tree manifest path ∧
          readSources tree [path] = .error (.unreadable path (.fault .isDirectory path)) := by
  refine ⟨⟨[(["machines"], .directory), (["machines", "d.sm"], .directory)]⟩,
    ⟨⟨"", ""⟩, ["machines"], ⟨"", true⟩, ⟨"/", []⟩⟩, ⟨"/", ["machines", "d.sm"]⟩,
    ⟨⟨by decide, by decide⟩, fun place hplace => ?_⟩, by decide +kernel, rfl, by decide, ?_, ?_, ?_⟩
  · simp only [Table.keys, List.map_cons, List.map_nil, List.mem_cons, List.not_mem_nil,
      or_false] at hplace
    rcases hplace with rfl | rfl <;>
      exact ⟨by decide, by simp only [String.contains_char_eq]; decide, by decide, by decide⟩
  · simp only [discover, Manifest.sourcePaths, List.map_cons, List.map_nil, List.mapM_cons,
      List.mapM_nil, sourcesAt, FileTree.entryAt, FileTree.locate, String.contains_char_eq]
    decide +kernel
  · rintro ⟨-, ⟨content, hfile⟩, -⟩
    cases hfile
  · simp only [readSources, List.mapM_cons, readSource, sourceText, FileTree.read, FileTree.entryAt,
      FileTree.locate, String.contains_char_eq]
    rfl

end Project

end FsmCompiler
