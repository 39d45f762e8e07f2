/-
# What changes in a file tree

Which entries a file tree has after a file was written, a directory was made or an
entry was removed, and that every other entry is as it was. A tree is well formed if
no place has two entries and whatever stands at a place stands in a directory; all
operations keep it so. In a well-formed tree nothing stands below a file, so that
removing a file removes nothing else, and a path leads into a directory.
-/

import FsmCompiler.FileTree
import FsmCompiler.Proofs.TableLookup
import Mathlib.Data.List.Nodup

namespace FsmCompiler

namespace Table

variable [BEq κ] [LawfulBEq κ] {table : Table κ α} {key : κ} {value : α}

/-- What has a value is a key. -/
theorem isSome_lookup_iff : (table.lookup key).isSome ↔ key ∈ table.keys := by
  induction table with
  | nil => simp [keys]
  | cons entry rest ih =>
    obtain ⟨k, v⟩ := entry
    by_cases hkey : key = k
    · subst hkey
      simp [keys]
    · have hne : (key == k) = false := by simp [hkey]
      rw [List.lookup_cons, hne]
      simp only [keys] at ih
      simp [keys, hkey, ih]

/-- Storing what is there changes nothing. -/
theorem insert_of_lookup (hlookup : table.lookup key = some value) :
    insert key value table = table := by
  induction table with
  | nil => cases hlookup
  | cons entry rest ih =>
    obtain ⟨k, v⟩ := entry
    by_cases hkey : key = k
    · subst hkey
      have hvalue : v = value := by simpa [List.lookup_cons] using hlookup
      simp [insert, hvalue]
    · have hne : (key == k) = false := by simp [hkey]
      have hne' : (k == key) = false := by simp [Ne.symm hkey]
      rw [List.lookup_cons, hne] at hlookup
      simp [insert, hne', ih hlookup]

/-- Keys that are left out have no value, and the others the one they had. -/
theorem lookup_filter_keys (keep : κ → Bool) (table : Table κ α) (key : κ) :
    (table.filter fun entry => keep entry.1).lookup key =
      if keep key then table.lookup key else none := by
  induction table with
  | nil => simp
  | cons entry rest ih =>
    obtain ⟨k, v⟩ := entry
    by_cases hkey : key = k
    · subst hkey
      cases hkeep : keep key <;> simp [hkeep, ih]
    · have hne : (key == k) = false := by simp [hkey]
      cases hkeep : keep k <;> simp [hkeep, ih, List.lookup_cons, hne]

end Table

namespace FileTree

variable {tree after : FileTree} {path : Path} {place other : Place} {names : List String}

/-! ## Well-formed trees -/

/-- A tree in which every place has one entry, and every entry stands in a directory. -/
structure WellFormed (tree : FileTree) : Prop where
  distinct : tree.entries.keys.Nodup
  around : ∀ place ∈ tree.entries.keys, tree.entry? place.dropLast = some .directory

/-- The tree with an entry put at a place. -/
def put (tree : FileTree) (place : Place) (entry : Entry) : FileTree :=
  ⟨Table.insert place entry tree.entries⟩

theorem isDirectory_iff : tree.isDirectory place = true ↔ tree.entry? place = some .directory := by
  simp [isDirectory]

@[simp]
theorem entry?_root : tree.entry? [] = some .directory := by simp [FileTree.entry?]

theorem entry?_of_ne_root (hplace : place ≠ []) :
    tree.entry? place = tree.entries.lookup place := by
  simp [FileTree.entry?, hplace]

/-- What stands anywhere stands in a directory. -/
theorem WellFormed.entry?_dropLast (hwell : tree.WellFormed)
    (hentry : (tree.entry? place).isSome) : tree.entry? place.dropLast = some .directory := by
  by_cases hroot : place = []
  · simp [hroot]
  · rw [entry?_of_ne_root hroot, Table.isSome_lookup_iff] at hentry
    exact hwell.around place hentry

/-- What something stands below of is a directory. -/
theorem WellFormed.directory_of_below (hwell : tree.WellFormed) {below : List String}
    (hentry : (tree.entry? (place ++ below)).isSome) (hbelow : below ≠ []) :
    tree.entry? place = some .directory := by
  induction below using List.reverseRecOn with
  | nil => exact absurd rfl hbelow
  | append_singleton between name ih =>
    have hdirectory := hwell.entry?_dropLast hentry
    rw [← List.append_assoc, List.dropLast_concat] at hdirectory
    by_cases hbetween : between = []
    · simpa [hbetween] using hdirectory
    · exact ih (by simp [hdirectory]) hbetween

theorem entry?_put {entry : Entry} (hplace : place ≠ []) :
    FileTree.entry? (tree.put place entry) other =
      if other = place then some entry else tree.entry? other := by
  by_cases hother : other = []
  · simp [hother, hplace.symm]
  · rw [entry?_of_ne_root hother, put, Table.lookup_insert, entry?_of_ne_root hother]
    simp

/-- What is put where it stands changes nothing. -/
theorem put_eq_self {entry : Entry} (hplace : place ≠ [])
    (hentry : tree.entry? place = some entry) : tree.put place entry = tree := by
  rw [entry?_of_ne_root hplace] at hentry
  rw [put, Table.insert_of_lookup hentry]

/-- An entry may be put into a directory, in place of no directory. -/
theorem WellFormed.put (hwell : tree.WellFormed) {entry : Entry} (hplace : place ≠ [])
    (haround : tree.entry? place.dropLast = some .directory)
    (hold : tree.entry? place ≠ some .directory) : (tree.put place entry).WellFormed := by
  have hdirectory : ∀ other, tree.entry? other = some .directory →
      FileTree.entry? (tree.put place entry) other = some .directory := by
    intro other hother
    have hne : other ≠ place := by
      rintro rfl
      exact hold hother
    rw [entry?_put hplace, if_neg hne, hother]
  constructor
  · rw [FileTree.put, Table.keys_insert]
    split
    · exact hwell.distinct
    · rename_i hnew
      exact List.Nodup.append hwell.distinct (List.nodup_singleton _) (by simpa using hnew)
  · intro other hother
    apply hdirectory
    rw [FileTree.put, Table.keys_insert] at hother
    split at hother
    · exact hwell.around other hother
    · rcases List.mem_append.1 hother with hother | hother
      · exact hwell.around other hother
      · rwa [List.mem_singleton.1 hother]

/-! ## Removing -/

/-- Removing takes away what stands at a place and below, and nothing else. -/
theorem entry?_remove (hplace : place ≠ []) :
    FileTree.entry? (tree.remove place) other =
      if place <+: other then none else tree.entry? other := by
  by_cases hother : other = []
  · subst hother
    simp [hplace]
  · rw [entry?_of_ne_root hother, entry?_of_ne_root hother, remove,
      Table.lookup_filter_keys fun key => !place.isPrefixOf key]
    by_cases hbelow : place.isPrefixOf other
    · rw [if_pos (List.isPrefixOf_iff_prefix.1 hbelow)]
      simp [hbelow]
    · rw [if_neg fun h => hbelow (List.isPrefixOf_iff_prefix.2 h)]
      simp [hbelow]

theorem WellFormed.remove (hwell : tree.WellFormed) (hplace : place ≠ []) :
    (tree.remove place).WellFormed := by
  have hkeys : (tree.remove place).entries.keys =
      tree.entries.keys.filter fun key => !place.isPrefixOf key := by
    simp [FileTree.remove, Table.keys, List.filter_map, Function.comp_def]
  constructor
  · rw [hkeys]
    exact hwell.distinct.filter _
  · intro other hother
    rw [hkeys, List.mem_filter] at hother
    have hapart : ¬ place <+: other := by
      intro hbelow
      simp [List.isPrefixOf_iff_prefix.2 hbelow] at hother
    rw [entry?_remove hplace,
      if_neg fun hbelow => hapart (hbelow.trans (List.dropLast_prefix other))]
    exact hwell.around other hother.1

/-- Where no directory stands, removing takes away one entry at most. -/
theorem WellFormed.entry?_remove (hwell : tree.WellFormed)
    (hplace : tree.entry? place ≠ some .directory) (other : Place) :
    FileTree.entry? (tree.remove place) other =
      if other = place then none else tree.entry? other := by
  have hroot : place ≠ [] := by
    rintro rfl
    exact hplace entry?_root
  rw [FileTree.entry?_remove hroot]
  by_cases hother : other = place
  · simp [hother]
  · rw [if_neg hother]
    split
    · rename_i hbelow
      obtain ⟨below, rfl⟩ := hbelow
      by_contra hentry
      have hsome : (tree.entry? (place ++ below)).isSome := by
        rw [Option.isSome_iff_ne_none]
        exact fun hnone => hentry hnone.symm
      exact hplace (hwell.directory_of_below hsome (by simpa using hother))
    · rfl

/-! ## Following paths -/

theorem next_eq_ok_iff {name : String} :
    tree.next place name = .ok other ↔ tree.entry? place = some .directory ∧
      name.utf8ByteSize ≤ longestName ∧ other = Path.follow place name := by
  unfold next
  split
  · rename_i hentry
    by_cases hlong : longestName < name.utf8ByteSize
    · simp [hlong, Nat.not_le_of_lt hlong]
    · rw [if_neg hlong]
      simp [Nat.le_of_not_lt hlong, hentry, eq_comm]
  · rename_i hentry
    simp [hentry]
  · rename_i hentry
    simp [hentry]

theorem enter_concat {name : String} :
    tree.enter place (names ++ [name]) =
      (tree.enter place names).bind fun around => tree.next around name := by
  simp only [enter, List.foldlM_append, List.foldlM_cons, List.foldlM_nil, bind_pure]
  rfl

/-- Names that lead somewhere lead along the way that they say. -/
theorem eq_follow_of_enter (henter : tree.enter place names = .ok other) :
    other = names.foldl Path.follow place := by
  induction names using List.reverseRecOn generalizing other with
  | nil => exact (Except.ok.inj henter).symm
  | append_singleton names name ih =>
    rw [enter_concat] at henter
    cases haround : tree.enter place names with
    | error fault => simp [haround, Except.bind] at henter
    | ok around =>
      rw [haround] at henter
      obtain ⟨-, -, rfl⟩ := next_eq_ok_iff.1 henter
      rw [List.foldl_append, ← ih haround]
      rfl

theorem locate_eq_ok_iff :
    tree.locate path = .ok place ↔ path.names.any (·.contains '\x00') = false ∧
      path.text.utf8ByteSize ≤ longestPath ∧ tree.enter [] path.names = .ok place := by
  unfold locate
  cases hnul : path.names.any (·.contains '\x00') with
  | true => simp only [if_true, reduceCtorEq, false_and]
  | false =>
    by_cases hlong : longestPath < path.text.utf8ByteSize
    · simp [hlong, Nat.not_le_of_lt hlong]
    · cases tree.enter [] path.names <;> simp [hlong, Nat.le_of_not_lt hlong, Except.mapError]

/-- A path leads to a directory, or to a place in one. -/
theorem WellFormed.around_of_locate (hwell : tree.WellFormed)
    (hlocate : tree.locate path = .ok place) : tree.entry? place.dropLast = some .directory := by
  obtain ⟨-, -, henter⟩ := locate_eq_ok_iff.1 hlocate
  rcases List.eq_nil_or_concat path.names with hnone | ⟨names, name, hnames⟩
  · rw [hnone] at henter
    cases henter
    simp
  · rw [hnames, List.concat_eq_append, enter_concat] at henter
    cases haround : tree.enter [] names with
    | error fault => simp [haround, Except.bind] at henter
    | ok around =>
      rw [haround] at henter
      obtain ⟨hdirectory, -, rfl⟩ := next_eq_ok_iff.1 henter
      unfold Path.follow
      split
      · have hhere : (tree.entry? around).isSome := by simp [hdirectory]
        exact hwell.entry?_dropLast (by simp [hwell.entry?_dropLast hhere])
      · simpa using hdirectory

/-- A path to a name in a directory leads to the name's place in it. -/
theorem locate_child {name : String} (hname : name ≠ "..")
    (hdirectory : tree.locate path = .ok place)
    (hlocate : tree.locate (path.child name) = .ok other) :
    other = place ++ [name] := by
  obtain ⟨-, -, hplace⟩ := locate_eq_ok_iff.1 hdirectory
  obtain ⟨-, -, hother⟩ := locate_eq_ok_iff.1 hlocate
  rw [Path.child, enter_concat, hplace] at hother
  obtain ⟨-, -, rfl⟩ := next_eq_ok_iff.1 hother
  simp [Path.follow, hname]

/-- A tree keeps the directories of another. -/
def KeepsDirectories (tree after : FileTree) : Prop :=
  ∀ place, tree.entry? place = some .directory → after.entry? place = some .directory

/-- Paths are followed through directories only. -/
theorem KeepsDirectories.locate (hkeeps : tree.KeepsDirectories after)
    (hlocate : tree.locate path = .ok place) : after.locate path = .ok place := by
  obtain ⟨hnul, hlong, henter⟩ := locate_eq_ok_iff.1 hlocate
  refine locate_eq_ok_iff.2 ⟨hnul, hlong, ?_⟩
  clear hlocate hnul hlong
  generalize path.names = names at henter ⊢
  induction names using List.reverseRecOn generalizing place with
  | nil => exact henter
  | append_singleton names name ih =>
    rw [enter_concat] at henter ⊢
    cases haround : tree.enter [] names with
    | error fault => simp [haround, Except.bind] at henter
    | ok around =>
      rw [haround] at henter
      rw [ih haround]
      obtain ⟨hdirectory, hname, rfl⟩ := next_eq_ok_iff.1 henter
      exact next_eq_ok_iff.2 ⟨hkeeps around hdirectory, hname, rfl⟩

theorem entryAt_eq_ok_iff {entry : Entry} :
    tree.entryAt path = .ok entry ↔
      ∃ place, tree.locate path = .ok place ∧ tree.entry? place = some entry := by
  unfold entryAt
  cases tree.locate path with
  | error fault => simp [bind, Except.bind]
  | ok place => cases hentry : tree.entry? place <;> simp [bind, Except.bind, hentry]

/-! ## Writing files -/

theorem write_eq_ok_iff {content : List UInt8} :
    tree.write path content = .ok after ↔ ∃ place, tree.locate path = .ok place ∧
      tree.entry? place ≠ some .directory ∧ after = tree.put place (.file content) := by
  unfold write
  cases hlocate : tree.locate path with
  | error fault => simp [bind, Except.bind]
  | ok place =>
    simp only [bind, Except.bind]
    split
    · rename_i hdirectory
      simp [isDirectory_iff.1 hdirectory]
    · rename_i hdirectory
      rw [isDirectory_iff] at hdirectory
      simp only [Except.ok.injEq, exists_eq_left', ne_eq, hdirectory, not_false_eq_true, true_and,
        put]
      exact eq_comm

/-- Writing a file changes one entry, and no directory. -/
theorem WellFormed.write (hwell : tree.WellFormed) {content : List UInt8}
    (hlocate : tree.locate path = .ok place) (hwrite : tree.write path content = .ok after) :
    after.WellFormed ∧ tree.KeepsDirectories after ∧
      ∀ other, after.entry? other =
        if other = place then some (.file content) else tree.entry? other := by
  obtain ⟨found, hfound, hold, rfl⟩ := write_eq_ok_iff.1 hwrite
  cases hlocate.symm.trans hfound
  have hroot : place ≠ [] := by
    rintro rfl
    exact hold entry?_root
  refine ⟨hwell.put hroot (hwell.around_of_locate hlocate) hold, fun other hother => ?_,
    fun other => entry?_put hroot⟩
  rw [entry?_put hroot, if_neg, hother]
  rintro rfl
  exact hold hother

/-- A file is written anew without a change. -/
theorem write_of_entry? {content : List UInt8} (hlocate : tree.locate path = .ok place)
    (hentry : tree.entry? place = some (.file content)) : tree.write path content = .ok tree := by
  refine write_eq_ok_iff.2 ⟨place, hlocate, by simp [hentry], ?_⟩
  have hroot : place ≠ [] := by
    rintro rfl
    simp at hentry
  exact (put_eq_self hroot hentry).symm

theorem read_of_entry? {content : List UInt8} (hlocate : tree.locate path = .ok place)
    (hentry : tree.entry? place = some (.file content)) : tree.read path = .ok content := by
  rw [read, entryAt_eq_ok_iff.2 ⟨place, hlocate, hentry⟩]
  rfl

/-! ## Making directories -/

/-- A place on the way that a path takes. -/
def OnTheWay (path : Path) (place : Place) : Prop :=
  ∃ front, front <+: path.names ∧ place = front.foldl Path.follow []

/-- What making a directory at a path did: the path leads to a directory, and nothing
changed but that directories may stand on the way where nothing stood. -/
structure Settled (tree after : FileTree) (path : Path) (place : Place) : Prop where
  wellFormed : after.WellFormed
  located : after.locate path = .ok place
  directory : after.entry? place = some .directory
  entry : ∀ other, after.entry? other = tree.entry? other ∨
    tree.entry? other = none ∧ after.entry? other = some .directory ∧ OnTheWay path other

/-- Where a directory is, none is made. -/
theorem settleDirectory_of_directory (hlocate : tree.locate path = .ok place)
    (hdirectory : tree.entry? place = some .directory) :
    tree.settleDirectory path = .ok tree := by
  simp [settleDirectory, makeDirectory, entryAt, hlocate, hdirectory, bind, Except.bind,
    FileError.isMissing]

theorem makeDirectories_of_directory (hlocate : tree.locate path = .ok place)
    (hdirectory : tree.entry? place = some .directory) :
    tree.makeDirectories path = ⟨tree, none⟩ := by
  unfold makeDirectories makeDirectoriesWithin
  rw [settleDirectory_of_directory hlocate hdirectory]

theorem WellFormed.settleDirectory (hwell : tree.WellFormed)
    (hsettle : tree.settleDirectory path = .ok after) : ∃ place, Settled tree after path place := by
  unfold FileTree.settleDirectory at hsettle
  split at hsettle
  · rename_i made hmake
    cases hsettle
    unfold makeDirectory at hmake
    cases hlocate : tree.locate path with
    | error fault => simp [hlocate, bind, Except.bind] at hmake
    | ok place =>
      simp only [hlocate, bind, Except.bind] at hmake
      split at hmake
      · cases hmake
      · rename_i hnone
        cases hmake
        simp only [Bool.not_eq_true, Option.isSome_eq_false_iff, Option.isNone_iff_eq_none] at hnone
        have hroot : place ≠ [] := by
          rintro rfl
          simp at hnone
        have hentry : ∀ other, FileTree.entry? (tree.put place .directory) other =
            if other = place then some .directory else tree.entry? other :=
          fun _ => entry?_put hroot
        have hold : tree.entry? place ≠ some .directory := by simp [hnone]
        have hkeeps : tree.KeepsDirectories (tree.put place .directory) := by
          intro other hother
          rw [hentry]
          split <;> simp [*]
        refine ⟨place, hwell.put hroot (hwell.around_of_locate hlocate) hold,
          hkeeps.locate hlocate, ?_, fun other => ?_⟩
        · exact (hentry place).trans (if_pos rfl)
        · by_cases hother : other = place
          · subst hother
            refine .inr ⟨hnone, (hentry other).trans (if_pos rfl), path.names, List.prefix_rfl, ?_⟩
            exact eq_follow_of_enter (locate_eq_ok_iff.1 hlocate).2.2
          · exact .inl ((hentry other).trans (if_neg hother))
  · rename_i error hmake
    cases hthere : tree.entryAt path with
    | error fault => simp [hthere] at hsettle
    | ok entry =>
      cases entry with
      | file content => simp [hthere] at hsettle
      | directory =>
        have hafter : tree = after := by
          simp only [hthere, Bool.and_true] at hsettle
          split at hsettle
          · exact Except.ok.inj hsettle
          · cases hsettle
        subst hafter
        obtain ⟨place, hlocate, hdirectory⟩ := entryAt_eq_ok_iff.1 hthere
        exact ⟨place, hwell, hlocate, hdirectory, fun other => .inl rfl⟩

theorem OnTheWay.of_parent (hway : OnTheWay path.parent place) : OnTheWay path place := by
  obtain ⟨front, hfront, rfl⟩ := hway
  exact ⟨front, hfront.trans (List.dropLast_prefix _), rfl⟩

/-- First the directories around it are made, and then the directory in them. -/
theorem Settled.trans {between : FileTree} {around : Place}
    (haround : Settled tree between path.parent around)
    (hsettled : Settled between after path place) : Settled tree after path place := by
  refine ⟨hsettled.wellFormed, hsettled.located, hsettled.directory, fun other => ?_⟩
  rcases hsettled.entry other with heq | ⟨hnone, hmade, hway⟩
  · rw [heq]
    rcases haround.entry other with heq | ⟨hnone, hmade, hway⟩
    · exact .inl heq
    · exact .inr ⟨hnone, hmade, hway.of_parent⟩
  · rcases haround.entry other with heq | ⟨-, hmade, -⟩
    · exact .inr ⟨heq.symm.trans hnone, hmade, hway⟩
    · rw [hnone] at hmade
      cases hmade

theorem WellFormed.makeDirectories (hwell : tree.WellFormed)
    (hmade : (tree.makeDirectories path).error = none) :
    ∃ place, Settled tree (tree.makeDirectories path).tree path place := by
  unfold FileTree.makeDirectories at hmade ⊢
  generalize path.names.length = depth at hmade ⊢
  induction depth generalizing path with
  | zero =>
    unfold makeDirectoriesWithin at hmade ⊢
    cases hsettle : tree.settleDirectory path with
    | error fault => simp [hsettle] at hmade
    | ok after => exact hwell.settleDirectory hsettle
  | succ depth ih =>
    unfold makeDirectoriesWithin at hmade ⊢
    cases hsettle : tree.settleDirectory path with
    | ok after => exact hwell.settleDirectory hsettle
    | error fault =>
      simp only [hsettle] at hmade ⊢
      split at hmade
      · rename_i hmissing
        rw [if_pos hmissing]
        cases herror : (makeDirectoriesWithin depth tree path.parent).error with
        | some error =>
          simp only [herror] at hmade
          cases hmade
        | none =>
          simp only [herror] at hmade ⊢
          obtain ⟨around, haround⟩ := ih herror
          cases hlast :
              (makeDirectoriesWithin depth tree path.parent).tree.settleDirectory path with
          | error error => simp [hlast, Change.of] at hmade
          | ok after =>
            obtain ⟨place, hsettled⟩ := haround.wellFormed.settleDirectory hlast
            exact ⟨place, haround.trans hsettled⟩
      · cases hmade

/-! ## Names in a directory -/

theorem mem_namesIn_iff {name : String} :
    name ∈ tree.namesIn place ↔ (tree.entry? (place ++ [name])).isSome := by
  rw [entry?_of_ne_root (by simp), Table.isSome_lookup_iff, namesIn, List.mem_filterMap]
  constructor
  · rintro ⟨other, hother, hname⟩
    split at hname
    · rename_i hlast
      rcases List.eq_nil_or_concat other with rfl | ⟨front, last, rfl⟩
      · cases hname
      · rw [List.concat_eq_append] at *
        rw [List.getLast?_concat, Option.some.injEq] at hname
        rw [List.dropLast_concat] at hlast
        rwa [← hlast, ← hname]
    · cases hname
  · intro hmem
    exact ⟨place ++ [name], hmem, by simp⟩

theorem WellFormed.nodup_namesIn (hwell : tree.WellFormed) : (tree.namesIn place).Nodup := by
  refine List.Nodup.filterMap ?_ hwell.distinct
  intro first second name hfirst hsecond
  have heq : ∀ other : Place, name ∈ (if other.dropLast = place then other.getLast? else none) →
      other = place ++ [name] := by
    intro other hother
    split at hother
    · rename_i hlast
      rw [← hlast, List.dropLast_append_getLast? name hother]
    · cases hother
  rw [heq first hfirst, heq second hsecond]

end FileTree

end FsmCompiler
