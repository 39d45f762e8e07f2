/-
# Trees that paths lead through

A path is followed only if no name in it and not the path itself is too long, and names that are
two dots lead back. In the trees that a system has, every entry can be found all the same: its names
are in bounds, and so is the path that its place is. What operations put into a tree stands where a
path has led, so that they keep it so. A path without two dots leads to the place that it is.
-/

import FsmCompiler.Proofs.FileTrees

namespace FsmCompiler

namespace FileTree

variable {tree after : FileTree} {path : Path} {place other : Place} {names : List String}
  {name : String} {entry : Entry}

/-! ## Proper places -/

/-- A place whose names and whose path are in bounds. -/
structure ProperPlace (place : Place) : Prop where
  noDots : ".." ∉ place
  noNul : place.any (·.contains '\x00') = false
  names : ∀ name ∈ place, name.utf8ByteSize ≤ longestName
  size : (Path.mk "/" place).text.utf8ByteSize ≤ longestPath

/-- A tree in which every entry stands in a directory and at a proper place. -/
structure Accessible (tree : FileTree) : Prop where
  wellFormed : tree.WellFormed
  proper : ∀ place ∈ tree.entries.keys, ProperPlace place

theorem mem_keys_of_entry? (hentry : tree.entry? place = some entry) :
    place = [] ∨ place ∈ tree.entries.keys := by
  by_cases hroot : place = []
  · exact .inl hroot
  · rw [entry?_of_ne_root hroot] at hentry
    exact .inr (Table.isSome_lookup_iff.1 (by simp [hentry]))

/-- Following names adds no others. -/
theorem mem_of_mem_follow {name : String} (hname : name ∈ names.foldl Path.follow place) :
    name ∈ place ∨ name ∈ names := by
  induction names generalizing place with
  | nil => exact .inl hname
  | cons next names ih =>
    rcases ih hname with hfollow | hnames
    · unfold Path.follow at hfollow
      split at hfollow
      · exact .inl (List.dropLast_subset _ hfollow)
      · rcases List.mem_append.1 hfollow with hplace | hnext
        · exact .inl hplace
        · simp [List.mem_singleton.1 hnext]
    · simp [hnames]

theorem dots_not_mem_follow (hplace : ".." ∉ place) : ".." ∉ names.foldl Path.follow place := by
  induction names generalizing place with
  | nil => exact hplace
  | cons name names ih =>
    refine ih ?_
    unfold Path.follow
    split
    · exact fun hmem => hplace (List.dropLast_subset _ hmem)
    · rename_i hname
      simpa [hplace] using Ne.symm hname

theorem foldl_follow (hnames : ".." ∉ names) :
    names.foldl Path.follow place = place ++ names := by
  induction names generalizing place with
  | nil => simp
  | cons name names ih =>
    rw [List.mem_cons, not_or] at hnames
    obtain ⟨hname, hrest⟩ := hnames
    rw [List.foldl_cons, ih hrest, Path.follow, if_neg (Ne.symm hname), List.append_assoc,
      List.singleton_append]

theorem dots_not_mem_straighten : ".." ∉ path.straighten.names :=
  dots_not_mem_follow List.not_mem_nil

/-- The names to an entry lead to it. -/
theorem WellFormed.enter_self (hwell : tree.WellFormed) (hdots : ".." ∉ place)
    (hnames : ∀ name ∈ place, name.utf8ByteSize ≤ longestName)
    (hentry : (tree.entry? place).isSome) : tree.enter [] place = .ok place := by
  induction place using List.reverseRecOn with
  | nil => rfl
  | append_singleton names name ih =>
    have hdirectory : tree.entry? names = some .directory := by
      simpa using hwell.entry?_dropLast hentry
    simp only [List.mem_append, List.mem_singleton, not_or] at hdots hnames
    have haround : tree.enter [] names = .ok names :=
      ih hdots.1 (fun name hname => hnames name (.inl hname)) (by simp [hdirectory])
    rw [enter_concat, haround]
    exact next_eq_ok_iff.2
      ⟨hdirectory, hnames name (.inr rfl), by rw [Path.follow, if_neg (Ne.symm hdots.2)]⟩

theorem Accessible.locate (haccessible : tree.Accessible)
    (hentry : (tree.entry? place).isSome) : tree.locate ⟨"/", place⟩ = .ok place := by
  by_cases hroot : place = []
  · subst hroot
    exact locate_eq_ok_iff.2 ⟨rfl, by decide, rfl⟩
  · have hproper : ProperPlace place := by
      rw [entry?_of_ne_root hroot, Table.isSome_lookup_iff] at hentry
      exact haccessible.proper place hentry
    exact locate_eq_ok_iff.2 ⟨hproper.noNul, hproper.size,
      haccessible.wellFormed.enter_self hproper.noDots hproper.names hentry⟩

/-- A straight path leads to what stands at the place that it is. -/
theorem Accessible.entryAt_straighten (haccessible : tree.Accessible) :
    tree.entryAt path.straighten = .ok entry ↔
      tree.entry? path.straighten.names = some entry := by
  rw [entryAt_eq_ok_iff]
  constructor
  · rintro ⟨place, hlocate, hentry⟩
    have hplace := eq_follow_of_enter (locate_eq_ok_iff.1 hlocate).2.2
    rw [foldl_follow dots_not_mem_straighten, List.nil_append] at hplace
    rwa [hplace] at hentry
  · intro hentry
    have hsome : (tree.entry? path.straighten.names).isSome := by simp [hentry]
    exact ⟨_, haccessible.locate hsome, hentry⟩

theorem Accessible.read (haccessible : tree.Accessible) {content : List UInt8}
    (hentry : tree.entry? place = some (.file content)) :
    tree.read ⟨"/", place⟩ = .ok content :=
  read_of_entry? (haccessible.locate (by simp [hentry])) hentry

/-- Walking along names is stopped by what is missing, no directory or too long. -/
theorem enter_eq_error {fault : FileFault} (henter : tree.enter place names = .error fault) :
    fault = .missing ∨ fault = .notDirectory ∨ fault = .nameTooLong := by
  induction names using List.reverseRecOn with
  | nil => cases henter
  | append_singleton names name ih =>
    rw [enter_concat] at henter
    cases haround : tree.enter place names with
    | error first =>
      rw [haround] at henter
      cases henter
      exact ih haround
    | ok around =>
      rw [haround] at henter
      change tree.next around name = .error fault at henter
      unfold next at henter
      split at henter
      · split at henter
        · cases henter
          simp
        · cases henter
      · cases henter
        simp
      · cases henter
        simp

theorem entryAt_eq_error {error : FileError} (herror : tree.entryAt path = .error error) :
    error = .nullInPath ∧ path.names.any (·.contains '\x00') = true ∨
      ∃ fault, error = .fault fault path ∧
        (fault = .missing ∨ fault = .notDirectory ∨ fault = .nameTooLong) := by
  unfold entryAt at herror
  cases hlocate : tree.locate path with
  | ok place =>
    rw [hlocate] at herror
    simp only [bind, Except.bind] at herror
    split at herror
    · cases herror
    · cases herror
      exact .inr ⟨.missing, rfl, by simp⟩
  | error first =>
    rw [hlocate] at herror
    cases herror
    unfold FileTree.locate at hlocate
    split at hlocate
    · rename_i hnul
      cases hlocate
      exact .inl ⟨rfl, hnul⟩
    · split at hlocate
      · cases hlocate
        exact .inr ⟨.nameTooLong, rfl, by simp⟩
      · cases henter : tree.enter [] path.names with
        | ok place => simp [henter, Except.mapError] at hlocate
        | error fault =>
          rw [henter] at hlocate
          cases hlocate
          exact .inr ⟨fault, rfl, enter_eq_error henter⟩

/-! ## Operations -/

theorem size_le_of_enter (henter : tree.enter place names = .ok other) :
    ∀ name ∈ names, name.utf8ByteSize ≤ longestName := by
  induction names using List.reverseRecOn generalizing other with
  | nil => simp
  | append_singleton names name ih =>
    rw [enter_concat] at henter
    cases haround : tree.enter place names with
    | error fault => simp [haround, Except.bind] at henter
    | ok around =>
      rw [haround] at henter
      obtain ⟨-, hsize, -⟩ := next_eq_ok_iff.1 henter
      intro other hother
      rcases List.mem_append.1 hother with hother | hother
      · exact ih haround other hother
      · rwa [List.mem_singleton.1 hother]

/-- The bytes of names, each with a slash in front. -/
def bytesOf : List String → Nat
  | [] => 0
  | name :: names => name.utf8ByteSize + 1 + bytesOf names

theorem bytesOf_append (front behind : List String) :
    bytesOf (front ++ behind) = bytesOf front + bytesOf behind := by
  induction front with
  | nil => simp [bytesOf]
  | cons name front ih =>
    rw [List.cons_append, bytesOf, ih, bytesOf]
    omega

theorem bytesOf_follow_le (place : Place) (names : List String) :
    bytesOf (names.foldl Path.follow place) ≤ bytesOf place + bytesOf names := by
  induction names generalizing place with
  | nil => simp
  | cons name names ih =>
    have hfollow : bytesOf (Path.follow place name) ≤ bytesOf place + bytesOf [name] := by
      unfold Path.follow
      split
      · rcases List.eq_nil_or_concat place with rfl | ⟨front, last, rfl⟩
        · simp [bytesOf]
        · rw [List.concat_eq_append, List.dropLast_concat, bytesOf_append]
          omega
      · exact Nat.le_of_eq (bytesOf_append place [name])
    rw [List.foldl_cons, ← List.singleton_append, bytesOf_append]
    exact Nat.le_trans (ih _) (by omega)

theorem size_intercalate (hnames : names ≠ []) :
    ("/".intercalate names).utf8ByteSize + 1 = bytesOf names := by
  induction names with
  | nil => exact absurd rfl hnames
  | cons name names ih =>
    by_cases hrest : names = []
    · simp [hrest, bytesOf]
    · have hslash : "/".utf8ByteSize = 1 := rfl
      rw [String.intercalate_cons_of_ne_nil hrest, String.utf8ByteSize_append,
        String.utf8ByteSize_append, hslash, Nat.add_assoc, ih hrest]
      simp [bytesOf]

theorem size_text (hnames : path.names ≠ []) :
    path.text.utf8ByteSize + 1 = path.root.utf8ByteSize + bytesOf path.names := by
  rw [Path.text, if_neg fun hempty => hnames hempty.2, String.utf8ByteSize_append, Nat.add_assoc,
    size_intercalate hnames]

theorem properPlace_of_locate (habsolute : path.isAbsolute = true)
    (hlocate : tree.locate path = .ok place) : ProperPlace place := by
  obtain ⟨hnul, hsize, henter⟩ := locate_eq_ok_iff.1 hlocate
  have hplace := eq_follow_of_enter henter
  have hmem : ∀ name ∈ place, name ∈ path.names := by
    intro name hname
    rw [hplace] at hname
    simpa using mem_of_mem_follow hname
  refine ⟨?_, ?_, fun name hname => size_le_of_enter henter name (hmem name hname), ?_⟩
  · rw [hplace]
    exact dots_not_mem_follow List.not_mem_nil
  · rw [List.any_eq_false] at hnul ⊢
    exact fun name hname => hnul name (hmem name hname)
  · by_cases hnone : place = []
    · rw [hnone]
      decide
    · have hnames : path.names ≠ [] := by
        intro hnames
        rw [hnames] at hplace
        exact hnone hplace
      have hbytes : bytesOf place ≤ bytesOf path.names := by
        rw [hplace]
        simpa [bytesOf] using bytesOf_follow_le [] path.names
      have htext : (Path.mk "/" place).text.utf8ByteSize + 1 =
          "/".utf8ByteSize + bytesOf place := size_text hnone
      have hslash : "/".utf8ByteSize = 1 := rfl
      have hroot : path.root.utf8ByteSize ≠ 0 := by
        simpa [Path.isAbsolute] using habsolute
      have hpath := size_text hnames
      simp only [hslash] at htext
      omega

/-- What is put where an absolute path leads can be found there. -/
theorem Accessible.put (haccessible : tree.Accessible) (habsolute : path.isAbsolute = true)
    (hlocate : tree.locate path = .ok place) (hold : tree.entry? place ≠ some .directory) :
    (tree.put place entry).Accessible := by
  have hroot : place ≠ [] := by
    rintro rfl
    exact hold entry?_root
  refine ⟨haccessible.wellFormed.put hroot
    (haccessible.wellFormed.around_of_locate hlocate) hold, fun other hother => ?_⟩
  rw [FileTree.put, Table.keys_insert] at hother
  split at hother
  · exact haccessible.proper other hother
  · rcases List.mem_append.1 hother with hother | hother
    · exact haccessible.proper other hother
    · rw [List.mem_singleton.1 hother]
      exact properPlace_of_locate habsolute hlocate

theorem accessible_empty : empty.Accessible :=
  ⟨⟨List.nodup_nil, fun _ hplace => by cases hplace⟩, fun _ hplace => by cases hplace⟩

theorem Accessible.write (haccessible : tree.Accessible) (habsolute : path.isAbsolute = true)
    {content : List UInt8} (hwrite : tree.write path content = .ok after) : after.Accessible := by
  obtain ⟨place, hlocate, hold, rfl⟩ := write_eq_ok_iff.1 hwrite
  exact haccessible.put habsolute hlocate hold

theorem Accessible.makeDirectory (haccessible : tree.Accessible)
    (habsolute : path.isAbsolute = true) (hmake : tree.makeDirectory path = .ok after) :
    after.Accessible := by
  unfold FileTree.makeDirectory at hmake
  cases hlocate : tree.locate path with
  | error fault => simp [hlocate, bind, Except.bind] at hmake
  | ok place =>
    simp only [hlocate, bind, Except.bind] at hmake
    split at hmake
    · cases hmake
    · rename_i hnone
      cases hmake
      refine haccessible.put habsolute hlocate fun hdirectory => hnone ?_
      simp [hdirectory]

theorem Accessible.remove (haccessible : tree.Accessible) (hplace : place ≠ []) :
    (tree.remove place).Accessible := by
  refine ⟨haccessible.wellFormed.remove hplace, fun other hother => haccessible.proper other ?_⟩
  obtain ⟨entry, hentry, rfl⟩ := List.mem_map.1 hother
  exact List.mem_map_of_mem (List.mem_filter.1 hentry).1

/-- A tree that operations make out of nothing, each done at an absolute path. -/
inductive Made : FileTree → Prop
  | empty : Made .empty
  | write {tree after : FileTree} {path : Path} {content : List UInt8} (hmade : Made tree)
      (habsolute : path.isAbsolute = true) (hwrite : tree.write path content = .ok after) :
      Made after
  | makeDirectory {tree after : FileTree} {path : Path} (hmade : Made tree)
      (habsolute : path.isAbsolute = true) (hmake : tree.makeDirectory path = .ok after) :
      Made after
  | remove {tree : FileTree} {place : Place} (hmade : Made tree) (hplace : place ≠ []) :
      Made (tree.remove place)

/-- Whatever operations make is accessible. -/
theorem Made.accessible (hmade : Made tree) : tree.Accessible := by
  induction hmade with
  | empty => exact accessible_empty
  | write _ habsolute hwrite ih => exact ih.write habsolute hwrite
  | makeDirectory _ habsolute hmake ih => exact ih.makeDirectory habsolute hmake
  | remove _ hplace ih => exact ih.remove hplace

end FileTree

end FsmCompiler
