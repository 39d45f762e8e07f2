/-
# Generated files are recognised later

A later run removes the files of an earlier one that it does not write anew, if it
recognises them by their mark. The mark of a module stands below the names of its machine
and of its source, and only the first characters of a file are looked at. So a module
is recognised exactly if these names leave room for the mark, and a run leaves exactly its own
files exactly if that is so for all modules of the run before that it does not write anew.
-/

import FsmCompiler.Proofs.Encoding
import FsmCompiler.Proofs.Generation
import FsmCompiler.Proofs.TypeShape

namespace FsmCompiler

/-! ## Where a mark stands -/

namespace Text

variable {mark front rest : List Char} {reach : Nat}

/-- A text ends with what is appended to it. -/
theorem endsWith_append (front behind : String) : (front ++ behind).endsWith behind = true := by
  rw [String.endsWith_eq_endsWith_toSlice, String.Slice.endsWith_string_eq_endsWith_toSlice,
    String.Slice.Pattern.Model.endsWith_iff,
    String.Slice.Pattern.Model.ForwardSliceSearcher.revMatchesAt_iff_splits]
  simp only [String.Slice.splits_endPos_iff]
  exact ⟨front, by simp⟩

/-- Where nothing but line feeds ends lines, lines are uniform already. -/
theorem uniformLines_plain_append (rest : List Char) (hfront : '\r' ∉ front) :
    uniformLines (front ++ rest) = front ++ uniformLines rest := by
  induction front with
  | nil => rfl
  | cons c front ih =>
    rw [List.mem_cons, not_or] at hfront
    rw [List.cons_append, Target.uniformLines_cons (Ne.symm hfront.1), ih hfront.2,
      List.cons_append]

/-- A line end at the end of a text is a line feed at the end of the uniform one. -/
theorem exists_uniformLines_newline (text : List Char) :
    ∃ front, uniformLines (text ++ ['\n']) = front ++ ['\n'] := by
  fun_induction uniformLines text with
  | case1 text ih =>
    obtain ⟨front, hfront⟩ := ih
    exact ⟨'\n' :: front, by simp [uniformLines, hfront]⟩
  | case2 text hnot ih =>
    obtain ⟨front, hfront⟩ := ih
    cases text with
    | nil => exact ⟨[], by simp [uniformLines]⟩
    | cons c text =>
      have hhead : (c :: text ++ ['\n']).head? ≠ some '\n' := by
        rintro hc
        cases hc
        exact hnot text rfl
      refine ⟨'\n' :: front, ?_⟩
      rw [List.cons_append, Target.uniformLines_return hhead, hfront, List.cons_append]
  | case3 c text _ hreturn ih =>
    obtain ⟨front, hfront⟩ := ih
    refine ⟨c :: front, ?_⟩
    rw [List.cons_append, Target.uniformLines_cons hreturn, hfront, List.cons_append]
  | case4 => exact ⟨[], by simp [uniformLines]⟩

/-- A text without line feeds lies in a text exactly if it lies in one of two parts around a
line feed. -/
theorem infix_append_newline (hmark : '\n' ∉ mark) :
    mark <:+: front ++ '\n' :: rest ↔ mark <:+: front ∨ mark <:+: rest := by
  constructor
  · rintro ⟨before, behind, heq⟩
    rcases List.append_eq_append_iff.1 heq with ⟨middle, hfront, -⟩ | ⟨middle, hmiddle, hrest⟩
    · exact .inl ⟨before, middle, hfront.symm⟩
    · cases middle with
      | nil => exact .inl ⟨before, [], by simpa using hmiddle⟩
      | cons c middle =>
        obtain ⟨rfl, rfl⟩ := List.cons.inj hrest
        rcases List.append_eq_append_iff.1 hmiddle with ⟨inside, -, hin⟩ | ⟨inside, -, hin⟩
        · exact absurd (hin ▸ by simp) hmark
        · cases inside with
          | nil => exact absurd (List.nil_append mark ▸ hin ▸ List.mem_cons_self) hmark
          | cons c inside =>
            obtain ⟨-, rfl⟩ := List.cons.inj hin
            exact .inr ⟨inside, behind, rfl⟩
  · rintro (hfront | hrest)
    · exact hfront.trans (List.prefix_append _ _).isInfix
    · exact hrest.trans ((List.suffix_cons _ _).trans (List.suffix_append _ _)).isInfix

/-- A mark that ends in time is among the first characters. -/
theorem infix_take_of_le (hlength : front.length + mark.length ≤ reach) :
    mark <:+: (front ++ (mark ++ rest)).take reach := by
  have htaken : reach = (front ++ mark).length + (reach - (front ++ mark).length) := by
    rw [List.length_append]
    omega
  rw [← List.append_assoc, htaken, List.take_length_add_append]
  exact ⟨front, rest.take _, rfl⟩

/-- A mark that stands on a row of its own is among the first characters exactly if it ends in
time, unless those above it hold it too. -/
theorem infix_take_iff (hnone : mark ≠ []) (hmark : '\n' ∉ mark) :
    mark <:+: (front ++ ['\n'] ++ (mark ++ rest)).take reach ↔
      (front ++ ['\n']).length + mark.length ≤ reach ∨
        mark <:+: (front ++ ['\n']).take reach := by
  by_cases hends : (front ++ ['\n']).length + mark.length ≤ reach
  · exact iff_of_true (infix_take_of_le hends) (.inl hends)
  rw [or_iff_right hends, List.take_append]
  -- What is cut off of the mark is too short to hold it.
  have hcut : ¬ mark <:+: (mark ++ rest).take (reach - (front ++ ['\n']).length) := by
    intro hsubtext
    have hlonger := hsubtext.length_le
    have htaken := List.length_take_le (reach - (front ++ ['\n']).length) (mark ++ rest)
    have hpositive := List.length_pos_of_ne_nil hnone
    omega
  by_cases habove : reach ≤ (front ++ ['\n']).length
  · rw [Nat.sub_eq_zero_of_le habove, List.take_zero, List.append_nil]
  · rw [List.take_of_length_le (by omega), List.append_assoc, List.singleton_append,
      infix_append_newline hmark, infix_append_newline hmark, or_iff_left hcut,
      or_iff_left (by simpa using hnone)]

end Text

/-! ## The mark of a module -/

namespace ModuleText

/-- The rows above the mark at the top of a module. -/
def rowsAboveMark (machine : String) (source : Option String) : List String :=
  [longQuote, s!"{machine} state machine."] ++
    ((source.filter (· != "")).map fun source => s!"Source: {source}").toList

/-- What is read of a module above its mark. -/
def aboveMark (machine : String) (source : Option String) : List Char :=
  Text.uniformLines ((Text.unlines (rowsAboveMark machine source)).toList ++ ['\n'])

theorem newline_not_mem_generatedMark : '\n' ∉ generatedMark.toList := by decide

theorem exists_rows (code : CompiledModule) : ∃ more, rows code =
    rowsAboveMark code.machine code.source ++ generatedMark :: longQuote :: more := by
  refine ⟨["", imports, "", "",
      s!"{CompiledModule.machineNameConstant} = \"{code.machine}\""] ++
    code.labels.flatMap labelClass ++ collections code ++ tagClass code ++ machineClass code ++
    dispatch code ++ exportList code, ?_⟩
  simp [rows, header, description, rowsAboveMark]

/-- The mark of a module stands on a row of its own. -/
theorem exists_uniformLines_ofModule (code : CompiledModule) :
    ∃ rest, Text.uniformLines (ofModule code).toList =
      aboveMark code.machine code.source ++ (generatedMark.toList ++ rest) := by
  obtain ⟨more, hrows⟩ := exists_rows code
  have hreturn : '\r' ∉ generatedMark.toList := by decide
  have htext : (ofModule code).toList =
      ((Text.unlines (rowsAboveMark code.machine code.source)).toList ++ ['\n']) ++
        (generatedMark.toList ++ '\n' :: (Text.unlines (longQuote :: more) ++ "\n").toList) := by
    rw [ofModule, hrows, Text.unlines_append (by simp [rowsAboveMark]) (by simp),
      Text.unlines_cons generatedMark (by simp)]
    simp
  have hhead : (generatedMark.toList ++
      '\n' :: (Text.unlines (longQuote :: more) ++ "\n").toList).head? ≠ some '\n' := by
    simp [generatedMark]
  rw [htext, Target.uniformLines_append hhead, Text.uniformLines_plain_append _ hreturn]
  exact ⟨_, rfl⟩

/-- The mark of the file that imports the modules stands near its top, whatever the modules. -/
theorem exists_uniformLines_packageInit (modules : List String) :
    ∃ rest, Text.uniformLines (packageInit modules).toList =
      "\"\"\"\nGenerated state machines.\n".toList ++ (generatedMark.toList ++ rest) := by
  have hrows : initRows modules = [longQuote, "Generated state machines."] ++
      generatedMark :: longQuote :: (initRows modules).drop 4 := rfl
  generalize (initRows modules).drop 4 = more at hrows
  have hreturn : '\r' ∉ "\"\"\"\nGenerated state machines.\n".toList ++ generatedMark.toList := by
    decide
  have htext : (packageInit modules).toList =
      ("\"\"\"\nGenerated state machines.\n".toList ++ generatedMark.toList) ++
        '\n' :: (Text.unlines (longQuote :: more) ++ "\n").toList := by
    rw [packageInit_eq, hrows, Text.unlines_append (by simp) (by simp),
      Text.unlines_cons generatedMark (by simp)]
    simp [Text.unlines, longQuote]
  rw [htext, Text.uniformLines_plain_append _ hreturn, List.append_assoc]
  exact ⟨_, rfl⟩

end ModuleText

namespace Package

open ModuleText (aboveMark generatedMark)

variable {tree : FileTree} {directory : Path} {place : Place} {clean : Bool}
  {files earlier later : List MachineFile} {placed : List (Path × Machine)}
  {before package : List (String × String)} {entry : Path × Machine}

/-- What stands above the mark of the module of a machine leaves room for the mark among the
first characters, or a name above it spells the mark. -/
def MarkInReach (entry : Path × Machine) : Prop :=
  (aboveMark entry.2.name (some entry.1.name)).length + generatedMark.length ≤ 500 ∨
    generatedMark.toList <:+: (aboveMark entry.2.name (some entry.1.name)).take 500

/-- A text that is written is recognised by its first characters. -/
theorem isGenerated_encode {text : String} : isGenerated (.file (Text.encode text)) = true ↔
    generatedMark.toList <:+: (Text.uniformLines text.toList).take 500 := by
  rw [isGenerated_iff]
  constructor
  · rintro ⟨content, read, hcontent, hdecode, hmark⟩
    cases hcontent
    rw [Text.decode_encode] at hdecode
    cases hdecode
    exact hmark
  · intro hmark
    exact ⟨_, _, rfl, Text.decode_encode text, hmark⟩

/-- The module of a machine is recognised exactly if its mark is in reach. -/
theorem isGenerated_moduleFile :
    isGenerated (.file (Text.encode (moduleFile entry).2)) = true ↔ MarkInReach entry := by
  obtain ⟨rest, htext⟩ := ModuleText.exists_uniformLines_ofModule
    (entry.2.compile (some entry.1.name))
  have habove : aboveMark (entry.2.compile (some entry.1.name)).machine
      (entry.2.compile (some entry.1.name)).source =
        aboveMark entry.2.name (some entry.1.name) := rfl
  obtain ⟨front, hfront⟩ := Text.exists_uniformLines_newline
    (Text.unlines (ModuleText.rowsAboveMark entry.2.name (some entry.1.name))).toList
  rw [isGenerated_encode, moduleFile, htext, habove, MarkInReach, aboveMark, hfront,
    ← String.length_toList]
  exact Text.infix_take_iff (by decide) ModuleText.newline_not_mem_generatedMark

/-- The file that imports the modules is always recognised. -/
theorem isGenerated_packageInit (modules : List String) :
    isGenerated (.file (Text.encode (ModuleText.packageInit modules))) = true := by
  obtain ⟨rest, htext⟩ := ModuleText.exists_uniformLines_packageInit modules
  rw [isGenerated_encode, htext]
  exact Text.infix_take_of_le (by decide)

/-- The files of a package of machines. -/
theorem package_of_render (hrender : render files = .ok package) :
    package = (Lint.placedMachines files).map moduleFile ++
      [("__init__.py", ModuleText.packageInit (moduleNames (Lint.placedMachines files)))] := by
  rw [(renderable_of_render hrender).2, filesOf, List.map_map, List.map_map]
  rfl

/-- All files that are rendered are recognised exactly if the marks of all modules are in
reach. -/
theorem all_isGenerated_iff (hrender : render files = .ok package) :
    (∀ file ∈ package, isGenerated (.file (Text.encode file.2)) = true) ↔
      ∀ entry ∈ Lint.placedMachines files, MarkInReach entry := by
  simp only [package_of_render hrender, List.forall_mem_append, List.forall_mem_map,
    List.forall_mem_singleton, isGenerated_moduleFile, isGenerated_packageInit, and_true]

/-! ## How long names may be -/

/-- A text that begins with a character which is not in front lies behind the front. -/
theorem infix_append_of_not_mem {front rest mark : List Char} {c : Char} (hc : c ∉ front)
    (hsubtext : c :: mark <:+: front ++ rest) : c :: mark <:+: rest := by
  induction front with
  | nil => exact hsubtext
  | cons d front ih =>
    rw [List.mem_cons, not_or] at hc
    rcases List.infix_cons_iff.1 hsubtext with hprefix | hsubtext
    · exact absurd (List.cons_prefix_cons.1 hprefix).1 hc.1
    · exact ih hc.2 hsubtext

/-- What stands above the mark of a module whose names hold no carriage return. -/
theorem aboveMark_eq {machine source : String} (hmachine : '\r' ∉ machine.toList)
    (hsource : '\r' ∉ source.toList) : aboveMark machine (some source) =
      "\"\"\"".toList ++ '\n' :: (machine.toList ++ " state machine.".toList ++ '\n' ::
        if source = "" then [] else "Source: ".toList ++ source.toList ++ ['\n']) := by
  have hrows : (Text.unlines (ModuleText.rowsAboveMark machine (some source))).toList ++ ['\n'] =
      "\"\"\"".toList ++ '\n' :: (machine.toList ++ " state machine.".toList ++ '\n' ::
        if source = "" then [] else "Source: ".toList ++ source.toList ++ ['\n']) := by
    by_cases hnone : source = ""
    · simp [ModuleText.rowsAboveMark, Text.unlines, ModuleText.longQuote, Option.filter, hnone,
        toString]
    · simp [ModuleText.rowsAboveMark, Text.unlines, ModuleText.longQuote, Option.filter, hnone,
        toString]
  have hreturn : '\r' ∉ "\"\"\"".toList ++ '\n' :: (machine.toList ++ " state machine.".toList ++
      '\n' :: if source = "" then [] else "Source: ".toList ++ source.toList ++ ['\n']) := by
    split <;> simp [hmachine, hsource]
  have huniform := Text.uniformLines_plain_append [] hreturn
  rw [List.append_nil] at huniform
  rw [aboveMark, hrows, huniform, Text.uniformLines, List.append_nil]

/-- The mark of a module is in reach exactly if the names of the machine and of the source are
together short enough, unless the source spells the mark. -/
theorem markInReach_iff_length (hname : Validation.Bindable entry.2.name)
    (hreturn : '\r' ∉ entry.1.name.toList)
    (hspelled : ¬ generatedMark.toList <:+: entry.1.name.toList) :
    MarkInReach entry ↔
      entry.2.name.length + (if entry.1.name = "" then 0 else entry.1.name.length + 9) ≤ 447 := by
  have hwords : ∀ c ∈ entry.2.name.toList, Text.WordLike c :=
    fun c hc => Text.wordLike_of_isIdentifier hname.identifier hc
  have habove := aboveMark_eq
    (fun hmem => by simpa [Text.WordLike] using hwords _ hmem : '\r' ∉ entry.2.name.toList) hreturn
  have hnone : ¬ generatedMark.toList <:+:
      (aboveMark entry.2.name (some entry.1.name)).take 500 := by
    intro htaken
    have hsubtext := htaken.trans (List.take_prefix _ _).isInfix
    rw [habove, Text.infix_append_newline ModuleText.newline_not_mem_generatedMark,
      Text.infix_append_newline ModuleText.newline_not_mem_generatedMark] at hsubtext
    rcases hsubtext with hquotes | hmachine | hsource
    · exact absurd hquotes.length_le (by decide)
    · -- The mark holds a dash, and no name does.
      have hdash : '-' ∈ entry.2.name.toList ++ " state machine.".toList :=
        hmachine.subset (by decide)
      have hdash : '-' ∈ entry.2.name.toList := by simpa using hdash
      exact absurd (hwords _ hdash) (by simp [Text.WordLike])
    · split at hsource
      · exact absurd hsource.length_le (by decide)
      · rw [Text.infix_append_newline ModuleText.newline_not_mem_generatedMark] at hsource
        rcases hsource with hsource | hsource
        · exact hspelled (infix_append_of_not_mem (by decide) hsource)
        · exact absurd hsource.length_le (by decide)
  have hlength : (aboveMark entry.2.name (some entry.1.name)).length =
      20 + entry.2.name.length + if entry.1.name = "" then 0 else entry.1.name.length + 9 := by
    rw [habove]
    split <;> simp [String.length_toList] <;> omega
  have hmark : generatedMark.length = 33 := rfl
  rw [MarkInReach, or_iff_left hnone, hlength, hmark]
  omega

/-! ## Two runs -/

/-- Below a place there are the files of a package, each with its text, and nothing else. -/
structure HoldsExactly (tree : FileTree) (place : Place) (package : List (String × String)) :
    Prop where
  files : ∀ file ∈ package, tree.entry? (place ++ [file.1]) = some (.file (Text.encode file.2))
  others : ∀ other, place <+: other → other ≠ place →
    (∀ file ∈ package, other ≠ place ++ [file.1]) → tree.entry? other = none

/-- A run for which no operation was refused has its phases. -/
theorem phases_of_generate (hwell : tree.WellFormed) (hrender : render files = .ok package)
    (hresult : ∀ error,
      (generate tree directory clean files).result ≠ .error (.unwritten directory error)) :
    ∃ made cleaned place, Phases tree made cleaned (generate tree directory clean files).tree
      directory place clean package (generate tree directory clean files).steps := by
  obtain ⟨rendered, -, hgenerate⟩ := generate_of_package hrender
  have hwrite : (write tree directory clean package).error = none := by
    by_contra hsome
    obtain ⟨error, herror⟩ := Option.ne_none_iff_exists'.1 hsome
    refine hresult error ?_
    rw [hgenerate, herror]
  rw [hgenerate]
  exact phases_of_write hwell (isPackage_of_render hrender) hwrite

/-- A run in a directory that is there leads to a tree with that directory, and touches its own
entries only. -/
theorem touchesOwn_of_generate (hwell : tree.WellFormed)
    (hlocate : tree.locate directory = .ok place) (hrender : render files = .ok package)
    (hresult : ∀ error,
      (generate tree directory clean files).result ≠ .error (.unwritten directory error)) :
    (generate tree directory clean files).tree.WellFormed ∧
      (generate tree directory clean files).tree.entry? place = some .directory ∧
      TouchesOwn tree directory place clean package (generate tree directory clean files) := by
  obtain ⟨made, cleaned, found, hphases⟩ := phases_of_generate hwell hrender hresult
  have hfollow := FileTree.eq_follow_of_enter (FileTree.locate_eq_ok_iff.1 hphases.located).2.2
  have hplace := FileTree.eq_follow_of_enter (FileTree.locate_eq_ok_iff.1 hlocate).2.2
  obtain rfl : found = place := hfollow.trans hplace.symm
  exact ⟨hphases.wrote.wellFormed, hphases.isDirectory, hphases.touchesOwn⟩

/-- A run into an empty directory leaves its files there, and nothing else. -/
theorem holdsExactly_of_empty {run : Generation}
    (hthere : tree.entryAt directory = .ok .directory)
    (hempty : ∀ other, place <+: other → other ≠ place → tree.entry? other = none)
    (htouches : TouchesOwn tree directory place clean package run) :
    HoldsExactly run.tree place package := by
  refine ⟨fun file hfile => (htouches.written file hfile).2, fun other hbelow hne hother => ?_⟩
  rw [htouches.inside (.inr hthere) other hbelow hne, hempty other hbelow hne]
  rintro (⟨file, hfile, heq⟩ | ⟨-, name, hstale, -⟩)
  · exact hother file hfile heq
  · obtain ⟨content, text, hentry, -⟩ := hstale.marked
    rw [hempty (place ++ [name]) (List.prefix_append _ _) (by simp)] at hentry
    cases hentry

/-- All files of a package have the suffix of modules. -/
theorem IsPackage.endsWith (hpackage : IsPackage placed package) {file : String × String}
    (hfile : file ∈ package) : file.1.endsWith ".py" = true := by
  obtain ⟨init, rfl, -⟩ := hpackage.files
  rcases List.mem_append.1 hfile with hfile | hfile
  · obtain ⟨entry, -, rfl⟩ := List.mem_map.1 hfile
    exact Text.endsWith_append _ _
  · rw [List.mem_singleton.1 hfile]
    exact Text.endsWith_append "__init__" _

/-- A cleaning run over the files of another leaves its own files, and nothing else, exactly if
those that it does not write anew are recognised. -/
theorem holdsExactly_iff_isGenerated {run : Generation}
    (hthere : tree.entryAt directory = .ok .directory) (hpackage : IsPackage placed before)
    (hholds : HoldsExactly tree place before)
    (htouches : TouchesOwn tree directory place true package run) :
    HoldsExactly run.tree place package ↔
      ∀ file ∈ before, file.1 ∉ package.map (·.1) →
        isGenerated (.file (Text.encode file.2)) = true := by
  -- A file of the earlier package is stale if it is recognised and not written anew.
  have hstale : ∀ file ∈ before, file.1 ∉ package.map (·.1) →
      (Stale tree place package file.1 ↔ isGenerated (.file (Text.encode file.2)) = true) := by
    intro file hfile hfresh
    rw [isGenerated_iff]
    constructor
    · rintro ⟨-, -, content, text, hentry, hmarked⟩
      rw [hholds.files file hfile] at hentry
      exact ⟨content, text, Option.some.inj hentry, hmarked⟩
    · rintro ⟨content, text, hcontent, hmarked⟩
      exact ⟨hpackage.endsWith hfile, hfresh, content, text, hcontent ▸ hholds.files file hfile,
        hmarked⟩
  have hwritten : ∀ name, (∃ file ∈ package, place ++ [name] = place ++ [file.1]) ↔
      name ∈ package.map (·.1) := by
    intro name
    simp [eq_comm]
  constructor
  · intro hexactly file hfile hfresh
    by_contra hunmarked
    have hkept : ¬ Owned tree place true package (place ++ [file.1]) := by
      rintro (hwrote | ⟨-, name, hname, heq⟩)
      · exact hfresh ((hwritten _).1 hwrote)
      · obtain rfl : file.1 = name := by simpa using heq
        exact hunmarked ((hstale file hfile hfresh).1 hname)
    have hbelow : place <+: place ++ [file.1] := List.prefix_append _ _
    have hentry := htouches.inside (.inr hthere) _ hbelow (by simp) hkept
    rw [hholds.files file hfile, hexactly.others _ hbelow (by simp) fun other hother heq =>
      hfresh ((hwritten _).1 ⟨other, hother, heq⟩)] at hentry
    cases hentry
  · intro hgenerated
    refine ⟨fun file hfile => (htouches.written file hfile).2, fun other hbelow hne hother => ?_⟩
    by_cases howned : Owned tree place true package other
    · rcases howned with ⟨file, hfile, heq⟩ | ⟨-, name, hname, rfl⟩
      · exact absurd heq (hother file hfile)
      · exact htouches.removed rfl name hname
    · rw [htouches.inside (.inr hthere) other hbelow hne howned]
      refine hholds.others other hbelow hne fun file hfile heq => howned ?_
      subst heq
      by_cases hfresh : file.1 ∈ package.map (·.1)
      · exact .inl ((hwritten _).2 hfresh)
      · exact .inr ⟨rfl, file.1, (hstale file hfile hfresh).2 (hgenerated file hfile hfresh), rfl⟩

/-- A package does not write a file of another anew if it is that of a module which it has not;
the file that imports the modules is in both. -/
theorem forall_fresh_iff (hearlier : render earlier = .ok before)
    (hlater : render later = .ok package) :
    (∀ file ∈ before, file.1 ∉ package.map (·.1) →
        isGenerated (.file (Text.encode file.2)) = true) ↔
      ∀ entry ∈ Lint.placedMachines earlier,
        entry.2.moduleName ∉ moduleNames (Lint.placedMachines later) → MarkInReach entry := by
  have hnames : package.map (·.1) =
      (moduleNames (Lint.placedMachines later)).map (· ++ ".py") ++ ["__init__.py"] := by
    simp [package_of_render hlater, moduleNames, moduleFile]
  have hfresh : ∀ entry ∈ Lint.placedMachines earlier, (moduleFile entry).1 ∉ package.map (·.1) ↔
      entry.2.moduleName ∉ moduleNames (Lint.placedMachines later) := by
    intro entry hentry
    have hinit : entry.2.moduleName ++ ".py" ≠ "__init__.py" := by
      intro heq
      have hname : entry.2.moduleName = "__init__" := (String.append_left_inj ".py").1 heq
      refine ((renderable_of_render hearlier).1.name (List.mem_map_of_mem hentry)).1 ?_
      rw [hname]
      decide
    have hinjective : Function.Injective fun name : String => name ++ ".py" :=
      fun first second => (String.append_left_inj ".py").1
    rw [hnames, moduleFile, List.mem_append, List.mem_singleton, or_iff_left hinit]
    exact not_congr (List.mem_map_of_injective hinjective)
  rw [package_of_render hearlier, List.forall_mem_append, List.forall_mem_map]
  have hinit : "__init__.py" ∈ package.map (·.1) := by simp [hnames]
  simp only [List.forall_mem_singleton, hinit, not_true_eq_false, false_imp_iff, and_true,
    isGenerated_moduleFile]
  exact forall₂_congr fun entry hentry => by rw [hfresh entry hentry]

/-- A directory that is there and holds nothing. -/
structure EmptyAt (tree : FileTree) (directory : Path) (place : Place) : Prop where
  wellFormed : tree.WellFormed
  located : tree.locate directory = .ok place
  isDirectory : tree.entry? place = some .directory
  empty : ∀ other, place <+: other → other ≠ place → tree.entry? other = none

/-- Two runs, the first into an empty directory and the second, which cleans up, for another
project. The first leaves its own files and nothing else, and so does the second exactly if the
marks are in reach of the modules that it does not write anew. -/
theorem holdsExactly_of_runs {first second : Generation} (hempty : EmptyAt tree directory place)
    (hearlier : render earlier = .ok before) (hlater : render later = .ok package)
    (hfirst : generate tree directory clean earlier = first)
    (hsecond : generate first.tree directory true later = second)
    (hwritten : ∀ error, first.result ≠ .error (.unwritten directory error))
    (hrewritten : ∀ error, second.result ≠ .error (.unwritten directory error)) :
    HoldsExactly first.tree place before ∧
      (HoldsExactly second.tree place package ↔
        ∀ entry ∈ Lint.placedMachines earlier,
          entry.2.moduleName ∉ moduleNames (Lint.placedMachines later) → MarkInReach entry) := by
  subst hfirst hsecond
  have hthere := FileTree.entryAt_eq_ok_iff.2 ⟨place, hempty.located, hempty.isDirectory⟩
  obtain ⟨hwell, hdirectory, htouches⟩ :=
    touchesOwn_of_generate hempty.wellFormed hempty.located hearlier hwritten
  have hholds := holdsExactly_of_empty hthere hempty.empty htouches
  obtain ⟨-, -, hagain⟩ := touchesOwn_of_generate hwell htouches.located hlater hrewritten
  have hstill := FileTree.entryAt_eq_ok_iff.2 ⟨place, htouches.located, hdirectory⟩
  refine ⟨hholds, ?_⟩
  rw [holdsExactly_iff_isGenerated hstill (isPackage_of_render hearlier) hholds hagain,
    forall_fresh_iff hearlier hlater]

/-- Neither of two such runs is refused if the names of both packages can be looked up in the
directory. -/
theorem not_unwritten_twice (clean : Bool) (hempty : EmptyAt tree directory place)
    (hearlier : render earlier = .ok before) (hlater : render later = .ok package)
    (hlocated : ∀ file ∈ before ++ package,
      tree.locate (directory.child file.1) = .ok (place ++ [file.1])) :
    (∀ error, (generate tree directory clean earlier).result ≠
      .error (.unwritten directory error)) ∧
    ∀ error, (generate (generate tree directory clean earlier).tree directory true later).result ≠
      .error (.unwritten directory error) := by
  rw [List.forall_mem_append] at hlocated
  have hnone : ∀ name, tree.entry? (place ++ [name]) = none := fun name =>
    hempty.empty _ (List.prefix_append _ _) (by simp)
  have hwritten : ∀ error, (generate tree directory clean earlier).result ≠
      .error (.unwritten directory error) :=
    not_unwritten_of_free clean hempty.wellFormed hearlier hempty.located hempty.isDirectory
      hlocated.1 (by simp [hnone])
  refine ⟨hwritten, ?_⟩
  obtain ⟨hwell, hdirectory, htouches⟩ :=
    touchesOwn_of_generate hempty.wellFormed hempty.located hearlier hwritten
  have hholds := holdsExactly_of_empty
    (FileTree.entryAt_eq_ok_iff.2 ⟨place, hempty.located, hempty.isDirectory⟩) hempty.empty htouches
  have hkeeps : tree.KeepsDirectories (generate tree directory clean earlier).tree := by
    intro other hother
    have hforeign : ¬ Owned tree place clean before other := by
      rintro (⟨file, -, rfl⟩ | ⟨-, name, -, rfl⟩)
      all_goals
        rw [hnone] at hother
        cases hother
    rcases htouches.kept other hforeign with heq | ⟨-, hmade, -⟩
    · rw [heq, hother]
    · exact hmade
  refine not_unwritten_of_free true hwell hlater htouches.located hdirectory
    (fun file hfile => hkeeps.locate (hlocated.2 file hfile)) fun file hfile => ?_
  by_cases hrewritten : ∃ old ∈ before, place ++ [file.1] = place ++ [old.1]
  · obtain ⟨old, hold, heq⟩ := hrewritten
    rw [heq, hholds.files old hold]
    simp
  · rw [hholds.others _ (List.prefix_append _ _) (by simp) fun old hold heq =>
      hrewritten ⟨old, hold, heq⟩]
    simp

/-- What is rendered is recognised exactly if the marks of all modules are in reach. A run into
an empty directory leaves its files there, and a cleaning one for another project after it
leaves its own and nothing else exactly if the marks are in reach of those modules of the first
project that it does not write anew. -/
theorem regenerated_iff_inReach (hearlier : render earlier = .ok before) :
    ((∀ file ∈ before, isGenerated (.file (Text.encode file.2)) = true) ↔
      ∀ entry ∈ Lint.placedMachines earlier, MarkInReach entry) ∧
    ∀ {later package tree directory place clean first second}, EmptyAt tree directory place →
      render later = .ok package → generate tree directory clean earlier = first →
      generate first.tree directory true later = second →
      (∀ error, first.result ≠ .error (.unwritten directory error)) →
      (∀ error, second.result ≠ .error (.unwritten directory error)) →
      HoldsExactly first.tree place before ∧
        (HoldsExactly second.tree place package ↔
          ∀ entry ∈ Lint.placedMachines earlier,
            entry.2.moduleName ∉ moduleNames (Lint.placedMachines later) → MarkInReach entry) :=
  ⟨all_isGenerated_iff hearlier, fun hempty hlater hfirst hsecond =>
    holdsExactly_of_runs hempty hearlier hlater hfirst hsecond⟩

/-! ## Projects of one machine -/

/-- A machine of one state. -/
def offMachine (name : String) : Machine := ⟨name, [], [⟨"Off", none⟩], [], [], none⟩

/-- A project of one file with a machine of one state. -/
def oneState (file name : String) : List MachineFile := [⟨⟨"", [file]⟩, [offMachine name]⟩]

theorem placedMachines_oneState (file name : String) :
    Lint.placedMachines (oneState file name) = [(⟨"", [file]⟩, offMachine name)] := rfl

theorem exists_package_oneState (file : String) {name : String} (hname : Validation.Bindable name) :
    ∃ package, render (oneState file name) = .ok package ∧
      package.map (·.1) = [Naming.moduleName name ++ ".py", "__init__.py"] := by
  have hoff : Validation.Bindable "Off" ∧ "Off" ∉ Validation.generatedNames :=
    ⟨⟨by decide +kernel, by decide, by decide +kernel⟩, by decide⟩
  have hvalid : (offMachine name).validate = .ok () := by
    refine Machine.validate_eq_ok_iff.2 ⟨?_, rfl, rfl, rfl⟩
    refine Machine.nameDefects_eq_nil_iff.2 ⟨hname, List.forall_mem_singleton.2 hoff, ?_⟩
    exact fun name hname => absurd hname List.not_mem_nil
  refine ⟨filesOf [⟨offMachine name, file⟩], ?_, ?_⟩
  · simp [render, renderAll, placedMachines_oneState, renderFrom, renderOne, hvalid, Path.name]
  · simp [filesOf, Rendered.fileName, Rendered.moduleName, Machine.moduleName, Rendered.suffix,
      initFile, offMachine]

/-- A tree with an empty directory. -/
def emptyOut : FileTree := ⟨[(["out"], .directory)]⟩

theorem emptyAt_emptyOut : EmptyAt emptyOut ⟨"", ["out"]⟩ ["out"] := by
  refine ⟨⟨by decide, by decide⟩, ?_, by decide, ?_⟩
  · simp only [FileTree.locate, String.contains_char_eq]
    decide +kernel
  · rintro _ ⟨rest, rfl⟩ hne
    cases rest with
    | nil => exact absurd rfl hne
    | cons name rest => rfl

/-- A name of one letter, as often as wanted. -/
def letters (count : Nat) : String := String.ofList (List.replicate count 'm')

@[simp] theorem toList_letters (count : Nat) :
    (letters count).toList = List.replicate count 'm' := String.toList_ofList

theorem length_letters (count : Nat) : (letters count).length = count := by
  simp [letters]

@[simp] theorem utf8ByteSize_letters (count : Nat) : (letters count).utf8ByteSize = count := by
  induction count with
  | zero => rfl
  | succ count ih =>
    have hcons : letters (count + 1) = String.singleton 'm' ++ letters count := String.ofList_cons
    have hone : 'm'.utf8Size = 1 := rfl
    rw [hcons, String.utf8ByteSize_append, String.utf8ByteSize_singleton, ih, hone, Nat.add_comm]

/-- No reserved word has more than eight characters. -/
theorem isReserved_of_length {name : String} (hlength : 8 < name.length) :
    Naming.isReserved name = false := by
  have hshort : ∀ word ∈ Naming.reservedWords, word.length ≤ 8 := by decide
  rw [Naming.isReserved, Bool.eq_false_iff, ne_eq, List.contains_iff_mem]
  exact fun hmem => absurd (hshort _ hmem) (by omega)

theorem bindable_letters {count : Nat} (hcount : 8 < count) :
    Validation.Bindable (letters count) := by
  obtain ⟨more, rfl⟩ := Nat.exists_eq_add_of_lt hcount
  refine ⟨?_, isReserved_of_length (by rwa [length_letters]), ?_⟩
  · rw [Text.isIdentifier, toList_letters, List.replicate_succ, Text.isIdentifierText,
      List.all_replicate]
    simp [Text.isIdentifierStart, Text.isIdentifierContinue]
  · rw [Bool.eq_false_iff, ne_eq, String.startsWith_string_iff, toList_letters,
      List.replicate_succ]
    simp

theorem moduleName_letters {count : Nat} (hcount : 8 < count) :
    Naming.moduleName (letters count) = letters count := by
  have hsnake : ∀ afterUpper count,
      Naming.snakeChars afterUpper (List.replicate count 'm') = List.replicate count 'm' := by
    intro afterUpper count
    induction count generalizing afterUpper with
    | zero => rfl
    | succ count ih =>
      have hlower : Text.lowerForm 'm' = ['m'] ∧ Text.isUpper 'm' = false := by decide
      simp [List.replicate_succ, Naming.snakeChars, hlower, ih]
  have hname : Naming.snakeCase (letters count) = letters count := by
    rw [Naming.snakeCase, toList_letters, hsnake]
    rfl
  rw [Naming.moduleName, hname, isReserved_of_length (by rwa [length_letters])]
  rfl

/-- Names that are short enough can be looked up in the directory. -/
theorem locate_emptyOut {name : String} (hback : name ≠ "..") (hnul : '\x00' ∉ name.toList)
    (hsize : name.utf8ByteSize ≤ 255) :
    emptyOut.locate (Path.child ⟨"", ["out"]⟩ name) = .ok (["out"] ++ [name]) := by
  refine FileTree.locate_eq_ok_iff.2 ⟨?_, ?_, ?_⟩
  · simp [Path.child, hnul]
  · have htext : (Path.child ⟨"", ["out"]⟩ name).text = "out/" ++ name := by
      simp [Path.text, Path.child]
    have hfront : "out/".utf8ByteSize = 4 := rfl
    rw [htext, String.utf8ByteSize_append, hfront, FileTree.longestPath]
    omega
  · obtain ⟨-, -, henter⟩ := FileTree.locate_eq_ok_iff.1 emptyAt_emptyOut.located
    rw [Path.child, FileTree.enter_concat, henter]
    exact FileTree.next_eq_ok_iff.2
      ⟨emptyAt_emptyOut.isDirectory, hsize, by simp [Path.follow, hback]⟩

/-- A machine whose name is neither too short nor too long has a package whose files can be looked
up in the directory. -/
theorem exists_package_letters (file : String) {count : Nat} (hcount : 8 < count)
    (hshort : count ≤ 252) :
    ∃ package, render (oneState file (letters count)) = .ok package ∧ ∀ file ∈ package,
      emptyOut.locate (Path.child ⟨"", ["out"]⟩ file.1) = .ok (["out"] ++ [file.1]) := by
  obtain ⟨package, hrender, hnames⟩ :=
    exists_package_oneState file (bindable_letters hcount)
  have hsuffix : ".py".utf8ByteSize = 3 := rfl
  refine ⟨package, hrender, fun file hfile => ?_⟩
  have hname : file.1 ∈ package.map (·.1) := List.mem_map_of_mem hfile
  rw [hnames, moduleName_letters hcount] at hname
  rcases List.mem_pair.1 hname with hname | hname
  · rw [hname]
    refine locate_emptyOut (fun heq => ?_) (by simp) (by simp [hsuffix]; omega)
    have hlength := congrArg String.utf8ByteSize heq
    have hback : "..".utf8ByteSize = 2 := rfl
    rw [String.utf8ByteSize_append, hback, hsuffix] at hlength
    omega
  · rw [hname]
    exact locate_emptyOut (by decide) (by decide) (by decide)

/-- The marks of short names are in reach, so nothing is left behind when the machine is given
another name. -/
theorem short_names_replaced : ∃ before package first second,
    render (oneState "a.sm" (letters 9)) = .ok before ∧
    EmptyAt emptyOut ⟨"", ["out"]⟩ ["out"] ∧
    render (oneState "a.sm" (letters 10)) = .ok package ∧
    generate emptyOut ⟨"", ["out"]⟩ false (oneState "a.sm" (letters 9)) = first ∧
    generate first.tree ⟨"", ["out"]⟩ true (oneState "a.sm" (letters 10)) = second ∧
    (∀ error, first.result ≠ .error (.unwritten ⟨"", ["out"]⟩ error)) ∧
    (∀ error, second.result ≠ .error (.unwritten ⟨"", ["out"]⟩ error)) ∧
    (∀ file ∈ before, isGenerated (.file (Text.encode file.2)) = true) ∧
    HoldsExactly first.tree ["out"] before ∧ HoldsExactly second.tree ["out"] package := by
  obtain ⟨before, hearlier, hbefore⟩ :=
    exists_package_letters "a.sm" (show 8 < 9 by decide) (by decide)
  obtain ⟨package, hlater, hpackage⟩ :=
    exists_package_letters "a.sm" (show 8 < 10 by decide) (by decide)
  obtain ⟨hwritten, hrewritten⟩ := not_unwritten_twice false emptyAt_emptyOut hearlier hlater
    (List.forall_mem_append.2 ⟨hbefore, hpackage⟩)
  have hreach : ∀ entry ∈ Lint.placedMachines (oneState "a.sm" (letters 9)), MarkInReach entry := by
    rw [placedMachines_oneState]
    refine List.forall_mem_singleton.2 ((markInReach_iff_length ?_ ?_ ?_).2 ?_)
    · exact bindable_letters (by decide)
    · decide
    · exact fun hsubtext => absurd hsubtext.length_le (by decide)
    · decide
  obtain ⟨hrecognised, hruns⟩ := regenerated_iff_inReach hearlier
  obtain ⟨hfirst, hsecond⟩ := hruns emptyAt_emptyOut hlater rfl rfl hwritten hrewritten
  exact ⟨before, package, _, _, hearlier, emptyAt_emptyOut, hlater, rfl, rfl, hwritten, hrewritten,
    hrecognised.2 hreach, hfirst, hsecond.2 fun entry hentry _ => hreach entry hentry⟩

/-- The mark is out of reach below long names. -/
theorem not_markInReach_letters {count : Nat} (hcount : 217 < count) :
    ¬ MarkInReach (⟨"", [letters count ++ ".sm"]⟩, offMachine (letters count)) := by
  have hfile : (letters count ++ ".sm").length = count + 3 := by
    rw [String.length_append, length_letters]
    rfl
  have hsome : letters count ++ ".sm" ≠ "" := by simp
  have hreturn : '\r' ∉ (letters count ++ ".sm").toList := by simp
  have hdash : '-' ∉ (letters count ++ ".sm").toList := by simp
  have hlong : ¬ (letters count).length +
      (if letters count ++ ".sm" = "" then 0 else (letters count ++ ".sm").length + 9) ≤ 447 := by
    rw [if_neg hsome, length_letters, hfile]
    omega
  refine fun hreach => hlong ((markInReach_iff_length ?_ ?_ ?_).1 hreach)
  · exact bindable_letters (by omega)
  · exact hreturn
  · exact fun hsubtext => hdash (hsubtext.subset (by decide))

/-- The mark is out of reach below long names, so the module is not recognised, and it is left
behind when the machine is given another name. -/
theorem long_names_left_behind : ∃ before package first second,
    render (oneState (letters 220 ++ ".sm") (letters 220)) = .ok before ∧
    EmptyAt emptyOut ⟨"", ["out"]⟩ ["out"] ∧
    render (oneState "b.sm" (letters 9)) = .ok package ∧
    generate emptyOut ⟨"", ["out"]⟩ false (oneState (letters 220 ++ ".sm") (letters 220)) = first ∧
    generate first.tree ⟨"", ["out"]⟩ true (oneState "b.sm" (letters 9)) = second ∧
    (∀ error, first.result ≠ .error (.unwritten ⟨"", ["out"]⟩ error)) ∧
    (∀ error, second.result ≠ .error (.unwritten ⟨"", ["out"]⟩ error)) ∧
    ¬ (∀ file ∈ before, isGenerated (.file (Text.encode file.2)) = true) ∧
    ¬ HoldsExactly second.tree ["out"] package := by
  obtain ⟨before, hearlier, hbefore⟩ :=
    exists_package_letters (letters 220 ++ ".sm") (show 8 < 220 by decide) (by decide)
  obtain ⟨package, hlater, hpackage⟩ :=
    exists_package_letters "b.sm" (show 8 < 9 by decide) (by decide)
  obtain ⟨hwritten, hrewritten⟩ := not_unwritten_twice false emptyAt_emptyOut hearlier hlater
    (List.forall_mem_append.2 ⟨hbefore, hpackage⟩)
  have hfar := not_markInReach_letters (show 217 < 220 by decide)
  have hfresh : Naming.moduleName (letters 220) ∉
      moduleNames (Lint.placedMachines (oneState "b.sm" (letters 9))) := by
    intro hmem
    rw [placedMachines_oneState, moduleNames, List.map_singleton, List.mem_singleton,
      Machine.moduleName, offMachine, moduleName_letters (by decide),
      moduleName_letters (by decide)] at hmem
    have hsize := congrArg String.utf8ByteSize hmem
    rw [utf8ByteSize_letters, utf8ByteSize_letters] at hsize
    exact absurd hsize (by decide)
  obtain ⟨-, hsecond⟩ :=
    holdsExactly_of_runs emptyAt_emptyOut hearlier hlater rfl rfl hwritten hrewritten
  rw [placedMachines_oneState, List.forall_mem_singleton] at hsecond
  have hrecognised := all_isGenerated_iff hearlier
  rw [placedMachines_oneState, List.forall_mem_singleton] at hrecognised
  exact ⟨before, package, _, _, hearlier, emptyAt_emptyOut, hlater, rfl, rfl, hwritten, hrewritten,
    fun hall => hfar (hrecognised.1 hall), fun hholds => hfar (hsecond.1 hholds hfresh)⟩

end Package

end FsmCompiler
