/-
# What a module defines

The text of a module defines, behind its imports, the name of the machine, one class for each
state and event, and what every module has. Where the names of a machine have no defect, no
two definitions have one name as it is written, none has the name of an import, and the module
offers exactly what it defines. The language, though, takes two names with one compatible form
for one: a later definition takes the place of an earlier one unless the names of the labels
stay apart in that form too, and here it is said exactly when they do.
-/

import FsmCompiler.Module.Text
import FsmCompiler.Proofs.ExactTables
import FsmCompiler.Proofs.NameCapture
import FsmCompiler.Proofs.Packaging

namespace FsmCompiler

open Text (compatible)
open Validation (Bindable generatedNames)

/-- A name that can be bound is made of word characters. -/
theorem Validation.Bindable.not_mem {name : String} {c : Char} (hname : Bindable name)
    (hc : ¬ Text.WordLike c) : c ∉ name.toList :=
  fun hmem => hc (Text.wordLike_of_isIdentifier hname.identifier hmem)

namespace ModuleText

/-! ## Reading definitions off a text -/

/-- Whether a row imports something. -/
def isImport (row : String) : Bool := row.startsWith "from "

/-- The rows behind the last import. -/
def behindImports (rows : List String) : List String :=
  (rows.reverse.takeWhile fun row => !isImport row).reverse

/-- The name that a row at the margin binds: that of a class or a function, or one that is given
a value. -/
def boundName? (row : String) : Option String :=
  let word := row.toList.takeWhile (· ≠ ' ')
  let rest := row.toList.dropWhile (· ≠ ' ')
  if word = "class".toList ∨ word = "def".toList then
    some (String.ofList ((rest.drop 1).takeWhile (· ≠ '(')))
  else if word ≠ [] ∧ " = ".toList <+: rest then some (String.ofList word)
  else none

/-- The name of the list of what a module offers. -/
def offerName : String := "__all__"

/-- The names that are bound behind the imports, in order, apart from the list of what the module
offers. -/
def definedNames (rows : List String) : List String :=
  ((behindImports rows).filterMap boundName?).filter (· ≠ offerName)

/-- The rows of the list of what a module offers. -/
def offeredRows (rows : List String) : List String :=
  (((behindImports rows).dropWhile (· ≠ "__all__ = [")).drop 1).takeWhile (· ≠ "]")

/-- The name under which a row imports something. -/
def importedName? (row : String) : Option String :=
  match (Text.splitAt ' ' row.toList).reverse with
  | name :: ['a', 's'] :: _ => some (String.ofList name)
  | _ => none

/-- The names under which every module imports something. -/
def importedNames : List String := (Text.lines imports).filterMap importedName?

theorem lines_imports : Text.lines imports =
    ["from __future__ import annotations", "", "from enum import Enum as _Enum", "",
      "from smc.runtime import Event as _Event",
      "from smc.runtime import InitialState as _InitialState",
      "from smc.runtime import Machine as _Machine",
      "from smc.runtime import NoneEvent as _NoneEvent",
      "from smc.runtime import State as _State",
      "from smc.runtime import UnknownVariant as _UnknownVariant",
      "from smc.runtime import Variant as _Variant"] :=
  Text.lines_unlines (by simp) (by simp)

theorem importedNames_eq : importedNames =
    ["_Enum", "_Event", "_InitialState", "_Machine", "_NoneEvent", "_State", "_UnknownVariant",
      "_Variant"] := by
  rw [importedNames, lines_imports]
  decide +kernel

/-! ## Rows behind the imports -/

/-- The rows between the imports and the list of what a module offers. -/
def definitions (code : CompiledModule) : List String :=
  ["", "", s!"{CompiledModule.machineNameConstant} = \"{code.machine}\""] ++
    code.labels.flatMap labelClass ++ collections code ++ tagClass code ++ machineClass code ++
    dispatch code

theorem rows_eq (code : CompiledModule) :
    rows code = ([longQuote] ++ description code.machine code.source ++ [longQuote, ""]) ++
      imports :: (definitions code ++ exportList code) := by
  simp [rows, header, definitions]

/-- Whether a row stands at the margin: it is neither empty nor indented. -/
def isMargin (row : String) : Bool := row.toList.head?.any (· ≠ ' ')

@[simp] theorem isMargin_empty : isMargin "" = false := rfl

@[simp] theorem isMargin_body (row : String) : isMargin (body row) = false := by
  simp [isMargin, body, indent]

theorem boundName?_of_not_isMargin {row : String} (hrow : isMargin row = false) :
    boundName? row = none := by
  unfold isMargin at hrow
  cases hchars : row.toList with
  | nil => simp [boundName?, hchars]
  | cons c rest => simp_all [boundName?]

theorem isMargin_of_isImport {row : String} (hrow : isImport row = true) :
    isMargin row = true ∧ row.toList.head? = some 'f' := by
  rw [isImport, String.startsWith_string_iff] at hrow
  obtain ⟨rest, hrest⟩ := hrow
  simp [isMargin, ← hrest]

/-- Only rows at the margin bind names. -/
theorem filterMap_boundName?_eq (rows : List String) :
    rows.filterMap boundName? = (rows.filter isMargin).filterMap boundName? := by
  induction rows with
  | nil => rfl
  | cons row rest ih =>
    cases hrow : isMargin row with
    | false => simp [hrow, boundName?_of_not_isMargin hrow, ih]
    | true => simp [hrow, List.filterMap_cons, ih]

/-- The row that opens the class of a label. -/
def classRow (label : LabelDef) : String := s!"class {label.name}({baseName label.base}):"

/-- The row that opens the dispatch function. -/
def dispatchRow (code : CompiledModule) : String :=
  s!"def eval_machine({dispatchParams code}) -> _Variant:"

/-- The rows at the margin between the imports and the list of what a module offers. -/
def marginRows (code : CompiledModule) : List String :=
  s!"{CompiledModule.machineNameConstant} = \"{code.machine}\"" :: code.labels.map classRow ++
    [s!"STATES = {tuple code.states}", s!"NON_TERMINAL_STATES = {tuple code.nonTerminalStates}",
      s!"TERMINAL_STATES = {tuple code.terminalStates}", s!"EVENTS = {tuple code.events}",
      "class VariantTag(str, _Enum):", "class Machine(_Machine):", dispatchRow code]

theorem filter_isMargin_bodies {rows : List String} (hrows : ∀ row ∈ rows, isMargin row = false) :
    rows.filter isMargin = [] :=
  List.filter_eq_nil_iff.2 fun row hrow => by simp [hrows row hrow]

@[simp] theorem filter_isMargin_map_body (row : α → String) (items : List α) :
    (items.map fun a => body (row a)).filter isMargin = [] :=
  filter_isMargin_bodies (List.forall_mem_map.2 fun _ _ => isMargin_body _)

theorem filter_isMargin_labels (labels : List LabelDef) :
    (labels.flatMap labelClass).filter isMargin = labels.map classRow := by
  have hclass : ∀ label : LabelDef, isMargin (classRow label) = true := by
    intro label
    simp [isMargin, classRow, toString]
  have hlabel : ∀ label, (labelClass label).filter isMargin = [classRow label] := by
    intro label
    rw [labelClass, ← classRow]
    simp [hclass]
  induction labels with
  | nil => rfl
  | cons label rest ih => simp [hlabel, ih]

theorem not_isMargin_branch (guardArgs actionArgs : String) (branches : List BranchDef) :
    ∀ row ∈ branches.flatMap (branch guardArgs actionArgs), isMargin row = false := by
  intro row hrow
  obtain ⟨def_, -, hrow⟩ := List.mem_flatMap.1 hrow
  simp only [branch, List.mem_append, List.mem_flatMap, List.mem_cons, List.not_mem_nil,
    or_false] at hrow
  rcases hrow with (rfl | ⟨event, -, rfl | rfl | rfl⟩) | rfl <;> rw [isMargin_body]

theorem filter_isMargin_dispatch (code : CompiledModule) :
    (dispatch code).filter isMargin = [dispatchRow code] := by
  have hrow : isMargin (dispatchRow code) = true := by
    unfold dispatchRow
    generalize dispatchParams code = params
    simp [isMargin, toString]
  have hbranches := filter_isMargin_bodies
    (not_isMargin_branch (args code.guardResources) (args code.actionResources) code.branches)
  unfold dispatchRow at hrow ⊢
  simp only [dispatch, List.filter_append, hbranches]
  simp [hrow]

theorem filter_isMargin_definitions (code : CompiledModule) :
    (definitions code).filter isMargin = marginRows code := by
  have hconstant : isMargin s!"{CompiledModule.machineNameConstant} = \"{code.machine}\"" =
      true := by
    simp [isMargin, CompiledModule.machineNameConstant, toString]
  have hcollections : (collections code).filter isMargin =
      [s!"STATES = {tuple code.states}", s!"NON_TERMINAL_STATES = {tuple code.nonTerminalStates}",
        s!"TERMINAL_STATES = {tuple code.terminalStates}", s!"EVENTS = {tuple code.events}"] := by
    simp [collections, isMargin, toString]
  have htags : (tagClass code).filter isMargin = ["class VariantTag(str, _Enum):"] := by
    have hopening : isMargin "class VariantTag(str, _Enum):" = true := by decide
    simp [tagClass, hopening]
  have hmachine : (machineClass code).filter isMargin = ["class Machine(_Machine):"] := by
    have hopening : isMargin "class Machine(_Machine):" = true := by decide
    simp only [machineClass, List.filter_append, filter_isMargin_map_body]
    simp [hopening]
  simp only [definitions, List.filter_append, filter_isMargin_labels, hcollections, htags,
    hmachine, filter_isMargin_dispatch]
  simp [marginRows, hconstant]

theorem takeWhile_append_of_not_mem {stop : Char} {name : List Char} (rest : List Char)
    (hname : stop ∉ name) :
    (name ++ stop :: rest).takeWhile (· ≠ stop) = name ∧
      (name ++ stop :: rest).dropWhile (· ≠ stop) = stop :: rest := by
  have hall : ∀ c ∈ name, decide (c ≠ stop) = true := by
    intro c hc
    exact decide_eq_true fun heq => hname (heq ▸ hc)
  rw [List.takeWhile_append_of_pos hall, List.dropWhile_append_of_pos hall]
  simp

/-- A row that opens a class or a function binds its name. -/
theorem boundName?_opening {row : String} (keyword name rest : String)
    (hrow : row = keyword ++ " " ++ name ++ "(" ++ rest)
    (hkeyword : keyword = "class" ∨ keyword = "def") (hname : '(' ∉ name.toList) :
    boundName? row = some name := by
  have hchars : row.toList = keyword.toList ++ ' ' :: (name.toList ++ '(' :: rest.toList) := by
    simp [hrow]
  have hblank : ' ' ∉ keyword.toList := by rcases hkeyword with rfl | rfl <;> decide
  obtain ⟨hword, hrest⟩ := takeWhile_append_of_not_mem
    (name.toList ++ '(' :: rest.toList) hblank
  have hopening : keyword.toList = "class".toList ∨ keyword.toList = "def".toList :=
    hkeyword.imp (congrArg String.toList) (congrArg String.toList)
  rw [boundName?, hchars, hword, hrest, if_pos hopening, List.drop_one, List.tail_cons,
    (takeWhile_append_of_not_mem _ hname).1, String.ofList_toList]

/-- A row that gives a name a value binds it. -/
theorem boundName?_value {row : String} (name value : String)
    (hrow : row = name ++ " = " ++ value) (hblank : ' ' ∉ name.toList)
    (hname : name ∉ ["", "class", "def"]) : boundName? row = some name := by
  have hchars : row.toList = name.toList ++ ' ' :: ('=' :: ' ' :: value.toList) := by
    simp [hrow]
  obtain ⟨hword, hrest⟩ := takeWhile_append_of_not_mem ('=' :: ' ' :: value.toList) hblank
  simp only [List.mem_cons, List.not_mem_nil, or_false, not_or] at hname
  obtain ⟨hempty, hclass, hdef⟩ := hname
  have hopening : ¬ (name.toList = "class".toList ∨ name.toList = "def".toList) := by
    rw [String.toList_inj, String.toList_inj]
    exact not_or.2 ⟨hclass, hdef⟩
  have hvalue : name.toList ≠ [] ∧ " = ".toList <+: ' ' :: '=' :: ' ' :: value.toList :=
    ⟨fun heq => hempty (String.toList_eq_nil_iff.1 heq), ⟨value.toList, rfl⟩⟩
  rw [boundName?, hchars, hword, hrest, if_neg hopening, if_pos hvalue, String.ofList_toList]

/-! ## What is read off a module -/

/-- The names that a module defines, in order. -/
def bindings (code : CompiledModule) : List String :=
  CompiledModule.machineNameConstant :: code.labels.map (·.name) ++ CompiledModule.fixedNames

theorem boundName?_classRow {label : LabelDef} (hname : '(' ∉ label.name.toList) :
    boundName? (classRow label) = some label.name := by
  refine boundName?_opening "class" label.name (baseName label.base ++ "):") ?_ (.inl rfl) hname
  apply String.toList_injective
  simp [classRow, toString]

theorem boundName?_dispatchRow (code : CompiledModule) :
    boundName? (dispatchRow code) = some "eval_machine" := by
  refine boundName?_opening "def" "eval_machine" (dispatchParams code ++ ") -> _Variant:") ?_
    (.inr rfl) (by decide)
  unfold dispatchRow
  apply String.toList_injective
  simp [toString]

theorem filterMap_marginRows {code : CompiledModule}
    (hlabels : ∀ label ∈ code.labels, '(' ∉ label.name.toList) :
    (marginRows code).filterMap boundName? = bindings code := by
  have hclasses : (code.labels.map classRow).filterMap boundName? = code.labels.map (·.name) := by
    rw [List.filterMap_map, ← List.filterMap_eq_map]
    exact List.filterMap_congr fun label hlabel => boundName?_classRow (hlabels label hlabel)
  have hconstant : boundName? s!"{CompiledModule.machineNameConstant} = \"{code.machine}\"" =
      some CompiledModule.machineNameConstant :=
    boundName?_value _ s!"\"{code.machine}\""
      (String.toList_injective (by simp [toString])) (by decide) (by decide)
  have hstates : boundName? s!"STATES = {tuple code.states}" = some "STATES" :=
    boundName?_value _ (tuple code.states) (String.toList_injective (by simp [toString]))
      (by decide) (by decide)
  have hnonTerminal : boundName? s!"NON_TERMINAL_STATES = {tuple code.nonTerminalStates}" =
      some "NON_TERMINAL_STATES" :=
    boundName?_value _ (tuple code.nonTerminalStates)
      (String.toList_injective (by simp [toString])) (by decide) (by decide)
  have hterminal : boundName? s!"TERMINAL_STATES = {tuple code.terminalStates}" =
      some "TERMINAL_STATES" :=
    boundName?_value _ (tuple code.terminalStates)
      (String.toList_injective (by simp [toString])) (by decide) (by decide)
  have hevents : boundName? s!"EVENTS = {tuple code.events}" = some "EVENTS" :=
    boundName?_value _ (tuple code.events) (String.toList_injective (by simp [toString]))
      (by decide) (by decide)
  have htags : boundName? "class VariantTag(str, _Enum):" = some "VariantTag" := by decide
  have hmachine : boundName? "class Machine(_Machine):" = some "Machine" := by decide
  rw [marginRows, List.filterMap_append, List.filterMap_cons, hconstant, hclasses]
  simp only [List.filterMap_cons, hstates, hnonTerminal, hterminal, hevents, htags, hmachine,
    boundName?_dispatchRow, List.filterMap_nil]
  rfl

theorem filterMap_definitions {code : CompiledModule}
    (hlabels : ∀ label ∈ code.labels, '(' ∉ label.name.toList) :
    (definitions code).filterMap boundName? = bindings code := by
  rw [filterMap_boundName?_eq, filter_isMargin_definitions, filterMap_marginRows hlabels]

theorem not_isMargin_quotedNames (names : List String) :
    ∀ row ∈ quotedNames names, isMargin row = false :=
  List.forall_mem_map.2 fun _ _ => isMargin_body _

theorem filter_isMargin_exportList (code : CompiledModule) :
    (exportList code).filter isMargin = ["__all__ = [", "]"] := by
  have hopening : isMargin "__all__ = [" = true := by decide
  have hclosing : isMargin "]" = true := by decide
  simp [exportList, filter_isMargin_bodies (not_isMargin_quotedNames _), hopening, hclosing]

/-- Nothing is imported behind the imports. -/
theorem not_isImport_behind (code : CompiledModule) :
    ∀ row ∈ definitions code ++ exportList code, isImport row = false := by
  intro row hrow
  rw [Bool.eq_false_iff]
  intro himport
  obtain ⟨hmargin, hhead⟩ := isMargin_of_isImport himport
  -- What is imported begins at the margin, with a letter that no row there begins with.
  have hmem : row ∈ marginRows code ++ ["__all__ = [", "]"] := by
    rw [← filter_isMargin_definitions, ← filter_isMargin_exportList, ← List.filter_append]
    exact List.mem_filter.2 ⟨hrow, hmargin⟩
  have hother : ∀ other ∈ marginRows code ++ ["__all__ = [", "]"],
      other.toList.head? ≠ some 'f' := by
    unfold marginRows dispatchRow
    generalize dispatchParams code = params
    simp only [List.cons_append, List.forall_mem_append, List.forall_mem_cons, List.forall_mem_map]
    simp [classRow, toString, CompiledModule.machineNameConstant]
  exact hother row hmem hhead

theorem behindImports_append {front rest : List String} {row : String}
    (himport : isImport row = true) (hrest : ∀ other ∈ rest, isImport other = false) :
    behindImports (front ++ row :: rest) = rest := by
  have hreverse : ∀ other ∈ rest.reverse, (!isImport other) = true := by
    simpa using hrest
  rw [behindImports, List.reverse_append, List.reverse_cons, List.append_assoc,
    List.takeWhile_append_of_pos hreverse]
  simp [himport]

variable {code : CompiledModule} {lines blanks : List String}

theorem offerName_not_mem_bindings (hlabels : ∀ label ∈ code.labels, Bindable label.name) :
    offerName ∉ bindings code := by
  have hlabel : offerName ∉ code.labels.map (·.name) := by
    intro hmem
    obtain ⟨label, hlabel, hname⟩ := List.mem_map.1 hmem
    have hexported := (hlabels label hlabel).exported
    rw [hname] at hexported
    simp [offerName] at hexported
  have hfixed : offerName ∉ CompiledModule.machineNameConstant :: CompiledModule.fixedNames := by
    decide
  simp only [List.mem_cons, not_or] at hfixed
  simp [bindings, hlabel, hfixed]

/-- The definitions are read off, also if empty lines follow. -/
theorem definedNames_of_behindImports (blanks : List String)
    (hlabels : ∀ label ∈ code.labels, Bindable label.name)
    (hbehind : behindImports lines = definitions code ++ exportList code ++ blanks)
    (hblanks : ∀ line ∈ blanks, line = "") :
    definedNames lines = bindings code ∧ offeredRows lines = quotedNames code.exports := by
  have hnames : (definitions code).filterMap boundName? = bindings code :=
    filterMap_definitions fun label hlabel => (hlabels label hlabel).not_mem (by decide)
  have hoffer : offerName ∉ bindings code := offerName_not_mem_bindings hlabels
  constructor
  · have hexport : (exportList code).filterMap boundName? = [offerName] := by
      rw [filterMap_boundName?_eq, filter_isMargin_exportList]
      decide
    have hblank : blanks.filterMap boundName? = [] :=
      List.filterMap_eq_nil_iff.2 fun line hline => by rw [hblanks line hline]; rfl
    have hkept : (bindings code).filter (· ≠ offerName) = bindings code :=
      List.filter_eq_self.2 fun name hname => decide_eq_true fun heq => hoffer (heq ▸ hname)
    rw [definedNames, hbehind, List.filterMap_append, List.filterMap_append, hnames, hexport,
      hblank, List.append_nil, List.filter_append, hkept]
    simp
  · have hbefore : ∀ row ∈ definitions code ++ ["", ""], row ≠ "__all__ = [" := by
      rintro row hrow rfl
      have hmem : "__all__ = [" ∈ definitions code := by simpa using hrow
      refine hoffer (hnames ▸ List.mem_filterMap.2 ⟨_, hmem, ?_⟩)
      decide
    -- The list begins at the first row that binds its name, for no definition has that name.
    have hsplit : definitions code ++ exportList code ++ blanks =
        (definitions code ++ ["", ""]) ++
          "__all__ = [" :: (quotedNames code.exports ++ "]" :: blanks) := by
      simp [exportList]
    have hquoted : ∀ row ∈ quotedNames code.exports, decide (row ≠ "]") = true := by
      intro row hrow
      refine decide_eq_true ?_
      rintro rfl
      exact absurd (not_isMargin_quotedNames _ _ hrow) (by decide)
    rw [offeredRows, hbehind, hsplit, List.dropWhile_append_of_pos (by simpa using hbefore),
      List.dropWhile_cons_of_neg (by simp), List.drop_one, List.tail_cons,
      List.takeWhile_append_of_pos hquoted]
    simp

theorem isImport_imports : isImport imports = true := by
  rw [isImport, String.startsWith_string_iff, imports, Text.unlines_cons _ (by simp)]
  simp

theorem read_rows (hlabels : ∀ label ∈ code.labels, Bindable label.name) :
    definedNames (rows code) = bindings code ∧
      offeredRows (rows code) = quotedNames code.exports := by
  refine definedNames_of_behindImports [] hlabels ?_ (by simp)
  rw [rows_eq, behindImports_append isImport_imports (not_isImport_behind code), List.append_nil]

/-- Where no row behind the imports holds a line feed, the definitions are read off the lines of
the text. -/
theorem read_lines (hlabels : ∀ label ∈ code.labels, Bindable label.name)
    (hrows : ∀ row ∈ definitions code ++ exportList code, '\n' ∉ row.toList) :
    definedNames (Text.lines (ofModule code)) = bindings code ∧
      offeredRows (Text.lines (ofModule code)) = quotedNames code.exports := by
  refine definedNames_of_behindImports [""] hlabels ?_ (by simp)
  have hjoined : ofModule code = Text.unlines (rows code ++ [""]) := by
    rw [ofModule, Text.unlines_append (by simp [rows_eq]) (by simp), Text.unlines_singleton,
      String.append_empty]
  have hlast : Text.lines imports =
      (Text.lines imports).dropLast ++ ["from smc.runtime import Variant as _Variant"] := by
    rw [lines_imports]
    rfl
  have hbehind : ∀ row ∈ definitions code ++ exportList code ++ [""], isImport row = false := by
    refine List.forall_mem_append.2 ⟨not_isImport_behind code, ?_⟩
    simp [isImport]
  -- The source may hold line feeds, so nothing is said of the lines above the imports.
  obtain ⟨above, hlines⟩ : ∃ above, Text.lines (ofModule code) =
      above ++ "from smc.runtime import Variant as _Variant" ::
        (definitions code ++ exportList code ++ [""]) := by
    have hblank : [""].flatMap Text.lines = [""] := rfl
    let top := [longQuote] ++ description code.machine code.source ++ [longQuote, ""]
    refine ⟨top.flatMap Text.lines ++ (Text.lines imports).dropLast, ?_⟩
    rw [hjoined, Text.lines_unlines_eq_flatMap (by simp), rows_eq, List.flatMap_append,
      List.flatMap_append, List.flatMap_cons, Text.flatMap_lines hrows, hblank, hlast]
    simp [top]
  rw [hlines, behindImports_append (by simp [isImport]) hbehind]

/-! ## Rows on one line -/

/-- No name or type that is written in a module goes over a line end. -/
structure OneLine (code : CompiledModule) : Prop where
  machine : '\n' ∉ code.machine.toList
  labels : ∀ label ∈ code.labels, '\n' ∉ label.name.toList
  tuples : ∀ names ∈ [code.states, code.nonTerminalStates, code.terminalStates, code.events,
    code.initialStates], ∀ name ∈ names, '\n' ∉ name.toList
  tags : ∀ tag ∈ code.tags, '\n' ∉ tag.toList
  transitions : ∀ rule ∈ code.transitions, ∀ name ∈ [rule.1, rule.2.1, rule.2.2],
    '\n' ∉ name.toList
  variantTags : ∀ entry ∈ code.variantTags, ∀ name ∈ entry.1 :: entry.2.2 :: entry.2.1.toList,
    '\n' ∉ name.toList
  branches : ∀ def_ ∈ code.branches, ∀ name ∈ def_.tag :: def_.events, '\n' ∉ name.toList
  resources : ∀ r ∈ code.guardResources ++ code.actionResources,
    '\n' ∉ r.name.toList ∧ '\n' ∉ r.type.toList

theorem newline_not_mem_tuple {names : List String} (hnames : ∀ name ∈ names, '\n' ∉ name.toList) :
    '\n' ∉ (tuple names).toList := by
  unfold tuple
  split
  · simpa [toString] using hnames
  · simpa [toString] using Text.newline_not_mem_commaList hnames

theorem newline_not_mem_quotedNames {names : List String}
    (hnames : ∀ name ∈ names, '\n' ∉ name.toList) :
    ∀ row ∈ quotedNames names, '\n' ∉ row.toList := by
  refine List.forall_mem_map.2 fun name hname => ?_
  simpa [body, indent, toString] using hnames name hname

namespace OneLine

theorem params (hline : OneLine code) : '\n' ∉ (dispatchParams code).toList := by
  have hparams : ∀ resources, (∀ r ∈ resources, r ∈ code.guardResources ++ code.actionResources) →
      '\n' ∉ (ModuleText.params resources).toList := by
    intro resources hmem
    refine Text.newline_not_mem_commaList (List.forall_mem_map.2 fun r hr => ?_)
    simpa [toString] using hline.resources r (hmem r hr)
  have hguard := hparams code.guardResources fun r hr => List.mem_append_left _ hr
  have haction := hparams code.actionResources fun r hr => List.mem_append_right _ hr
  refine Text.newline_not_mem_commaList ?_
  simp only [List.cons_append, List.forall_mem_cons, List.forall_mem_append]
  refine ⟨by simp [variantParam, toString], ?_, ?_⟩
  · split
    · simp
    · simpa using hguard
  · split
    · simp
    · simpa using haction

theorem args (hline : OneLine code) :
    '\n' ∉ (ModuleText.args code.guardResources).toList ∧
      '\n' ∉ (ModuleText.args code.actionResources).toList := by
  constructor
  · refine Text.newline_not_mem_commaList (List.forall_mem_map.2 fun r hr => ?_)
    exact (hline.resources r (List.mem_append_left _ hr)).1
  · refine Text.newline_not_mem_commaList (List.forall_mem_map.2 fun r hr => ?_)
    exact (hline.resources r (List.mem_append_right _ hr)).1

theorem labelClasses (hline : OneLine code) :
    ∀ row ∈ code.labels.flatMap labelClass, '\n' ∉ row.toList := by
  refine List.forall_mem_flatMap.2 fun label hlabel => ?_
  have hname := hline.labels label hlabel
  have hbase : '\n' ∉ (baseName label.base).toList := by
    cases label.base <;> decide
  simp [labelClass, body, indent, toString, hname, hbase]

theorem collections (hline : OneLine code) :
    ∀ row ∈ ModuleText.collections code, '\n' ∉ row.toList := by
  have hstates := newline_not_mem_tuple (hline.tuples code.states (by simp))
  have hnonTerminal := newline_not_mem_tuple (hline.tuples code.nonTerminalStates (by simp))
  have hterminal := newline_not_mem_tuple (hline.tuples code.terminalStates (by simp))
  have hevents := newline_not_mem_tuple (hline.tuples code.events (by simp))
  simp [ModuleText.collections, toString, hstates, hnonTerminal, hterminal, hevents]

theorem tagClass (hline : OneLine code) :
    ∀ row ∈ ModuleText.tagClass code, '\n' ∉ row.toList := by
  have hmachine := hline.machine
  have htags := hline.tags
  unfold ModuleText.tagClass
  refine List.forall_mem_append.2 ⟨?_, List.forall_mem_map.2 fun tag htag => ?_⟩
  · simp [body, indent, toString, hmachine]
  · simp [body, indent, toString, htags tag htag]

theorem machineClass (hline : OneLine code) :
    ∀ row ∈ ModuleText.machineClass code, '\n' ∉ row.toList := by
  have hmachine := hline.machine
  have hinitial := newline_not_mem_tuple (hline.tuples code.initialStates (by simp))
  unfold ModuleText.machineClass
  simp only [List.forall_mem_append, List.forall_mem_map]
  refine ⟨⟨⟨⟨?_, fun rule hrule => ?_⟩, ?_⟩, fun entry hentry => ?_⟩, ?_⟩
  · simp [body, indent, toString, hmachine, hinitial]
  · have hnames := hline.transitions rule hrule
    simp at hnames
    simp [body, indent, toString, hnames]
  · simp [body, indent]
  · have hnames := hline.variantTags entry hentry
    obtain ⟨state, event, tag⟩ := entry
    cases event <;> simp_all [body, indent, toString, tagRow, noneEvent]
  · simp [body, indent]

theorem dispatch (hline : OneLine code) :
    ∀ row ∈ ModuleText.dispatch code, '\n' ∉ row.toList := by
  have hparams := hline.params
  obtain ⟨hguard, haction⟩ := hline.args
  unfold ModuleText.dispatch
  simp only [List.forall_mem_append]
  refine ⟨⟨?_, ?_⟩, ?_⟩
  · generalize dispatchParams code = params at hparams ⊢
    simp [body, indent, toString, longQuote, hparams]
  · refine List.forall_mem_flatMap.2 fun def_ hdef => ?_
    obtain ⟨htag, hevents⟩ := List.forall_mem_cons.1 (hline.branches def_ hdef)
    unfold branch
    simp only [List.forall_mem_append, List.forall_mem_flatMap]
    refine ⟨⟨?_, fun event hevent => ?_⟩, ?_⟩
    · simp [body, indent, toString, htag]
    · simp [body, indent, toString, hevents event hevent, hguard, haction]
    · simp [body, indent]
  · simp [body, indent]

theorem exportList (hline : OneLine code) :
    ∀ row ∈ ModuleText.exportList code, '\n' ∉ row.toList := by
  have hstates := hline.tuples code.states (by simp)
  have hevents := hline.tuples code.events (by simp)
  have hfixed : ∀ name ∈ CompiledModule.machineNameConstant :: CompiledModule.fixedNames,
      '\n' ∉ name.toList := by decide
  have hexports : ∀ name ∈ code.exports, '\n' ∉ name.toList := by
    obtain ⟨hconstant, hfixed⟩ := List.forall_mem_cons.1 hfixed
    simp only [CompiledModule.exports, List.cons_append, List.forall_mem_cons,
      List.forall_mem_append]
    exact ⟨hconstant, ⟨hstates, hevents⟩, hfixed⟩
  unfold ModuleText.exportList
  simp only [List.forall_mem_append]
  exact ⟨⟨by simp, newline_not_mem_quotedNames hexports⟩, by simp⟩

/-- No row behind the imports goes over a line end. -/
theorem behind (hline : OneLine code) :
    ∀ row ∈ definitions code ++ ModuleText.exportList code, '\n' ∉ row.toList := by
  have hmachine := hline.machine
  unfold definitions
  simp only [List.forall_mem_append]
  refine ⟨⟨⟨⟨⟨⟨?_, hline.labelClasses⟩, hline.collections⟩, hline.tagClass⟩, hline.machineClass⟩,
    hline.dispatch⟩, hline.exportList⟩
  simp [CompiledModule.machineNameConstant, toString, hmachine]

end OneLine

end ModuleText

namespace Running

open ModuleText

variable {m : FsmCompiler.Machine} {source : Option String}

/-! ## The module of a machine -/

theorem bindable_labels (hnames : m.nameDefects = []) :
    ∀ label ∈ (m.compile source).labels, Bindable label.name := by
  intro label hlabel
  have hmem : label.name ∈ (m.labelDefs m.derived).map (·.name) :=
    List.mem_map.2 ⟨label, hlabel, rfl⟩
  rw [Machine.map_labelDefs_name] at hmem
  exact (Machine.label_of_nameDefects hnames hmem).1

/-- A module defines what it offers. -/
theorem bindings_compile (m : FsmCompiler.Machine) (source : Option String) :
    bindings (m.compile source) = (m.compile source).exports := by
  have hlabels : (m.compile source).labels.map (·.name) = m.labelNames := m.map_labelDefs_name
  rw [bindings, hlabels]
  simp [CompiledModule.exports, Machine.labelNames, Machine.compile, Machine.compileWith,
    Machine.derived]

theorem newline_not_mem_tag {w : Variant} (hnames : m.nameDefects = []) (hw : w ∈ m.variants) :
    '\n' ∉ w.tag.toList := by
  have hstate : '\n' ∉ w.state.name.toList :=
    (Machine.label_of_nameDefects hnames
      (Machine.state_mem_labelNames (Machine.variant_state_mem_states hw))).1.not_mem (by decide)
  rw [Machine.variant_tag hw]
  cases hevent : w.eventName? with
  | none => simpa [Machine.tagText, Naming.initialTag] using hstate
  | some event =>
    have hlabel : '\n' ∉ event.toList :=
      (Machine.label_of_nameDefects hnames
        (Machine.variant_event_mem_labelNames hw hevent)).1.not_mem (by decide)
    simpa [Machine.tagText, Naming.transitionTag, hstate] using hlabel

/-- The module of a machine goes over line ends only where its resources do. -/
theorem oneLine_compile (hnames : m.nameDefects = [])
    (hresources : ∀ r ∈ m.guardResources ++ m.actionResources,
      '\n' ∉ r.name.toList ∧ '\n' ∉ r.type.toList) : OneLine (m.compile source) := by
  have hlabel : ∀ name ∈ m.labelNames, '\n' ∉ name.toList := fun name hname =>
    (Machine.label_of_nameDefects hnames hname).1.not_mem (by decide)
  have hstate : ∀ s ∈ m.states, '\n' ∉ s.name.toList := fun s hs =>
    hlabel _ (Machine.state_mem_labelNames (List.mem_map.2 ⟨s, hs, rfl⟩))
  have hevent : ∀ e ∈ m.events, '\n' ∉ e.name.toList := fun e he =>
    hlabel _ (List.mem_append_right _ (List.mem_map.2 ⟨e, he, rfl⟩))
  constructor
  case machine => exact (Machine.nameDefects_eq_nil_iff.1 hnames).1.not_mem (by decide)
  case labels => exact fun label hmem => (bindable_labels hnames label hmem).not_mem (by decide)
  case tuples =>
    have hsource : ∀ s ∈ m.nonTerminalStates, '\n' ∉ s.name.toList := by
      intro s hs
      obtain ⟨t, ht, rfl⟩ := List.mem_map.1 (mem_of_mem_distinctBy hs)
      exact hlabel _ (Machine.state_mem_labelNames (Machine.source_mem_states ht))
    simp only [List.forall_mem_cons]
    refine ⟨List.forall_mem_map.2 hstate, List.forall_mem_map.2 hsource,
      List.forall_mem_map.2 fun s hs => hstate s (List.mem_filter.1 hs).1,
      List.forall_mem_map.2 hevent, fun name hname => ?_, by simp⟩
    exact hlabel name (Machine.state_mem_labelNames (Machine.initial_mem_states hname))
  case tags =>
    exact List.forall_mem_map.2 fun w hw => newline_not_mem_tag hnames hw
  case transitions =>
    exact fun rule hrule name hname => hlabel name (label_of_rule hrule hname)
  case variantTags =>
    refine List.forall_mem_map.2 fun w hw => ?_
    simp only [List.forall_mem_cons, tagEntry_event hnames hw, Option.mem_toList]
    refine ⟨?_, newline_not_mem_tag hnames hw, fun event hevent => ?_⟩
    · exact hlabel _ (Machine.state_mem_labelNames (Machine.variant_state_mem_states hw))
    · exact hlabel _ (Machine.variant_event_mem_labelNames hw hevent)
  case branches =>
    intro branch hbranch
    refine List.forall_mem_cons.2 ⟨?_, fun event hevent => ?_⟩
    · obtain ⟨arm, harm, rfl⟩ := List.mem_map.1 hbranch
      exact newline_not_mem_tag hnames (Machine.arm_of_mem harm).1
    · obtain ⟨w, -, t, ht, rfl⟩ := exists_branch_iff.1 ⟨branch, hbranch, hevent⟩
      exact hlabel _ (Machine.event_mem_labelNames (List.mem_filter.1 ht).1)
  case resources => exact hresources

/-! ## Names that stay apart -/

/-- Told apart by what `spelling` makes of them, the definitions of a text replace neither each
other nor an import. -/
structure BoundOnce (spelling : String → String) (rows : List String) : Prop where
  distinct : ((definedNames rows).map spelling).Nodup
  fresh : ∀ name ∈ definedNames rows, spelling name ∉ importedNames

/-- The text also offers exactly what it defines. -/
structure DefinedOnce (spelling : String → String) (rows : List String) : Prop extends
    BoundOnce spelling rows where
  offered : offeredRows rows = quotedNames ((definedNames rows).map spelling)

/-- Told apart by what `spelling` makes of them, labels take neither the name of another one nor
one that every module defines or imports. -/
structure LabelsApart (spelling : String → String) (m : FsmCompiler.Machine) : Prop where
  distinct : ∀ a ∈ m.labelNames, ∀ b ∈ m.labelNames, spelling a = spelling b → a = b
  defined : ∀ name ∈ m.labelNames, spelling name ∉ generatedNames
  imported : ∀ name ∈ m.labelNames, spelling name ∉ importedNames

/-- What an entry of the tag table is found under. -/
def keyOf (spelling : String → String) (entry : String × Option String × String) :
    String × String :=
  (spelling entry.1, spelling (entry.2.1.getD noneEvent))

/-- Tags and keys of the tag table are in one-to-one correspondence: none comes twice, and one
after the other the entries lead to the tags. -/
structure TagsPaired (spelling : String → String) (code : CompiledModule) : Prop where
  tags : (code.tags.map spelling).Nodup
  keys : (code.variantTags.map (keyOf spelling)).Nodup
  paired : code.variantTags.map (·.2.2) = code.tags

/-- Every initial state and every rule has its entry in the tag table. -/
structure VariantsListed (m : FsmCompiler.Machine) (code : CompiledModule) : Prop where
  initial : ∀ s ∈ m.initialStates, (s.name, none, Naming.initialTag s.name) ∈ code.variantTags
  entered : ∀ t ∈ m.transitions, (t.target.name, some t.event.name,
    Naming.transitionTag t.target.name t.event.name) ∈ code.variantTags

variable {spelling : String → String} {lines : List String}

theorem perm_exports (m : FsmCompiler.Machine) (source : Option String) :
    (m.compile source).exports.Perm (generatedNames ++ m.labelNames) := by
  have hlabels : (m.compile source).labels.map (·.name) = m.labelNames := m.map_labelDefs_name
  rw [← bindings_compile, bindings, hlabels]
  exact List.perm_append_comm.cons CompiledModule.machineNameConstant

theorem generatedNames_not_imported : ∀ name ∈ generatedNames, name ∉ importedNames := by
  rw [importedNames_eq]
  decide

/-- The definitions stay apart exactly if the labels do. -/
theorem boundOnce_iff (hnames : m.nameDefects = [])
    (hfixed : ∀ name ∈ generatedNames, spelling name = name)
    (hread : definedNames lines = (m.compile source).exports) :
    BoundOnce spelling lines ↔ LabelsApart spelling m := by
  have hperm := perm_exports m source
  have hgenerated : generatedNames.map spelling = generatedNames := by
    rw [List.map_congr_left hfixed, List.map_id']
  have hdistinct : ((definedNames lines).map spelling).Nodup ↔
      (∀ a ∈ m.labelNames, ∀ b ∈ m.labelNames, spelling a = spelling b → a = b) ∧
        ∀ name ∈ m.labelNames, spelling name ∉ generatedNames := by
    have hlabels := m.nodup_labelNames_of_nameDefects hnames
    have hnodup : generatedNames.Nodup := by decide
    rw [hread, (hperm.map spelling).nodup_iff, List.map_append, hgenerated, List.nodup_append,
      List.nodup_map_iff_inj_on hlabels]
    simp only [hnodup, true_and, List.forall_mem_map]
    exact and_congr_right' ⟨fun h name hname hmem => h _ hmem name hname rfl,
      fun h other hother name hname heq => h name hname (heq ▸ hother)⟩
  have hfresh : (∀ name ∈ definedNames lines, spelling name ∉ importedNames) ↔
      ∀ name ∈ m.labelNames, spelling name ∉ importedNames := by
    have hall : ∀ name ∈ generatedNames, spelling name ∉ importedNames := fun name hname =>
      (hfixed name hname).symm ▸ generatedNames_not_imported name hname
    simp only [hread, hperm.mem_iff, List.forall_mem_append]
    exact and_iff_right hall
  constructor
  · rintro ⟨hnodup, hnone⟩
    exact ⟨(hdistinct.1 hnodup).1, (hdistinct.1 hnodup).2, hfresh.1 hnone⟩
  · rintro ⟨hlabels, hdefined, himported⟩
    exact ⟨hdistinct.2 ⟨hlabels, hdefined⟩, hfresh.2 himported⟩

/-- As they are written, names without defect stay apart. -/
theorem labelsApart_id (hnames : m.nameDefects = []) : LabelsApart id m where
  distinct := fun _ _ _ _ hsame => hsame
  defined := fun name hname => (Machine.label_of_nameDefects hnames hname).2
  imported := by
    intro name hname himport
    have hexported := (Machine.label_of_nameDefects hnames hname).1.exported
    have hunderscore : ∀ other ∈ importedNames, other.startsWith "_" = true := by
      rw [importedNames_eq]
      simp
    rw [hunderscore name himport] at hexported
    cases hexported

theorem quotedNames_injective : Function.Injective quotedNames := by
  refine List.map_injective_iff.2 fun name other hsame => ?_
  have hchars := congrArg String.toList hsame
  simp only [body, indent, toString, String.toList_append] at hchars
  exact String.toList_injective (by simpa using hchars)

/-- The definitions stay apart and are what the text offers exactly if labels are written as they
are told apart. -/
theorem definedOnce_iff (hnames : m.nameDefects = [])
    (hfixed : ∀ name ∈ generatedNames, spelling name = name)
    (hread : definedNames lines = (m.compile source).exports)
    (hoffered : offeredRows lines = quotedNames (m.compile source).exports) :
    DefinedOnce spelling lines ↔ ∀ name ∈ m.labelNames, spelling name = name := by
  have hiff : offeredRows lines = quotedNames ((definedNames lines).map spelling) ↔
      ∀ name ∈ m.labelNames, spelling name = name := by
    rw [hoffered, hread, quotedNames_injective.eq_iff]
    calc (m.compile source).exports = (m.compile source).exports.map spelling
        ↔ ∀ name ∈ (m.compile source).exports, spelling name = name := by
          rw [eq_comm, ← List.map_inj_left, List.map_id']
      _ ↔ ∀ name ∈ m.labelNames, spelling name = name := by
          simp only [(perm_exports m source).mem_iff, List.forall_mem_append]
          exact and_iff_right hfixed
  constructor
  · exact fun hdefined => hiff.1 hdefined.offered
  · intro hplain
    have hid := labelsApart_id hnames
    have hapart : LabelsApart spelling m := by
      constructor
      case distinct =>
        intro a ha b hb hsame
        rwa [hplain a ha, hplain b hb] at hsame
      case defined => exact fun name hname => (hplain name hname).symm ▸ hid.defined name hname
      case imported => exact fun name hname => (hplain name hname).symm ▸ hid.imported name hname
    exact ⟨(boundOnce_iff hnames hfixed hread).2 hapart, hiff.2 hplain⟩

/-! ## Tags -/

/-- Where labels stay apart, a variant is determined by what its entry is found under. -/
theorem variant_ext_of_key {v w : Variant} (hnames : m.nameDefects = [])
    (hapart : LabelsApart spelling m) (hnone : spelling noneEvent = noneEvent)
    (hv : v ∈ m.variants) (hw : w ∈ m.variants)
    (hkey : keyOf spelling (Machine.tagEntry v) = keyOf spelling (Machine.tagEntry w)) : v = w := by
  have hstates : ∀ x ∈ m.variants, x.state.name ∈ m.labelNames := fun x hx =>
    Machine.state_mem_labelNames (Machine.variant_state_mem_states hx)
  have hsome : ∀ event ∈ m.labelNames, spelling event ≠ spelling noneEvent := by
    intro event hevent hsame
    refine hapart.imported event hevent ?_
    rw [hsame, hnone, importedNames_eq]
    decide
  obtain ⟨hstate, hevent⟩ := Prod.mk.inj hkey
  rw [tagEntry_event hnames hv, tagEntry_event hnames hw] at hevent
  refine Machine.variant_ext hv hw
    (hapart.distinct _ (hstates v hv) _ (hstates w hw) hstate) ?_
  cases hleft : v.eventName? with
  | none =>
    cases hright : w.eventName? with
    | none => rfl
    | some event =>
      rw [hleft, hright] at hevent
      exact absurd hevent.symm (hsome event (Machine.variant_event_mem_labelNames hw hright))
  | some event =>
    have hfirst := Machine.variant_event_mem_labelNames hv hleft
    cases hright : w.eventName? with
    | none =>
      rw [hleft, hright] at hevent
      exact absurd hevent (hsome event hfirst)
    | some other =>
      rw [hleft, hright] at hevent
      have hsecond := Machine.variant_event_mem_labelNames hw hright
      rw [hapart.distinct event hfirst other hsecond hevent]

/-- Where labels stay apart, tags and keys are in one-to-one correspondence exactly if the tags
stay apart. -/
theorem tagsPaired_iff (hnames : m.nameDefects = []) (hapart : LabelsApart spelling m)
    (hnone : spelling noneEvent = noneEvent) :
    TagsPaired spelling (m.compile source) ↔ (m.variants.map fun w => spelling w.tag).Nodup := by
  have htags : (m.compile source).tags.map spelling = m.variants.map fun w => spelling w.tag :=
    List.map_map
  have hkeys : ((m.compile source).variantTags.map (keyOf spelling)).Nodup := by
    have hnodup : m.variants.Nodup := (nodup_map_distinctBy Variant.tag _).of_map
    have hentries : (m.compile source).variantTags.map (keyOf spelling) =
        m.variants.map fun w => keyOf spelling (Machine.tagEntry w) := List.map_map
    rw [hentries, List.nodup_map_iff_inj_on hnodup]
    exact fun v hv w hw => variant_ext_of_key hnames hapart hnone hv hw
  rw [← htags]
  exact ⟨fun hpaired => hpaired.tags, fun hnodup => ⟨hnodup, hkeys, List.map_map⟩⟩

/-- No tag is disputed exactly if the tag table lists every initial state and every rule. -/
theorem tagDefects_eq_nil_iff_listed (hnames : m.nameDefects = []) :
    m.tagDefects = [] ↔ VariantsListed m (m.compile source) := by
  have hentry : ∀ state event, (∃ v ∈ m.variants, v.state.name = state ∧ v.eventName? = event) ↔
      (state, event, Machine.tagText state event) ∈ (m.compile source).variantTags := by
    intro state event
    constructor
    · rintro ⟨v, hv, rfl, rfl⟩
      refine List.mem_map.2 ⟨v, hv, ?_⟩
      rw [← Machine.variant_tag hv, ← tagEntry_event hnames hv]
      rfl
    · intro hmem
      obtain ⟨v, hv, hentry⟩ := List.mem_map.1 hmem
      refine ⟨v, hv, congrArg (·.1) hentry, ?_⟩
      rw [← tagEntry_event hnames hv, hentry]
  rw [Machine.tagDefects_eq_nil_iff_distinctTags, Machine.distinctTags_iff_kept]
  simp only [hentry]
  exact ⟨fun ⟨hinitial, hentered⟩ => ⟨hinitial, hentered⟩,
    fun ⟨hinitial, hentered⟩ => ⟨hinitial, hentered⟩⟩

/-! ## Definitions of a module -/

theorem compatible_generatedNames : ∀ name ∈ generatedNames, compatible name = name := by
  decide +kernel

theorem compatible_noneEvent : compatible noneEvent = noneEvent := by
  decide +kernel

/-- No definition of a module replaces another exactly if its labels stay apart. Where the
names of a machine have no defect, its module defines what it lists, and as the names are
written each definition and each key has a name of its own, none has that of an import, and
tags and keys are in one-to-one correspondence; the table lists every initial state and every
rule exactly if no tag is disputed. For the language, which tells names apart by their
compatible forms, definitions stay apart if and only if the labels do, what is offered is what
is defined if and only if the labels are written in that form, and, where labels stay apart,
tags and keys correspond if and only if the tags stay apart. Unless a resource goes over a line
end, the lines of the text say the same as its rows. -/
theorem definitions_apart_iff (hnames : m.nameDefects = []) (source : Option String) :
    definedNames (rows (m.compile source)) = (m.compile source).exports ∧
      DefinedOnce id (rows (m.compile source)) ∧ TagsPaired id (m.compile source) ∧
      (m.tagDefects = [] ↔ VariantsListed m (m.compile source)) ∧
      (BoundOnce compatible (rows (m.compile source)) ↔ LabelsApart compatible m) ∧
      (DefinedOnce compatible (rows (m.compile source)) ↔
        ∀ name ∈ m.labelNames, compatible name = name) ∧
      (LabelsApart compatible m → (TagsPaired compatible (m.compile source) ↔ TagsApart m)) ∧
      ((∀ r ∈ m.guardResources ++ m.actionResources,
          '\n' ∉ r.name.toList ∧ '\n' ∉ r.type.toList) →
        definedNames (Text.lines (ofModule (m.compile source))) =
            definedNames (rows (m.compile source)) ∧
          offeredRows (Text.lines (ofModule (m.compile source))) =
            offeredRows (rows (m.compile source))) := by
  have hlabels : ∀ label ∈ (m.compile source).labels, Bindable label.name :=
    bindable_labels hnames
  obtain ⟨hread, hoffered⟩ := read_rows hlabels
  have hexports := hread.trans (bindings_compile m source)
  have htags : (m.variants.map fun w => id w.tag).Nodup := nodup_map_distinctBy Variant.tag _
  refine ⟨hexports, ?_, ?_, tagDefects_eq_nil_iff_listed hnames, ?_, ?_, ?_, ?_⟩
  · exact (definedOnce_iff hnames (fun _ _ => rfl) hexports hoffered).2 fun _ _ => rfl
  · exact (tagsPaired_iff hnames (labelsApart_id hnames) rfl).2 htags
  · exact boundOnce_iff hnames compatible_generatedNames hexports
  · exact definedOnce_iff hnames compatible_generatedNames hexports hoffered
  · exact fun hapart => tagsPaired_iff hnames hapart compatible_noneEvent
  · intro hresources
    obtain ⟨hlines, hofferedLines⟩ := read_lines hlabels (oneLine_compile hnames hresources).behind
    exact ⟨hlines.trans hread.symm, hofferedLines.trans hoffered.symm⟩

/-- The text of the module of a lamp defines each of its names once. -/
theorem lamp_definedOnce :
    definedNames (Text.lines (ofModule ((oneRule "Off" "Press" "On").compile none))) =
        ["MACHINE_NAME", "Off", "On", "Press", "STATES", "NON_TERMINAL_STATES", "TERMINAL_STATES",
          "EVENTS", "VariantTag", "Machine", "eval_machine"] ∧
      DefinedOnce compatible (rows ((oneRule "Off" "Press" "On").compile none)) ∧
      TagsPaired compatible ((oneRule "Off" "Press" "On").compile none) ∧
      VariantsListed (oneRule "Off" "Press" "On") ((oneRule "Off" "Press" "On").compile none) := by
  let m := oneRule "Off" "Press" "On"
  have hnames : m.nameDefects = [] := by decide +kernel
  have hplain : ∀ name ∈ m.labelNames, compatible name = name := by decide +kernel
  have hapart : TagsApart m := by decide +kernel
  obtain ⟨hexports, -, -, hlisted, hbound, hdefined, hpaired, hlines⟩ :=
    definitions_apart_iff hnames none
  have honce := hdefined.2 hplain
  refine ⟨?_, honce, (hpaired (hbound.1 honce.toBoundOnce)).2 hapart,
    hlisted.1 (by decide +kernel)⟩
  rw [(hlines (by simp [m, oneRule])).1, hexports]
  decide +kernel

/-- A machine with two states that differ in writing and are one identifier. -/
def twins : FsmCompiler.Machine where
  name := "M"
  transitions := [⟨⟨"Go", none⟩, ⟨"A", none⟩, ⟨"a", none⟩, none⟩,
    ⟨⟨"Back", none⟩, ⟨"a", none⟩, ⟨"ª", none⟩, none⟩]
  initialStates := [⟨"A", none⟩]
  guardResources := []
  actionResources := []
  loc := none

/-- The class of the later state takes the place of the earlier one: its name, which the module
offers, means the other state. -/
theorem later_definition_replaces :
    twins.validate = .ok () ∧ "a" ∈ definedNames (rows (twins.compile none)) ∧
      "ª" ∈ definedNames (rows (twins.compile none)) ∧
      ¬ ((definedNames (rows (twins.compile none))).map compatible).Nodup ∧
      (globalsOf twins 1).find? "a" = some (twins.classOf 1 "ª") := by
  have hvalid : twins.validate = .ok () := by decide +kernel
  have hnames := (Machine.validate_eq_ok_iff.1 hvalid).names
  have hread : definedNames (rows (twins.compile none)) = (twins.compile none).exports :=
    (read_rows (bindable_labels hnames)).1.trans (bindings_compile twins none)
  rw [hread]
  exact ⟨hvalid, by decide +kernel, by decide +kernel, by decide +kernel, by decide +kernel⟩

end Running

end FsmCompiler
