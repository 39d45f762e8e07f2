/-
# Loading the machines of a text

All machines of a text are loaded one after the other, and their modules are kept by
machine name. The module of a machine is replaced by that of a later machine of its name, so
each machine of a text has its module, in the order of the text, exactly if no two machines of
the text share a name.
-/

import FsmCompiler.Proofs.Loaded
import FsmCompiler.Proofs.Reading

namespace FsmCompiler

/-! ## Tables of entries -/

namespace Table

variable [BEq κ] [LawfulBEq κ] {entries : List (κ × α)}

/-- Under a new key a value is stored at the end. -/
theorem insert_of_not_mem {key : κ} {value : α} {table : Table κ α}
    (hnew : key ∉ table.map (·.1)) : insert key value table = table ++ [(key, value)] := by
  induction table with
  | nil => rfl
  | cons entry rest ih =>
    rw [List.map_cons, List.mem_cons, not_or] at hnew
    have hne : (entry.1 == key) = false := by simpa using Ne.symm hnew.1
    rw [insert, hne, ih hnew.2]
    rfl

/-- Entries with keys of their own are all kept, in order. -/
theorem ofEntries_of_nodup (hnodup : (entries.map (·.1)).Nodup) : ofEntries entries = entries := by
  induction entries using List.reverseRecOn with
  | nil => rfl
  | append_singleton entries entry ih =>
    rw [List.map_append, List.map_singleton, List.nodup_append] at hnodup
    obtain ⟨hentries, -, hapart⟩ := hnodup
    rw [ofEntries_append_singleton, ih hentries, insert_of_not_mem]
    exact fun hmem => hapart _ hmem _ (List.mem_singleton_self _) rfl

/-- What was stored last under a key is found. -/
theorem lookup_ofEntries_of_last {i : Nat} {key : κ} {value : α}
    (hentry : entries[i]? = some (key, value))
    (hlast : ∀ j later, i < j → entries[j]? = some later → later.1 ≠ key) :
    (ofEntries entries).lookup key = some value := by
  induction entries using List.reverseRecOn with
  | nil => simp at hentry
  | append_singleton entries last ih =>
    rw [ofEntries_append_singleton, lookup_insert]
    rcases Nat.lt_or_ge i entries.length with hi | hi
    · have hother : last.1 ≠ key := hlast entries.length last hi (by simp)
      rw [List.getElem?_append_left hi] at hentry
      rw [if_neg (by simpa using hother.symm)]
      refine ih hentry fun j later hj hlater => hlast j later hj ?_
      rw [List.getElem?_append_left (List.getElem?_eq_some_iff.1 hlater).1, hlater]
    · rw [List.getElem?_append_right hi] at hentry
      obtain ⟨_, hvalue⟩ := List.getElem?_eq_some_iff.1 hentry
      obtain rfl : last = (key, value) := by simpa using hvalue
      rw [if_pos (beq_self_eq_true key)]

end Table

/-- A walk that stores each result under the key of its item stores what a walk for the results
alone gives. -/
theorem foldlM_insert_eq_ok_iff [BEq κ] {f : ι → Except ε α} {key : ι → κ} {items : List ι}
    {start table : Table κ α} :
    items.foldlM (fun table item => do return Table.insert (key item) (← f item) table) start =
        .ok table ↔
      ∃ results, items.mapM f = .ok results ∧ ((items.map key).zip results).foldl
        (fun table entry => Table.insert entry.1 entry.2 table) start = table := by
  induction items generalizing start with
  | nil => simp [pure, Except.pure]
  | cons item rest ih =>
    rw [List.foldlM_cons, bind_eq_ok_iff]
    constructor
    · rintro ⟨next, hnext, hrest⟩
      obtain ⟨a, ha, hstored⟩ := bind_eq_ok_iff.1 hnext
      obtain rfl := pure_eq_ok_iff.1 hstored
      obtain ⟨results, hresults, rfl⟩ := ih.1 hrest
      exact ⟨a :: results, mapM_eq_ok_iff.2 (.cons ha (mapM_eq_ok_iff.1 hresults)), rfl⟩
    · rintro ⟨results, hresults, rfl⟩
      obtain ⟨a, later, ha, hlater, rfl⟩ :=
        List.forall₂_cons_left_iff.1 (mapM_eq_ok_iff.1 hresults)
      refine ⟨Table.insert (key item) a start, ?_, ih.2 ⟨later, mapM_eq_ok_iff.2 hlater, rfl⟩⟩
      rw [ha]
      rfl

namespace Running

variable {machines : List FsmCompiler.Machine} {load : Nat} {source : Option String}
  {table : Table String LoadedModule} {file text : String}

/-- Each machine can be loaded, as the one that it is among the others. -/
def AllLoad (load : Nat) (source : Option String) (machines : List FsmCompiler.Machine) : Prop :=
  ∀ i m, machines[i]? = some m → ∃ module, LoadedModule.ofMachine (load + i) m source = .ok module

/-- The table has one entry for each machine, in order: under the name of the machine there is
the module that is loaded from it. -/
structure HoldsEach (load : Nat) (source : Option String) (machines : List FsmCompiler.Machine)
    (table : Table String LoadedModule) : Prop where
  length : table.length = machines.length
  entry : ∀ i m, machines[i]? = some m → ∃ module, table[i]? = some (m.name, module) ∧
    LoadedModule.ofMachine (load + i) m source = .ok module

/-- The table has one entry for each name of a machine, in the order in which the names come
first: under the name there is the module that is loaded from the last machine of that name. -/
structure HoldsLast (load : Nat) (source : Option String) (machines : List FsmCompiler.Machine)
    (table : Table String LoadedModule) : Prop where
  keys : table.keys = distinctBy id (machines.map (·.name))
  entry : ∀ i m, machines[i]? = some m →
    (∀ j later, i < j → machines[j]? = some later → later.name ≠ m.name) →
    ∃ module, table.lookup m.name = some module ∧
      LoadedModule.ofMachine (load + i) m source = .ok module

/-- The modules of machines that are loaded one after the other. -/
def LoadsAs (load : Nat) (source : Option String) (machines : List FsmCompiler.Machine)
    (modules : List LoadedModule) : Prop :=
  List.Forall₂ (fun (numbered : FsmCompiler.Machine × Nat) module =>
    LoadedModule.ofMachine numbered.2 numbered.1 source = .ok module) (machines.zipIdx load) modules

/-- Loading machines stores their modules by name, one after the other. -/
theorem ofMachines_eq_ok_iff : LoadedModule.ofMachines load source machines = .ok table ↔
    ∃ modules, LoadsAs load source machines modules ∧
      Table.ofEntries ((machines.map (·.name)).zip modules) = table := by
  have hnames : (machines.zipIdx load).map (fun numbered => numbered.1.name) =
      machines.map (·.name) := by
    conv_rhs => rw [← List.zipIdx_map_fst load machines, List.map_map]
    rfl
  unfold LoadedModule.ofMachines LoadsAs
  rw [foldlM_insert_eq_ok_iff, hnames]
  simp only [mapM_eq_ok_iff]
  rfl

theorem LoadsAs.length_eq {modules : List LoadedModule}
    (hmodules : LoadsAs load source machines modules) : modules.length = machines.length := by
  simpa using (List.Forall₂.length_eq hmodules).symm

/-- Each machine is loaded as the one that it is among the others. -/
theorem LoadsAs.getElem? {modules : List LoadedModule}
    (hmodules : LoadsAs load source machines modules) {i : Nat} {m : FsmCompiler.Machine}
    (hm : machines[i]? = some m) : ∃ module, modules[i]? = some module ∧
      LoadedModule.ofMachine (load + i) m source = .ok module := by
  obtain ⟨hi, rfl⟩ := List.getElem?_eq_some_iff.1 hm
  have hmodule : i < modules.length := by rwa [hmodules.length_eq]
  have hloaded := List.Forall₂.get hmodules (i := i) (by simpa using hi) hmodule
  refine ⟨modules[i], List.getElem?_eq_getElem hmodule, ?_⟩
  simpa using hloaded

/-- Machines are loaded if and only if each of them can be. -/
theorem exists_ofMachines_iff :
    (∃ table, LoadedModule.ofMachines load source machines = .ok table) ↔
      AllLoad load source machines := by
  constructor
  · rintro ⟨table, htable⟩ i m hm
    obtain ⟨modules, hmodules, -⟩ := ofMachines_eq_ok_iff.1 htable
    obtain ⟨module, -, hload⟩ := hmodules.getElem? hm
    exact ⟨module, hload⟩
  · intro hall
    have hnumbered : ∀ numbered ∈ machines.zipIdx load, ∃ module,
        LoadedModule.ofMachine numbered.2 numbered.1 source = .ok module := by
      rintro ⟨m, number⟩ hmem
      obtain ⟨hle, hm⟩ := List.mk_mem_zipIdx_iff_le_and_getElem?_sub.1 hmem
      have hnumber : load + (number - load) = number := by omega
      exact hnumber ▸ hall (number - load) m hm
    obtain ⟨modules, hmodules⟩ := exists_mapM_eq_ok hnumbered
    exact ⟨_, ofMachines_eq_ok_iff.2 ⟨modules, mapM_eq_ok_iff.1 hmodules, rfl⟩⟩

/-- Of machines with the same name the last is kept. -/
theorem holdsLast_of_ofMachines
    (htable : LoadedModule.ofMachines load source machines = .ok table) :
    HoldsLast load source machines table := by
  obtain ⟨modules, hmodules, rfl⟩ := ofMachines_eq_ok_iff.1 htable
  have hlength : (machines.map (·.name)).length = modules.length := by
    rw [List.length_map, hmodules.length_eq]
  constructor
  case keys => rw [Table.keys_ofEntries, List.map_fst_zip (Nat.le_of_eq hlength)]
  case entry =>
    intro i m hm hlast
    obtain ⟨module, hmodule, hload⟩ := hmodules.getElem? hm
    have hentry : ((machines.map (·.name)).zip modules)[i]? = some (m.name, module) := by
      simp [List.getElem?_zip_eq_some, hm, hmodule]
    refine ⟨module, Table.lookup_ofEntries_of_last hentry fun j later hj hlater => ?_, hload⟩
    obtain ⟨hname, -⟩ := List.getElem?_zip_eq_some.1 hlater
    rw [List.getElem?_map, Option.map_eq_some_iff] at hname
    obtain ⟨other, hother, hname⟩ := hname
    exact hname ▸ hlast j other hj hother

/-- The table has the module of each machine, in order, exactly if the names of the machines are
different. -/
theorem holdsEach_iff (htable : LoadedModule.ofMachines load source machines = .ok table) :
    HoldsEach load source machines table ↔ (machines.map (·.name)).Nodup := by
  have hkeys := (holdsLast_of_ofMachines htable).keys
  obtain ⟨modules, hmodules, rfl⟩ := ofMachines_eq_ok_iff.1 htable
  have hlength : (machines.map (·.name)).length = modules.length := by
    rw [List.length_map, hmodules.length_eq]
  constructor
  · intro heach
    have hnames : (Table.ofEntries ((machines.map (·.name)).zip modules)).keys =
        machines.map (·.name) := by
      refine List.ext_getElem? fun i => ?_
      rw [Table.keys, List.getElem?_map, List.getElem?_map]
      cases hm : machines[i]? with
      | none =>
        rw [List.getElem?_eq_none_iff, ← heach.length, ← List.getElem?_eq_none_iff] at hm
        rw [hm]
        rfl
      | some m =>
        obtain ⟨module, hentry, -⟩ := heach.entry i m hm
        rw [hentry]
        rfl
    rw [← hnames, hkeys]
    simpa using nodup_map_distinctBy id (machines.map (·.name))
  · intro hnodup
    rw [Table.ofEntries_of_nodup (by rwa [List.map_fst_zip (Nat.le_of_eq hlength)])]
    refine ⟨by simp [hmodules.length_eq], fun i m hm => ?_⟩
    obtain ⟨module, hmodule, hload⟩ := hmodules.getElem? hm
    exact ⟨module, by simp [List.getElem?_zip_eq_some, hm, hmodule], hload⟩

/-- A text has the module of each of its machines, in order, exactly if no two of them share a
name. What is read are the machine blocks of the text. They are loaded if and only if each of
them can be, and of those with the same name the last is kept. -/
theorem holdsEach_iff_nodup (hread : Reader.read file text = .ok machines) (load : Nat)
    (source : Option String) :
    (∃ tokens, Token.scan text = .ok tokens ∧ Grammar.File file tokens machines) ∧
    ((∃ table, LoadedModule.ofMachines load source machines = .ok table) ↔
      AllLoad load source machines) ∧
    ∀ table, LoadedModule.ofMachines load source machines = .ok table →
      HoldsLast load source machines table ∧
        (HoldsEach load source machines table ↔ (machines.map (·.name)).Nodup) :=
  ⟨Reader.exists_file_of_read hread, exists_ofMachines_iff, fun _ htable =>
    ⟨holdsLast_of_ofMachines htable, holdsEach_iff htable⟩⟩

/-- A machine of one initial state, declared in the given columns of a text of one line. -/
def startAt (name state : String) (column stateColumn : Int) : FsmCompiler.Machine :=
  ⟨name, [], [⟨state, some ⟨"m", 1, stateColumn⟩⟩], [], [], some ⟨"m", 1, column⟩⟩

/-- Such a machine is loaded if its names are usable and can be written in a module. -/
theorem exists_loaded_startAt {name state : String} {column stateColumn : Int}
    (hvalid : (startAt name state column stateColumn).validate = .ok ())
    (htop : (Target.topText ((startAt name state column stateColumn).compile (some "m"))).isSome)
    (hparameters : (Target.dispatchSignature ((startAt name state column stateColumn).compile
      (some "m"))).any (·.writable))
    (hkind : (machineClass load ((startAt name state column stateColumn).compile (some "m"))
      (globalsOf (startAt name state column stateColumn) load)).toOption.isSome) :
    ∃ module, LoadedModule.ofMachine load (startAt name state column stateColumn) (some "m") =
      .ok module := by
  have hreadable :
      Target.holdsNul ((startAt name state column stateColumn).compile (some "m")) = false := by
    simp [Target.holdsNul, Machine.compile, Machine.compileWith, startAt]
  obtain ⟨kind, hkind⟩ := Option.isSome_iff_exists.1 hkind
  obtain ⟨module, hload, -⟩ := exists_ofMachine_eq_ok hvalid hreadable htop hparameters
    (toOption_eq_some_iff.1 hkind)
  exact ⟨module, hload⟩

theorem allLoad_pair {first second : FsmCompiler.Machine}
    (hfirst : ∃ module, LoadedModule.ofMachine load first source = .ok module)
    (hsecond : ∃ module, LoadedModule.ofMachine (load + 1) second source = .ok module) :
    AllLoad load source [first, second] := by
  intro i m hm
  match i with
  | 0 =>
    cases hm
    exact hfirst
  | 1 =>
    cases hm
    exact hsecond
  | i + 2 => simp at hm

/-- Two machines with two names are both kept. -/
theorem two_names_kept : ∃ machines table,
    Reader.read "m" "First { States { A } } Second { States { X } }" = .ok machines ∧
    LoadedModule.ofMachines 1 (some "m") machines = .ok table ∧
    HoldsEach 1 (some "m") machines table := by
  have hread : Reader.read "m" "First { States { A } } Second { States { X } }" =
      .ok [startAt "First" "A" 1 18, startAt "Second" "X" 24 42] := by decide +kernel
  have hall : AllLoad 1 (some "m") [startAt "First" "A" 1 18, startAt "Second" "X" 24 42] :=
    allLoad_pair
      (exists_loaded_startAt (by decide +kernel) (by decide +kernel) (by decide +kernel)
        (by decide +kernel))
      (exists_loaded_startAt (by decide +kernel) (by decide +kernel) (by decide +kernel)
        (by decide +kernel))
  obtain ⟨-, hloads, hkept⟩ := holdsEach_iff_nodup hread 1 (some "m")
  obtain ⟨table, htable⟩ := hloads.2 hall
  exact ⟨_, table, hread, htable, (hkept table htable).2.2 (by decide)⟩

/-- Of two machines with one name the first is dropped. -/
theorem first_of_name_dropped : ∃ machines table,
    Reader.read "m" "M { States { A } } M { States { B } }" = .ok machines ∧
    LoadedModule.ofMachines 1 (some "m") machines = .ok table ∧
    machines.length = 2 ∧ table.length = 1 ∧ ¬ HoldsEach 1 (some "m") machines table := by
  have hread : Reader.read "m" "M { States { A } } M { States { B } }" =
      .ok [startAt "M" "A" 1 14, startAt "M" "B" 20 33] := by decide +kernel
  have hall : AllLoad 1 (some "m") [startAt "M" "A" 1 14, startAt "M" "B" 20 33] :=
    allLoad_pair
      (exists_loaded_startAt (by decide +kernel) (by decide +kernel) (by decide +kernel)
        (by decide +kernel))
      (exists_loaded_startAt (by decide +kernel) (by decide +kernel) (by decide +kernel)
        (by decide +kernel))
  obtain ⟨table, htable⟩ := exists_ofMachines_iff.2 hall
  have hlength : table.length = 1 := by
    have hkeys := congrArg List.length (holdsLast_of_ofMachines htable).keys
    rwa [Table.keys, List.length_map] at hkeys
  refine ⟨_, table, hread, htable, rfl, hlength, fun heach => ?_⟩
  have htwo := heach.length
  rw [hlength] at htwo
  cases htwo

end Running

end FsmCompiler
