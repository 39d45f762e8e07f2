/-
# Tables that keep every declaration

Validation looks for tags that stand for two variants, and for rules that lead from one state
by one event to two targets. It finds none exactly if the lists and tables that are made of the
declarations keep them all: the list of variants, which keeps the first of those with one tag,
and the table of rules, which keeps the last of those with one key.
-/

import FsmCompiler.Module.Basic
import FsmCompiler.Proofs.Validity

namespace FsmCompiler

/-! ## What is kept -/

section Kept

variable [BEq κ] [LawfulBEq κ]

/-- Where the value of an item determines its key, keeping the first item of each key keeps
every value exactly if items with one key have one value. -/
theorem forall_exists_distinctBy_iff (key : α → κ) (value : α → β) (items : List α)
    (hkey : ∀ a ∈ items, ∀ b ∈ items, value a = value b → key a = key b) :
    (∀ a ∈ items, ∃ b ∈ distinctBy key items, value b = value a) ↔
      ∀ a ∈ items, ∀ b ∈ items, key a = key b → value a = value b := by
  constructor
  · intro hkept a ha b hb hsame
    obtain ⟨a', ha', hvalue⟩ := hkept a ha
    obtain ⟨b', hb', hvalue'⟩ := hkept b hb
    have hfirst : a' = b' := by
      apply eq_of_mem_distinctBy ha' hb'
      rw [hkey a' (mem_of_mem_distinctBy ha') a ha hvalue, hsame,
        hkey b' (mem_of_mem_distinctBy hb') b hb hvalue']
    rw [← hvalue, ← hvalue', hfirst]
  · intro hagree a ha
    obtain ⟨b, hb, hsame⟩ := exists_mem_distinctBy key ha
    exact ⟨b, hb, hagree b (mem_of_mem_distinctBy hb) a ha hsame⟩

/-- Storing entries one after the other keeps them all exactly if entries with one key have one
value. -/
theorem Table.forall_lookup_ofEntries_iff (entries : List (κ × α)) :
    (∀ entry ∈ entries, (Table.ofEntries entries).lookup entry.1 = some entry.2) ↔
      ∀ a ∈ entries, ∀ b ∈ entries, a.1 = b.1 → a.2 = b.2 := by
  constructor
  · intro hkept a ha b hb hkey
    apply Option.some.inj
    rw [← hkept a ha, ← hkept b hb, hkey]
  · intro hagree entry hentry
    apply Table.lookup_ofEntries hentry
    intro other hother
    exact hagree (entry.1, other) hother entry hentry rfl

end Kept

/-! ## Tags -/

/-- What a variant is told apart by: the name of its state, and of the event that entered it if
there is one. -/
def Variant.names (v : Variant) : String × Option String := (v.state.name, v.eventName?)

namespace Machine

variable {m : Machine}

/-- The variants of the initial states and then of the rules, with repetitions. -/
def mentionedVariants (m : Machine) : List Variant :=
  m.initialStates.map .initial ++ m.transitions.map .entered

theorem variants_eq : m.variants = distinctBy (·.tag) m.mentionedVariants := rfl

/-- What is said of all variants is said of the initial states and of the rules. -/
theorem forall_mentionedVariants {p : Variant → Prop} :
    (∀ v ∈ m.mentionedVariants, p v) ↔
      (∀ s ∈ m.initialStates, p (.initial s)) ∧ ∀ t ∈ m.transitions, p (.entered t) := by
  simp only [mentionedVariants, List.forall_mem_append, List.forall_mem_map]

theorem tag_of_mentioned : ∀ v ∈ m.mentionedVariants, v.tag = tagText v.names.1 v.names.2 := by
  rw [forall_mentionedVariants]
  exact ⟨fun _ _ => rfl, fun _ _ => rfl⟩

/-- The tags tell the variants apart. -/
def DistinctTags (m : Machine) : Prop :=
  ∀ v ∈ m.mentionedVariants, ∀ w ∈ m.mentionedVariants, v.tag = w.tag → v.names = w.names

/-- No tag is disputed exactly if the tags tell the variants apart. Initial states need no
look, for their tags always do. -/
theorem tagDefects_eq_nil_iff_distinctTags : m.tagDefects = [] ↔ m.DistinctTags := by
  rw [tagDefects_eq_nil_iff]
  simp only [DistinctTags, forall_mentionedVariants]
  constructor
  · rintro ⟨hinitial, hrules⟩
    refine ⟨fun s hs => ⟨fun s' _ htag => ?_, fun t ht htag => ?_⟩,
      fun t ht => ⟨fun s hs htag => ?_, fun u hu htag => ?_⟩⟩
    · exact congrArg (·, none) (initialTag_injective htag)
    · exact absurd htag (hinitial s hs t ht)
    · exact absurd htag.symm (hinitial s hs t ht)
    · obtain ⟨htarget, hevent⟩ := hrules t ht u hu htag
      exact Prod.ext htarget (congrArg some hevent)
  · rintro ⟨hinitial, hrules⟩
    constructor
    · intro s hs t ht htag
      cases (Prod.mk.inj ((hinitial s hs).2 t ht htag)).2
    · intro t ht u hu htag
      obtain ⟨htarget, hevent⟩ := Prod.mk.inj ((hrules t ht).2 u hu htag)
      exact ⟨htarget, Option.some.inj hevent⟩

/-- The tags tell the variants apart exactly if none is lost where the first of each tag is
kept. -/
theorem distinctTags_iff_kept :
    m.DistinctTags ↔
      (∀ s ∈ m.initialStates, ∃ v ∈ m.variants, v.state.name = s.name ∧ v.eventName? = none) ∧
        ∀ t ∈ m.transitions, ∃ v ∈ m.variants,
          v.state.name = t.target.name ∧ v.eventName? = some t.event.name := by
  have hkept := forall_exists_distinctBy_iff Variant.tag Variant.names
    m.mentionedVariants fun v hv w hw hnames => by
      rw [tag_of_mentioned v hv, tag_of_mentioned w hw, hnames]
  rw [← variants_eq, forall_mentionedVariants] at hkept
  rw [DistinctTags, ← hkept]
  simp only [Variant.names, Prod.mk.injEq]
  rfl

end Machine

/-! ## Targets -/

/-- The table that the entries of a module make, by the names as they are written: an entry
takes the place of an earlier one with the same source and event. -/
def CompiledModule.ruleTable (code : CompiledModule) : Table (String × String) String :=
  Table.ofEntries (code.transitions.map fun (source, event, target) => ((source, event), target))

namespace Machine

variable {m : Machine}

theorem targetDefects_eq_nil_iff_kept {source : Option String} :
    m.targetDefects = [] ↔ ∀ t ∈ m.transitions,
      (m.compile source).ruleTable.lookup (t.source.name, t.event.name) = some t.target.name := by
  have hentries : (m.compile source).transitions.map
      (fun (source, event, target) => ((source, event), target)) =
        m.transitions.map fun t => ((t.source.name, t.event.name), t.target.name) :=
    List.map_map
  have hkept := Table.forall_lookup_ofEntries_iff
    (m.transitions.map fun t => ((t.source.name, t.event.name), t.target.name))
  simp only [List.forall_mem_map] at hkept
  rw [targetDefects_eq_nil_iff, CompiledModule.ruleTable, hentries, hkept]

/-- Validation rejects exactly the machines whose tables would lose a declaration. No tag is
disputed exactly if every initial state and every rule has its variant among the variants, that
is, if different states and events have different tags. And no target is disputed exactly if
every rule is found in the table that the module makes of the rules. -/
theorem defects_exact (m : Machine) (source : Option String) :
    (m.tagDefects = [] ↔
      (∀ s ∈ m.initialStates, ∃ v ∈ m.variants, v.state.name = s.name ∧ v.eventName? = none) ∧
        ∀ t ∈ m.transitions, ∃ v ∈ m.variants,
          v.state.name = t.target.name ∧ v.eventName? = some t.event.name) ∧
      (m.tagDefects = [] ↔ ∀ v ∈ m.mentionedVariants, ∀ w ∈ m.mentionedVariants,
        v.names ≠ w.names → v.tag ≠ w.tag) ∧
      (m.targetDefects = [] ↔ ∀ t ∈ m.transitions,
        (m.compile source).ruleTable.lookup (t.source.name, t.event.name) =
          some t.target.name) := by
  refine ⟨?_, ?_, targetDefects_eq_nil_iff_kept⟩
  · rw [tagDefects_eq_nil_iff_distinctTags, distinctTags_iff_kept]
  · rw [tagDefects_eq_nil_iff_distinctTags]
    exact forall₄_congr fun v _ w _ => not_imp_not.symm

end Machine

end FsmCompiler
