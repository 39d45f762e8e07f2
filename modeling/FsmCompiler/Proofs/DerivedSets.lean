/-
# The documented sets

The lists that are derived from a machine keep the first mention of every name or tag, in the
order of the first mentions. Such a list is determined by what is mentioned: it is the one that
grows item by item, each item being appended unless its key is there already. From this, and
from the states being split by whether a rule leaves them, everything that is documented of the
derived sets follows, and no other sets are as documented.
-/

import FsmCompiler.Proofs.DispatchArms
import FsmCompiler.Proofs.ExactTables
import Mathlib.Data.List.Sort

namespace FsmCompiler

/-! ## First mentions -/

section FirstMentions

variable [BEq κ] {key : α → κ} {items kept : List α} {a b : α}

/-- The key of `a` comes first where that of `b` has not come yet. -/
def Earlier (key : α → κ) (items : List α) (a b : α) : Prop :=
  items.findIdx (key · == key a) < items.findIdx (key · == key b)

/-- Lists in the order of first mentions are told apart by what they hold. -/
theorem eq_of_pairwise_earlier {kept other : List α} (hkept : kept.Pairwise (Earlier key items))
    (hother : other.Pairwise (Earlier key items)) (hmem : ∀ a, a ∈ kept ↔ a ∈ other) :
    kept = other := by
  have : Std.Irrefl (Earlier key items) := ⟨fun _ => lt_irrefl _⟩
  have : Std.Antisymm (Earlier key items) := ⟨fun _ _ hlt hgt => absurd hgt hlt.asymm⟩
  exact hkept.eq_of_mem_iff hother hmem

/-- Of the items, `kept` has the first with each key, in the order in which the keys come
first. -/
structure FirstMentions (key : α → κ) (items kept : List α) : Prop where
  first : ∀ a ∈ kept, items.find? (key · == key a) = some a
  complete : ∀ a ∈ items, ∃ b ∈ kept, key b = key a
  ordered : kept.Pairwise (Earlier key items)

/-- The item is appended unless its key is there already. -/
def addUnique (key : α → κ) (kept : List α) (a : α) : List α :=
  if kept.any (key · == key a) then kept else kept ++ [a]

namespace FirstMentions

theorem mem_items (hmentions : FirstMentions key items kept) (ha : a ∈ kept) : a ∈ items :=
  List.mem_of_find?_eq_some (hmentions.first a ha)

theorem key_eq_of_mem [LawfulBEq κ] (hmentions : FirstMentions key items kept) (ha : a ∈ kept)
    (hb : b ∈ kept) (hkey : key a = key b) : a = b := by
  have hfirst := hmentions.first a ha
  rw [hkey, hmentions.first b hb] at hfirst
  exact (Option.some.inj hfirst).symm

theorem nil : FirstMentions key [] [] := ⟨nofun, nofun, .nil⟩

/-- One more item leaves first mentions first mentions. -/
theorem addUnique [LawfulBEq κ] (hmentions : FirstMentions key items kept) (a : α) :
    FirstMentions key (items ++ [a]) (FsmCompiler.addUnique key kept a) := by
  -- What was first stays first, and where it was.
  have hfirst : ∀ b ∈ kept, (items ++ [a]).find? (key · == key b) = some b := by
    intro b hb
    rw [List.find?_append, hmentions.first b hb, Option.some_or]
  have hindex : ∀ b ∈ kept, items.findIdx (key · == key b) < items.length ∧
      (items ++ [a]).findIdx (key · == key b) = items.findIdx (key · == key b) := by
    intro b hb
    have hlt : items.findIdx (key · == key b) < items.length :=
      List.findIdx_lt_length.2 ⟨b, hmentions.mem_items hb, beq_self_eq_true _⟩
    exact ⟨hlt, by rw [List.findIdx_append, if_pos hlt]⟩
  have hordered : kept.Pairwise (Earlier key (items ++ [a])) := by
    refine hmentions.ordered.imp_of_mem fun hb hc hlt => ?_
    rwa [Earlier, (hindex _ hb).2, (hindex _ hc).2]
  unfold FsmCompiler.addUnique
  split
  case isTrue hseen =>
    obtain ⟨b, hb, hkey⟩ := List.any_eq_true.1 hseen
    refine ⟨hfirst, fun c hc => ?_, hordered⟩
    rcases List.mem_append.1 hc with hc | hc
    · exact hmentions.complete c hc
    · rw [List.mem_singleton.1 hc]
      exact ⟨b, hb, beq_iff_eq.1 hkey⟩
  case isFalse hnew =>
    -- No item before had the key, for else it would have been kept.
    have hnone : ∀ c ∈ items, (key c == key a) = false := by
      intro c hc
      obtain ⟨b, hb, hkey⟩ := hmentions.complete c hc
      rw [← hkey]
      exact Bool.eq_false_iff.2 fun hsame => hnew (List.any_eq_true.2 ⟨b, hb, hsame⟩)
    refine ⟨fun c hc => ?_, fun c hc => ?_, List.pairwise_append.2 ⟨hordered, by simp, ?_⟩⟩
    · rcases List.mem_append.1 hc with hc | hc
      · exact hfirst c hc
      · rw [List.mem_singleton.1 hc, List.find?_append,
          List.find?_eq_none.2 fun d hd => Bool.eq_false_iff.1 (hnone d hd)]
        simp
    · rcases List.mem_append.1 hc with hc | hc
      · obtain ⟨b, hb, hkey⟩ := hmentions.complete c hc
        exact ⟨b, List.mem_append_left _ hb, hkey⟩
      · exact ⟨c, List.mem_append_right _ hc, rfl⟩
    · intro b hb c hc
      have hlast : items.findIdx (key · == key a) = items.length :=
        List.findIdx_eq_length.2 hnone
      rw [List.mem_singleton.1 hc, Earlier, (hindex b hb).2, List.findIdx_append, hlast,
        if_neg (lt_irrefl _)]
      exact (hindex b hb).1.trans_le (Nat.le_add_left _ _)

/-- Only one list is that of the first mentions. -/
theorem unique [LawfulBEq κ] {other : List α} (hmentions : FirstMentions key items kept)
    (hother : FirstMentions key items other) : kept = other := by
  have hmem : ∀ {kept other : List α}, FirstMentions key items kept →
      FirstMentions key items other → ∀ a ∈ kept, a ∈ other := by
    intro kept other hmentions hother a ha
    obtain ⟨b, hb, hkey⟩ := hother.complete a (hmentions.mem_items ha)
    have hfirst := hmentions.first a ha
    rw [← hkey, hother.first b hb] at hfirst
    exact Option.some.inj hfirst ▸ hb
  exact eq_of_pairwise_earlier hmentions.ordered hother.ordered
    fun a => ⟨hmem hmentions hother a, hmem hother hmentions a⟩

end FirstMentions

/-- The first entries are what the items make one after the other. -/
theorem distinctBy_eq_foldl [LawfulBEq κ] (key : α → κ) (items : List α) :
    distinctBy key items = items.foldl (addUnique key) [] := by
  induction items using List.reverseRecOn with
  | nil => rfl
  | append_singleton items a ih =>
    rw [List.foldl_append, List.foldl_cons, List.foldl_nil, ← ih, distinctBy_append_singleton,
      addUnique]
    congr 1
    simp only [List.any_eq_true, beq_iff_eq, ← List.mem_map, mem_map_distinctBy]

theorem firstMentions_distinctBy [LawfulBEq κ] (key : α → κ) (items : List α) :
    FirstMentions key items (distinctBy key items) := by
  rw [distinctBy_eq_foldl]
  induction items using List.reverseRecOn with
  | nil => exact .nil
  | append_singleton items a ih =>
    rw [List.foldl_append]
    exact ih.addUnique a

theorem firstMentions_iff [LawfulBEq κ] :
    FirstMentions key items kept ↔ kept = distinctBy key items :=
  ⟨fun hmentions => hmentions.unique (firstMentions_distinctBy key items),
    fun hkept => hkept ▸ firstMentions_distinctBy key items⟩

end FirstMentions

/-! ## The derived sets -/

namespace Machine

variable {m : Machine}

/-- The derived sets as they are documented. -/
structure Documented (m : Machine) (sets : DerivedSets) : Prop where
  machine : sets.machine = m.name
  /-- The ends of the rules, source before target, and then the initial states. -/
  states : FirstMentions (·.name)
    (m.transitions.flatMap (fun t => [t.source, t.target]) ++ m.initialStates) sets.states
  nonTerminal : FirstMentions (·.name) (m.transitions.map (·.source)) sets.nonTerminalStates
  events : FirstMentions (·.name) (m.transitions.map (·.event)) sets.events
  /-- A state is terminal or not, and not both. -/
  either : ∀ s ∈ sets.states, Xor (s.name ∈ sets.terminalStates.map (·.name))
    (s.name ∈ sets.nonTerminalStates.map (·.name))
  together : ∀ name, name ∈ sets.states.map (·.name) ↔
    name ∈ sets.terminalStates.map (·.name) ∨ name ∈ sets.nonTerminalStates.map (·.name)
  nodup_terminal : (sets.terminalStates.map (·.name)).Nodup
  nodup_nonTerminal : (sets.nonTerminalStates.map (·.name)).Nodup
  terminalOrder : sets.terminalStates.Sublist sets.states
  departs : ∀ name, name ∈ sets.nonTerminalStates.map (·.name) ↔
    ∃ t ∈ m.transitions, t.source.name = name
  nodup_tags : (sets.variants.map (·.tag)).Nodup
  /-- The initial states come first, and then the rules whose tag no initial state has. -/
  variants : ∃ starts rules,
    sets.variants = starts.map Variant.initial ++ rules.map Variant.entered ∧
      FirstMentions (·.name) m.initialStates starts ∧
      FirstMentions ruleTag
        (m.transitions.filter fun t => ∀ s ∈ m.initialStates, Naming.initialTag s.name ≠ ruleTag t)
        rules
  stateOfVariant : ∀ v ∈ sets.variants, v.state.name ∈ sets.states.map (·.name)
  eventOfVariant : ∀ v ∈ sets.variants, ∀ e ∈ v.event, e.name ∈ sets.events.map (·.name)

/-- The variants are those of the initial states and then those of the rules. -/
theorem variants_split :
    m.variants = (distinctBy (·.name) m.initialStates).map Variant.initial ++
      (distinctBy ruleTag (m.transitions.filter fun t =>
        ∀ s ∈ m.initialStates, Naming.initialTag s.name ≠ ruleTag t)).map Variant.entered := by
  rw [variants, distinctBy_append, distinctBy_map, List.filter_map, distinctBy_map]
  congr 2
  · exact distinctBy_congr fun _ _ _ _ => ⟨initialTag_injective, congrArg Naming.initialTag⟩
  · congr 1
    refine List.filter_congr fun t _ => ?_
    rw [Bool.eq_iff_iff, Function.comp_apply, Bool.not_eq_true', ← Bool.not_eq_true,
      List.contains_iff_mem, decide_eq_true_iff, List.map_map]
    simp only [List.mem_map, not_exists, not_and]
    rfl

theorem variant_event_mem_events {v : Variant} {e : Declaration} (hv : v ∈ m.variants)
    (he : e ∈ v.event) : e.name ∈ m.events.map (·.name) := by
  rcases variant_cases hv with ⟨s, -, rfl⟩ | ⟨t, ht, rfl⟩
  · cases he
  · cases he
    exact event_mem_events ht

/-- The states that are not terminal are the sources of the rules. -/
theorem mem_nonTerminalStates_iff {name : String} :
    name ∈ m.nonTerminalStates.map (·.name) ↔ ∃ t ∈ m.transitions, t.source.name = name := by
  rw [nonTerminalStates, mem_map_distinctBy, List.map_map, List.mem_map]
  rfl

/-- The states are the terminal ones and the others. -/
theorem mem_states_iff {name : String} :
    name ∈ m.states.map (·.name) ↔
      name ∈ m.terminalStates.map (·.name) ∨ name ∈ m.nonTerminalStates.map (·.name) := by
  by_cases hleft : name ∈ m.nonTerminalStates.map (·.name)
  · obtain ⟨t, ht, rfl⟩ := mem_nonTerminalStates_iff.1 hleft
    exact iff_of_true (source_mem_states ht) (.inr hleft)
  · rw [mem_terminalStates, or_iff_left hleft, and_iff_left hleft]

/-- The derived sets are as they are documented. -/
theorem derived_documented (m : Machine) : m.Documented m.derived where
  machine := rfl
  states := firstMentions_distinctBy _ _
  nonTerminal := firstMentions_distinctBy _ _
  events := firstMentions_distinctBy _ _
  either := by
    intro s hs
    have hname : s.name ∈ m.states.map (·.name) := List.mem_map_of_mem hs
    rcases mem_states_iff.1 hname with hterminal | hleft
    · exact .inl ⟨hterminal, (mem_terminalStates.1 hterminal).2⟩
    · exact .inr ⟨hleft, fun hterminal => (mem_terminalStates.1 hterminal).2 hleft⟩
  together := fun _ => mem_states_iff
  nodup_terminal := (List.nodup_append.1 nodup_groupedNames).1
  nodup_nonTerminal := nodup_map_distinctBy _ _
  terminalOrder := List.filter_sublist
  departs := fun _ => mem_nonTerminalStates_iff
  nodup_tags := nodup_map_distinctBy _ _
  variants := ⟨_, _, variants_split, firstMentions_distinctBy _ _, firstMentions_distinctBy _ _⟩
  stateOfVariant := fun _ hv => variant_state_mem_states hv
  eventOfVariant := fun _ hv _ he => variant_event_mem_events hv he

/-- Which states are terminal, and in which order they stand, follows from the other sets. -/
theorem Documented.terminal_eq {sets : DerivedSets} (hsets : m.Documented sets) :
    sets.terminalStates =
      sets.states.filter fun s => !(sets.nonTerminalStates.map (·.name)).contains s.name := by
  refine eq_of_pairwise_earlier (hsets.states.ordered.sublist hsets.terminalOrder)
    (hsets.states.ordered.sublist List.filter_sublist) fun s => ?_
  rw [List.mem_filter, Bool.not_eq_true', ← Bool.not_eq_true, List.contains_iff_mem]
  constructor
  · intro hs
    have hstate := hsets.terminalOrder.subset hs
    refine ⟨hstate, fun hleft => ?_⟩
    rcases hsets.either s hstate with ⟨-, hnot⟩ | ⟨-, hnot⟩
    · exact hnot hleft
    · exact hnot (List.mem_map_of_mem hs)
  · rintro ⟨hs, hnot⟩
    have hname := ((hsets.together s.name).1 (List.mem_map_of_mem hs)).resolve_right hnot
    obtain ⟨s', hs', hsame⟩ := List.mem_map.1 hname
    exact hsets.states.key_eq_of_mem (hsets.terminalOrder.subset hs') hs hsame ▸ hs'

/-- The derived sets are the documented ones, and only they are. States, events and variants
are first mentions, each state is terminal or not by whether a rule leaves it, and what a variant
refers to is among the states and events; no other sets have all this. -/
theorem eq_derived_iff_documented (m : Machine) (sets : DerivedSets) :
    sets = m.derived ↔ m.Documented sets := by
  constructor
  · rintro rfl
    exact m.derived_documented
  · intro hsets
    have hstates := firstMentions_iff.1 hsets.states
    have hleft := firstMentions_iff.1 hsets.nonTerminal
    have hevents := firstMentions_iff.1 hsets.events
    have hterminal := hsets.terminal_eq
    rw [hstates, hleft] at hterminal
    obtain ⟨starts, rules, hvariants, hstarts, hrules⟩ := hsets.variants
    rw [firstMentions_iff.1 hstarts, firstMentions_iff.1 hrules, ← variants_split] at hvariants
    have hmachine := hsets.machine
    cases sets
    simp only at *
    subst hmachine hstates hleft hevents hterminal hvariants
    rfl

end Machine

end FsmCompiler
