/-
# One arm for each variant

The dispatch table regroups the variants by their states, the terminal states first. Each
state is in one of the two lists of states, and once, so regrouping neither loses a variant
nor repeats one, whatever is declared twice or shares a tag. What an arm does depends on its
state alone: where no rule leaves it the variant stays, and elsewhere all rules that leave it
are tried, in the order in which they are declared.
-/

import FsmCompiler.Machine.Dispatch
import FsmCompiler.Proofs.Validity
import Mathlib.Data.List.Nodup

namespace FsmCompiler

/-! ## Regrouping -/

/-- Items grouped by their keys stand in the order of the keys, and within one key in their
own. -/
theorem pairwise_flatMap_filter [BEq κ] [LawfulBEq κ] (key : α → κ) (keys : List κ)
    (items : List α) :
    (keys.flatMap fun k => items.filter (key · == k)).Pairwise fun a b =>
      [key a, key b].Sublist keys ∨ key a = key b ∧ [a, b].Sublist items := by
  apply List.pairwise_flatMap.2
  constructor
  · intro k _
    apply List.pairwise_iff_forall_sublist.2
    intro a b horder
    have hkey : ∀ c ∈ [a, b], key c = k := by
      intro c hc
      exact beq_iff_eq.1 (List.mem_filter.1 (horder.subset hc)).2
    right
    exact ⟨(hkey a (by simp)).trans (hkey b (by simp)).symm,
      horder.trans List.filter_sublist⟩
  · apply List.pairwise_iff_forall_sublist.2
    intro k k' horder a ha b hb
    left
    rw [beq_iff_eq.1 (List.mem_filter.1 ha).2, beq_iff_eq.1 (List.mem_filter.1 hb).2]
    exact horder

namespace Machine

variable {m : Machine} {name : String}

/-! ## Terminal and other states -/

/-- The states that are not terminal are those that some rule leaves. -/
theorem mem_nonTerminalStates :
    name ∈ m.nonTerminalStates.map (·.name) ↔ m.transitionsFrom name ≠ [] := by
  rw [nonTerminalStates, mem_map_distinctBy, List.map_map, List.mem_map, transitionsFrom,
    Ne, List.filter_eq_nil_iff]
  simp

/-- The terminal states are the states that no rule leaves. -/
theorem mem_terminalStates :
    name ∈ m.terminalStates.map (·.name) ↔
      name ∈ m.states.map (·.name) ∧ name ∉ m.nonTerminalStates.map (·.name) := by
  simp only [terminalStates, List.mem_map, List.mem_filter, Bool.not_eq_true',
    List.contains_eq_mem, decide_eq_false_iff_not]
  constructor
  · rintro ⟨s, ⟨hs, hleft⟩, rfl⟩
    exact ⟨⟨s, hs, rfl⟩, hleft⟩
  · rintro ⟨⟨s, hs, rfl⟩, hleft⟩
    exact ⟨s, ⟨hs, hleft⟩, rfl⟩

/-- The names of the states in the order of the dispatch table: first the terminal ones. -/
def groupedNames (m : Machine) : List String :=
  m.terminalStates.map (·.name) ++ m.nonTerminalStates.map (·.name)

theorem nodup_groupedNames : m.groupedNames.Nodup := by
  apply List.nodup_append.2
  refine ⟨?_, nodup_map_distinctBy _ _, ?_⟩
  · exact (nodup_map_distinctBy _ m.mentionedStates).sublist (List.filter_sublist.map _)
  · rintro name hterminal _ hleft rfl
    exact (mem_terminalStates.1 hterminal).2 hleft

theorem state_mem_groupedNames {v : Variant} (hv : v ∈ m.variants) :
    v.state.name ∈ m.groupedNames := by
  by_cases hleft : v.state.name ∈ m.nonTerminalStates.map (·.name)
  · exact List.mem_append_right _ hleft
  · exact List.mem_append_left _ (mem_terminalStates.2 ⟨variant_state_mem_states hv, hleft⟩)

/-! ## The variants of the arms -/

theorem map_variant_arms :
    m.arms.map (·.variant) = m.groupedNames.flatMap m.variantsOf := by
  have hgroup : ∀ (response : Declaration → Response) (states : List Declaration),
      (states.flatMap fun s =>
        (m.variantsOf s.name).map fun v => Arm.mk v (response s)).map (·.variant) =
          (states.map (·.name)).flatMap m.variantsOf := by
    intro response states
    simp only [List.map_flatMap, List.flatMap_map, List.map_map, Function.comp_def, List.map_id']
  rw [groupedNames, List.flatMap_append, ← hgroup fun _ => .stay,
    ← hgroup fun s => .fireFirst (m.chainFrom s.name), ← List.map_append]
  rfl

theorem nodup_variants : m.variants.Nodup :=
  (nodup_map_distinctBy Variant.tag _).of_map

/-- Regrouping loses and repeats no variant. -/
theorem perm_variants_arms : (m.arms.map (·.variant)).Perm m.variants := by
  rw [map_variant_arms]
  have hnodup : (m.groupedNames.flatMap m.variantsOf).Nodup := by
    apply List.nodup_flatMap.2
    refine ⟨fun _ _ => nodup_variants.filter _, nodup_groupedNames.imp ?_⟩
    intro first second hne v hfirst hsecond
    apply hne
    rw [← beq_iff_eq.1 (List.mem_filter.1 hfirst).2, beq_iff_eq.1 (List.mem_filter.1 hsecond).2]
  apply (List.perm_ext_iff_of_nodup hnodup nodup_variants).2
  intro v
  rw [List.mem_flatMap]
  constructor
  · rintro ⟨_, _, hv⟩
    exact (List.mem_filter.1 hv).1
  · intro hv
    exact ⟨v.state.name, state_mem_groupedNames hv, List.mem_filter.2 ⟨hv, beq_self_eq_true _⟩⟩

/-- Which of two variants comes first in the dispatch table: terminal states come before all
others, the states of either group stand in their order, and the variants of a state in
theirs. -/
inductive Precedes (m : Machine) (v w : Variant) : Prop
  | group (hv : v.state.name ∈ m.terminalStates.map (·.name))
      (hw : w.state.name ∉ m.terminalStates.map (·.name))
  | terminal (horder : [v.state.name, w.state.name].Sublist (m.terminalStates.map (·.name)))
  | nonTerminal (horder : [v.state.name, w.state.name].Sublist (m.nonTerminalStates.map (·.name)))
  | variant (hstate : v.state.name = w.state.name) (horder : [v, w].Sublist m.variants)

theorem precedes_of_sublist {v w : Variant}
    (horder : [v.state.name, w.state.name].Sublist m.groupedNames) : m.Precedes v w := by
  obtain ⟨first, second, hsplit, hfirst, hsecond⟩ := List.sublist_append_iff.1 horder
  match first, second, hsplit with
  | [], _, rfl => exact .nonTerminal hsecond
  | [_], [_], rfl =>
    have hw := List.singleton_sublist.1 hsecond
    exact .group (List.singleton_sublist.1 hfirst) fun hterminal =>
      (mem_terminalStates.1 hterminal).2 hw
  | [_, _], [], rfl => exact .terminal hfirst

/-- The arms stand in order. -/
theorem pairwise_arms : m.arms.Pairwise fun a b => m.Precedes a.variant b.variant := by
  apply List.pairwise_map.1
  rw [map_variant_arms]
  apply (pairwise_flatMap_filter (·.state.name) m.groupedNames m.variants).imp
  rintro v w (hstates | ⟨hstate, hvariants⟩)
  · exact precedes_of_sublist hstates
  · exact .variant hstate hvariants

/-! ## The responses of the arms -/

/-- What to do in a state: to stay where no rule leaves it, and elsewhere to try them all. -/
def responseIn (m : Machine) (state : String) : Response :=
  if m.transitionsFrom state = [] then .stay else .fireFirst (m.chainFrom state)

theorem chain_responseIn : (m.responseIn name).chain = m.chainFrom name := by
  unfold responseIn
  split
  · rename_i hnone
    rw [chainFrom, hnone]
    rfl
  · rfl

/-- The arms are those of the variants, each with the response of its state. -/
theorem mem_arms_iff {arm : Arm} :
    arm ∈ m.arms ↔
      arm.variant ∈ m.variants ∧ arm.response = m.responseIn arm.variant.state.name := by
  have hresponse : ∀ arm ∈ m.arms, arm.response = m.responseIn arm.variant.state.name := by
    intro arm harm
    rcases List.mem_append.1 harm with harm | harm
    · obtain ⟨s, hs, harm⟩ := List.mem_flatMap.1 harm
      obtain ⟨w, hw, rfl⟩ := List.mem_map.1 harm
      have hnone := (mem_terminalStates.1 (List.mem_map.2 ⟨s, hs, rfl⟩)).2
      rw [mem_nonTerminalStates, not_not] at hnone
      rw [beq_iff_eq.1 (List.mem_filter.1 hw).2, responseIn, if_pos hnone]
    · obtain ⟨s, hs, harm⟩ := List.mem_flatMap.1 harm
      obtain ⟨w, hw, rfl⟩ := List.mem_map.1 harm
      have hsome := mem_nonTerminalStates.1 (List.mem_map.2 ⟨s, hs, rfl⟩)
      rw [beq_iff_eq.1 (List.mem_filter.1 hw).2, responseIn, if_neg hsome]
  constructor
  · intro harm
    exact ⟨perm_variants_arms.subset (List.mem_map.2 ⟨arm, harm, rfl⟩), hresponse arm harm⟩
  · rintro ⟨hvariant, hsame⟩
    obtain ⟨other, hother, heq⟩ := List.mem_map.1 (perm_variants_arms.symm.subset hvariant)
    have hboth : other = arm := by
      cases other
      cases arm
      cases heq
      exact congrArg _ ((hresponse _ hother).trans hsame.symm)
    exact hboth ▸ hother

/-- An arm tries the rules that leave the state of its variant. -/
theorem arm_of_mem {arm : Arm} (harm : arm ∈ m.arms) :
    arm.variant ∈ m.variants ∧ arm.response.chain = m.chainFrom arm.variant.state.name := by
  obtain ⟨hvariant, hresponse⟩ := mem_arms_iff.1 harm
  exact ⟨hvariant, hresponse ▸ chain_responseIn⟩

/-- Every variant has an arm. -/
theorem exists_arm {w : Variant} (hw : w ∈ m.variants) : ∃ arm ∈ m.arms, arm.variant = w :=
  ⟨⟨w, m.responseIn w.state.name⟩, mem_arms_iff.2 ⟨hw, rfl⟩, rfl⟩

/-- An arm does what its state asks for: it stays, with nothing to try, exactly if no rule
leaves the state, and otherwise it tries the events and targets of all rules that do, in
declaration order and as often as they are declared. -/
structure Suits (m : Machine) (arm : Arm) : Prop where
  stays : arm.response = .stay ∧ arm.response.chain = [] ↔
    ∀ t ∈ m.transitions, t.source.name ≠ arm.variant.state.name
  fires : (∃ t ∈ m.transitions, t.source.name = arm.variant.state.name) →
    ∃ chain, arm.response = .fireFirst chain ∧ chain ≠ [] ∧
      chain = (m.transitions.filter (·.source.name == arm.variant.state.name)).map
        fun t => ⟨t.event, t.target⟩

theorem suits_of_responseIn {arm : Arm}
    (hresponse : arm.response = m.responseIn arm.variant.state.name) : m.Suits arm := by
  have hnone : m.transitionsFrom arm.variant.state.name = [] ↔
      ∀ t ∈ m.transitions, t.source.name ≠ arm.variant.state.name := by
    simp [transitionsFrom]
  constructor
  case stays =>
    rw [← hnone, hresponse]
    by_cases hempty : m.transitionsFrom arm.variant.state.name = []
    · simp [responseIn, hempty, Response.chain]
    · simp [responseIn, hempty]
  case fires =>
    rintro ⟨t, ht, hsource⟩
    have hsome : m.transitionsFrom arm.variant.state.name ≠ [] :=
      fun hempty => hnone.1 hempty t ht hsource
    refine ⟨m.chainFrom arm.variant.state.name, ?_, ?_, rfl⟩
    · rw [hresponse, responseIn, if_neg hsome]
    · simpa [chainFrom] using hsome

/-- Each variant has one arm, of the right kind. The arms carry exactly the variants, each
once, and no two of one tag; they stand in the order of their states and variants, those of
terminal states first; and each does what its state asks for. -/
theorem arms_suit_variants (m : Machine) :
    (m.arms.map (·.variant)).Perm m.variants ∧ (m.arms.map (·.variant.tag)).Nodup ∧
      m.arms.Pairwise (fun a b => m.Precedes a.variant b.variant) ∧
      ∀ arm ∈ m.arms, m.Suits arm := by
  refine ⟨perm_variants_arms, ?_, pairwise_arms, ?_⟩
  · have htags := (perm_variants_arms (m := m)).map (·.tag)
    rw [List.map_map] at htags
    exact htags.nodup_iff.2 (nodup_map_distinctBy _ _)
  · intro arm harm
    exact suits_of_responseIn (mem_arms_iff.1 harm).2

end Machine

end FsmCompiler
