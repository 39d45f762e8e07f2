/-
# The search for reachable states

The search keeps the names that it has reached and a stack of those whose rules it has not
followed yet. Each round follows the rules of one name, one rule after the other, and pushes what
they reach for the first time. A name is pushed once, so there are as many rounds as names are
reached. What is reached is sound and closed at every round but for what is on the stack; when the
stack is empty it is the least set that has the initial states and that no rule leaves, in
whatever order the initial states were pushed.
-/

import FsmCompiler.Machine.Reachability
import FsmCompiler.Proofs.Validity
import Mathlib.Data.List.Nodup
import Mathlib.Logic.Function.Iterate
import Mathlib.Logic.Relation
import Mathlib.Order.Bounds.Defs

namespace FsmCompiler

open Validation

/-- The doubt is that states are not reached. -/
def Doubt.isUnreachable : Doubt → Bool
  | .unreachable .. => true
  | _ => false

namespace Machine

variable {m : Machine} {reached stack start : List String} {name : String}

/-! ## The search -/

/-- All rules that leave the state lead to states that are reached. -/
def ClosedAt (m : Machine) (reached : List String) (state : String) : Prop :=
  ∀ t ∈ m.transitions, t.source.name = state → t.target.name ∈ reached

theorem ClosedAt.mono {state : String} {more : List String} (hclosed : m.ClosedAt reached state)
    (hmore : reached ⊆ more) : m.ClosedAt more state :=
  fun t ht hsource => hmore (hclosed t ht hsource)

theorem mem_newTargets_iff {state : String} :
    name ∈ m.newTargets reached state ↔
      (∃ t ∈ m.transitions, t.source.name = state ∧ t.target.name = name) ∧ name ∉ reached := by
  simp [newTargets, mem_distinctBy, transitionsFrom, and_assoc]

/-- Behind a round of the search, the rules of its state have been followed. -/
theorem closedAt_newTargets (state : String) :
    m.ClosedAt (reached ++ m.newTargets reached state) state := by
  intro t ht hsource
  by_cases hold : t.target.name ∈ reached
  · exact List.mem_append_left _ hold
  · exact List.mem_append_right _ (mem_newTargets_iff.2 ⟨⟨t, ht, hsource, rfl⟩, hold⟩)

/-- What was reached stays reached, and in the end all rules have been followed. The states
whose rules have not been followed are on the stack. -/
theorem explore_closed (m : Machine) (reached stack : List String)
    (hstack : ∀ state ∈ reached, state ∈ stack ∨ m.ClosedAt reached state) :
    reached ⊆ m.explore reached stack ∧
      ∀ state ∈ m.explore reached stack, m.ClosedAt (m.explore reached stack) state := by
  fun_induction explore m reached stack with
  | case1 reached => exact ⟨fun _ h => h, fun state h => (hstack state h).resolve_left (by simp)⟩
  | case2 reached state stack found ih =>
    have hnext : ∀ other ∈ reached ++ found, other ∈ found.reverse ++ stack ∨
        m.ClosedAt (reached ++ found) other := by
      intro other hother
      rcases List.mem_append.1 hother with hother | hother
      · rcases hstack other hother with hother | hclosed
        · rcases List.mem_cons.1 hother with rfl | hother
          · exact .inr (closedAt_newTargets _)
          · exact .inl (List.mem_append_right _ hother)
        · exact .inr (hclosed.mono (List.subset_append_left _ _))
      · exact .inl (List.mem_append_left _ (List.mem_reverse.2 hother))
    obtain ⟨hsubset, hclosed⟩ := ih hnext
    exact ⟨fun other hother => hsubset (List.mem_append_left _ hother), hclosed⟩

/-- The search goes nowhere but along rules. -/
theorem explore_sound {P : String → Prop}
    (hrule : ∀ t ∈ m.transitions, P t.source.name → P t.target.name)
    (hreached : ∀ state ∈ reached, P state) (hstack : ∀ state ∈ stack, P state) :
    ∀ state ∈ m.explore reached stack, P state := by
  fun_induction explore m reached stack with
  | case1 reached => exact hreached
  | case2 reached state stack found ih =>
    have hfound : ∀ other ∈ found, P other := by
      intro other hother
      obtain ⟨⟨t, ht, hsource, rfl⟩, -⟩ := mem_newTargets_iff.1 hother
      exact hrule t ht (hsource ▸ hstack state List.mem_cons_self)
    apply ih
    · exact fun other hother => (List.mem_append.1 hother).elim (hreached other) (hfound other)
    · intro other hother
      rcases List.mem_append.1 hother with hother | hother
      · exact hfound other (List.mem_reverse.1 hother)
      · exact hstack other (List.mem_cons_of_mem _ hother)

/-! ## Rounds -/

/-- What a search has reached, and of which names the rules are still to be followed. -/
structure Search where
  reached : List String
  stack : List String
  deriving DecidableEq, Repr

/-- Follow one rule. -/
def Search.visit (search : Search) (t : Transition) : Search :=
  if search.reached.contains t.target.name then search
  else ⟨search.reached ++ [t.target.name], t.target.name :: search.stack⟩

/-- Follow the rules of the name on top of the stack. Without one, the search is over. -/
def round (m : Machine) : Search → Search
  | ⟨reached, []⟩ => ⟨reached, []⟩
  | ⟨reached, state :: stack⟩ => (m.transitionsFrom state).foldl Search.visit ⟨reached, stack⟩

/-- Rules that are followed one after the other reach their new targets, once each. -/
theorem foldl_visit (rules : List Transition) :
    rules.foldl Search.visit ⟨reached, stack⟩ =
      let found := (distinctBy id (rules.map (·.target.name))).filter
        fun name => !reached.contains name
      ⟨reached ++ found, found.reverse ++ stack⟩ := by
  induction rules using List.reverseRecOn with
  | nil => simp [distinctBy]
  | append_singleton rules t ih =>
    rw [List.foldl_append, ih, List.foldl_cons, List.foldl_nil, Search.visit, List.map_append,
      List.map_singleton, distinctBy_append_singleton, List.map_id, id]
    by_cases hagain : t.target.name ∈ rules.map (·.target.name)
    · have hthere : t.target.name ∈ reached ++ (distinctBy id (rules.map (·.target.name))).filter
          fun name => !reached.contains name := by
        by_cases hold : t.target.name ∈ reached
        · exact List.mem_append_left _ hold
        · exact List.mem_append_right _
            (List.mem_filter.2 ⟨mem_distinctBy.2 hagain, by simpa using hold⟩)
      rw [if_pos hagain, if_pos (List.contains_iff_mem.2 hthere)]
    · rw [if_neg hagain, List.filter_append]
      by_cases hold : t.target.name ∈ reached
      · simp [hold]
      · simp [hold, mem_distinctBy, -List.mem_map, hagain]

theorem round_cons (state : String) :
    m.round ⟨reached, state :: stack⟩ =
      ⟨reached ++ m.newTargets reached state, (m.newTargets reached state).reverse ++ stack⟩ :=
  foldl_visit (m.transitionsFrom state)

/-- The rounds of a search come to what exploring makes of it. Every round takes one name off the
stack, and every name that is reached was put there. -/
theorem rounds_explore (m : Machine) (reached stack : List String) :
    ∃ rounds, m.round^[rounds] ⟨reached, stack⟩ = ⟨m.explore reached stack, []⟩ ∧
      rounds + reached.length = stack.length + (m.explore reached stack).length := by
  fun_induction explore m reached stack with
  | case1 reached => exact ⟨0, rfl, rfl⟩
  | case2 reached state stack found ih =>
    obtain ⟨rounds, hrounds, hlength⟩ := ih
    refine ⟨rounds + 1, ?_, ?_⟩
    · rw [Function.iterate_succ_apply, round_cons]
      exact hrounds
    · simp only [List.length_append, List.length_reverse, List.length_cons] at hlength ⊢
      omega

/-- Nothing is reached twice. -/
theorem nodup_explore (hreached : reached.Nodup) : (m.explore reached stack).Nodup := by
  fun_induction explore m reached stack with
  | case1 reached => exact hreached
  | case2 reached state stack found ih =>
    apply ih
    refine List.nodup_append.2 ⟨hreached, ?_, ?_⟩
    · exact List.Nodup.filter _ (by simpa using nodup_map_distinctBy id _)
    · rintro name hname _ hfound rfl
      exact (mem_newTargets_iff.1 hfound).2 hname

/-! ## Chains of rules -/

/-- A rule leads from one state to the other. -/
def LeadsTo (m : Machine) (source target : String) : Prop :=
  ∃ t ∈ m.transitions, t.source.name = source ∧ t.target.name = target

/-- The search reaches the ends of the chains of rules that begin at an initial state, in
whatever order the initial states are pushed. -/
theorem mem_reachedFrom_iff (hstart : ∀ name, name ∈ start ↔ name ∈ m.initialNames) :
    name ∈ m.reachedFrom start ↔
      ∃ s ∈ m.initialStates, Relation.ReflTransGen m.LeadsTo s.name name := by
  obtain ⟨hsubset, hclosed⟩ := m.explore_closed start start fun state h => .inl h
  constructor
  · have hinitial : ∀ state ∈ start,
        ∃ s ∈ m.initialStates, Relation.ReflTransGen m.LeadsTo s.name state := by
      intro state hstate
      obtain ⟨s, hs, rfl⟩ := List.mem_map.1 ((hstart state).1 hstate)
      exact ⟨s, hs, .refl⟩
    refine explore_sound (fun t ht hsource => ?_) hinitial hinitial name
    obtain ⟨s, hs, hchain⟩ := hsource
    exact ⟨s, hs, hchain.tail ⟨t, ht, rfl, rfl⟩⟩
  · rintro ⟨s, hs, hchain⟩
    induction hchain with
    | refl => exact hsubset ((hstart _).2 (List.mem_map_of_mem hs))
    | tail _ hrule ih =>
      obtain ⟨t, ht, rfl, rfl⟩ := hrule
      exact hclosed _ ih t ht rfl

/-- The states of the machine among those that the search reaches from `start`. -/
def statesFrom (m : Machine) (start : List String) : List Declaration :=
  m.states.filter fun s => (m.reachedFrom start).contains s.name

/-- No name is reached that is not among those of the states. -/
theorem mem_map_statesFrom (hstart : ∀ name, name ∈ start ↔ name ∈ m.initialNames) :
    name ∈ (m.statesFrom start).map (·.name) ↔ name ∈ m.reachedFrom start := by
  simp only [statesFrom, List.mem_map, List.mem_filter, List.contains_iff_mem]
  constructor
  · rintro ⟨s, ⟨-, hreached⟩, rfl⟩
    exact hreached
  · intro hreached
    obtain ⟨s, hs, hchain⟩ := (mem_reachedFrom_iff hstart).1 hreached
    have hstate : name ∈ m.states.map (·.name) := by
      cases hchain with
      | refl => exact initial_mem_states (List.mem_map_of_mem hs)
      | tail _ hrule =>
        obtain ⟨t, ht, -, rfl⟩ := hrule
        exact target_mem_states ht
    obtain ⟨d, hd, rfl⟩ := List.mem_map.1 hstate
    exact ⟨d, ⟨hd, hreached⟩, rfl⟩

theorem mem_reachableStates_iff_chain :
    name ∈ m.reachableStates.map (·.name) ↔
      ∃ s ∈ m.initialStates, Relation.ReflTransGen m.LeadsTo s.name name := by
  have hstart : ∀ name, name ∈ distinctBy id m.initialNames ↔ name ∈ m.initialNames :=
    fun _ => mem_distinctBy
  exact (mem_map_statesFrom hstart).trans (mem_reachedFrom_iff hstart)

/-- The order in which the initial states are pushed makes no difference. -/
theorem statesFrom_eq (hstart : ∀ name, name ∈ start ↔ name ∈ m.initialNames) :
    m.statesFrom start = m.reachableStates := by
  refine List.filter_congr fun s _ => ?_
  rw [Bool.eq_iff_iff, List.contains_iff_mem, List.contains_iff_mem, mem_reachedFrom_iff hstart,
    mem_reachedFrom_iff fun _ => mem_distinctBy]

theorem nodup_names_reachableStates : (m.reachableStates.map (·.name)).Nodup :=
  (nodup_map_distinctBy _ m.mentionedStates).sublist (List.filter_sublist.map _)

/-- As many names are reached as there are states found. -/
theorem length_reachedFrom (hnodup : start.Nodup)
    (hstart : ∀ name, name ∈ start ↔ name ∈ m.initialNames) :
    (m.reachedFrom start).length = m.reachableStates.length := by
  have hperm : (m.reachedFrom start).Perm (m.reachableStates.map (·.name)) := by
    refine (List.perm_ext_iff_of_nodup (nodup_explore hnodup) nodup_names_reachableStates).2 ?_
    intro name
    rw [← statesFrom_eq hstart, mem_map_statesFrom hstart]
    rfl
  rw [hperm.length_eq, List.length_map]

theorem reachableStates_eq_nil_iff : m.reachableStates = [] ↔ m.initialStates = [] := by
  constructor
  · intro hnone
    refine List.eq_nil_iff_forall_not_mem.2 fun s hs => ?_
    have hreached := mem_reachableStates_iff_chain.2 ⟨s, hs, .refl⟩
    simp [hnone] at hreached
  · intro hnone
    refine List.eq_nil_iff_forall_not_mem.2 fun d hd => ?_
    obtain ⟨s, hs, -⟩ := mem_reachableStates_iff_chain.1 (List.mem_map_of_mem hd)
    simp [hnone] at hs

/-- The names include the initial states, and no rule leaves them. -/
def ClosedUnderRules (m : Machine) (names : Set String) : Prop :=
  (∀ s ∈ m.initialStates, s.name ∈ names) ∧
    ∀ t ∈ m.transitions, t.source.name ∈ names → t.target.name ∈ names

/-- The names that are reached are the least such names. -/
theorem isLeast_reachable :
    IsLeast {names | m.ClosedUnderRules names}
      {name | name ∈ m.reachableStates.map (·.name)} := by
  constructor
  · constructor
    · intro s hs
      exact mem_reachableStates_iff_chain.2 ⟨s, hs, .refl⟩
    · intro t ht hsource
      obtain ⟨s, hs, hchain⟩ := mem_reachableStates_iff_chain.1 hsource
      exact mem_reachableStates_iff_chain.2 ⟨s, hs, hchain.tail ⟨t, ht, rfl, rfl⟩⟩
  · intro names hclosed name hname
    obtain ⟨s, hs, hchain⟩ := mem_reachableStates_iff_chain.1 hname
    clear hname
    induction hchain with
    | refl => exact hclosed.1 s hs
    | tail _ hrule ih =>
      obtain ⟨t, ht, rfl, rfl⟩ := hrule
      exact hclosed.2 t ht ih

/-! ## The doubt about what is not reached -/

/-- The states that are not reached are the others. -/
theorem unreachableStates_eq :
    m.unreachableStates = (m.states.filter (· ∉ m.reachableStates)).map (·.name) := by
  rw [unreachableStates, List.filter_map]
  congr 1
  refine List.filter_congr fun s hs => ?_
  have hfound : s ∈ m.reachableStates ↔ s.name ∈ m.reachableStates.map (·.name) := by
    refine ⟨List.mem_map_of_mem, fun hname => ?_⟩
    obtain ⟨d, hd, hsame⟩ := List.mem_map.1 hname
    exact eq_of_mem_distinctBy (List.mem_of_mem_filter hd) hs hsame ▸ hd
  rw [Bool.eq_iff_iff, Function.comp_apply, Bool.not_eq_true', ← Bool.not_eq_true,
    List.contains_iff_mem, decide_eq_true_iff, hfound]

/-- Repeated rules are no doubt about what is reached. -/
theorem filter_repeatedFrom (earlier : List (String × String × String))
    (rules : List Transition) :
    (repeatedFrom earlier rules).filter (·.cause.isUnreachable) = [] := by
  induction rules generalizing earlier with
  | nil => rfl
  | cons t rest ih =>
    rw [repeatedFrom, List.filter_append, ih, List.append_nil]
    split <;> rfl

/-- The doubt is raised once if the machine starts somewhere and some state is not reached. -/
theorem filter_structureDoubts :
    m.structureDoubts.filter (·.cause.isUnreachable) =
      if m.initialStates = [] ∨ m.states.filter (· ∉ m.reachableStates) = [] then []
      else [⟨none, .unreachable m.name
        ((m.states.filter (· ∉ m.reachableStates)).map (·.name))⟩] := by
  rw [structureDoubts, List.filter_append, filter_repeatedFrom, List.append_nil, reachDoubts,
    unreachableStates_eq]
  generalize m.states.filter (· ∉ m.reachableStates) = rest
  by_cases hinitial : m.initialStates = []
  · simp [hinitial, found, Doubt.isUnreachable]
  · cases rest with
    | nil => simp [hinitial, found]
    | cons s rest => simp [hinitial, found, Doubt.isUnreachable]

/-! ## All in all -/

/-- What is to be said of the search whose stack is `start`, and of what it finds. -/
structure SearchedFrom (m : Machine) (start : List String) : Prop where
  /-- It takes as many rounds as it finds states. -/
  ends : m.round^[m.reachableStates.length] ⟨start, start⟩ = ⟨m.reachedFrom start, []⟩
  same : m.statesFrom start = m.reachableStates
  ordered : m.reachableStates.Sublist m.states
  nodup : (m.reachableStates.map (·.name)).Nodup
  chain : ∀ name, name ∈ m.reachableStates.map (·.name) ↔
    ∃ s ∈ m.initialStates, Relation.ReflTransGen m.LeadsTo s.name name
  least : IsLeast {names | m.ClosedUnderRules names}
    {name | name ∈ m.reachableStates.map (·.name)}
  empty : m.reachableStates = [] ↔ m.initialStates = []
  doubt : m.structureDoubts.filter (·.cause.isUnreachable) =
    if m.initialStates = [] ∨ m.states.filter (· ∉ m.reachableStates) = [] then []
    else [⟨none, .unreachable m.name ((m.states.filter (· ∉ m.reachableStates)).map (·.name))⟩]

/-- The search finds the least fixed point. In whatever order the initial states are pushed,
the search ends, and it finds the states where chains of rules lead that begin at them. The doubt
about the others names them all. -/
theorem searchedFrom_of_initial (m : Machine) {start : List String} (hnodup : start.Nodup)
    (hstart : ∀ name, name ∈ start ↔ name ∈ m.initialNames) : m.SearchedFrom start where
  ends := by
    obtain ⟨rounds, hrounds, hlength⟩ := m.rounds_explore start start
    have hcount : rounds = m.reachableStates.length := by
      rw [← length_reachedFrom hnodup hstart, reachedFrom]
      omega
    exact hcount ▸ hrounds
  same := statesFrom_eq hstart
  ordered := List.filter_sublist
  nodup := nodup_names_reachableStates
  chain := fun _ => mem_reachableStates_iff_chain
  least := isLeast_reachable
  empty := reachableStates_eq_nil_iff
  doubt := filter_structureDoubts

/-- A machine with a loop, a cycle, a rule and an initial state that are declared twice, and a
state that is not reached. -/
def turningBack : Machine where
  name := "TurningBack"
  transitions := [
    ⟨⟨"Stay", none⟩, ⟨"A", none⟩, ⟨"A", none⟩, none⟩,
    ⟨⟨"Go", none⟩, ⟨"A", none⟩, ⟨"B", none⟩, none⟩,
    ⟨⟨"Go", none⟩, ⟨"A", none⟩, ⟨"B", none⟩, none⟩,
    ⟨⟨"Back", none⟩, ⟨"B", none⟩, ⟨"A", none⟩, none⟩,
    ⟨⟨"Leave", none⟩, ⟨"D", none⟩, ⟨"C", none⟩, none⟩]
  initialStates := [⟨"A", none⟩, ⟨"C", none⟩, ⟨"A", none⟩]
  guardResources := []
  actionResources := []
  loc := none

theorem searchedFrom_turningBack :
    ["C", "A"].Nodup ∧ (∀ name, name ∈ ["C", "A"] ↔ name ∈ turningBack.initialNames) ∧
      turningBack.SearchedFrom ["C", "A"] := by
  have hstart : ∀ name, name ∈ ["C", "A"] ↔ name ∈ turningBack.initialNames := by
    simp [turningBack, initialNames, or_comm]
  exact ⟨by decide, hstart, searchedFrom_of_initial turningBack (by decide) hstart⟩

end Machine

end FsmCompiler
