/-
# States that runs can reach

A worklist search from the initial states along the rules. The search keeps the
names reached so far and a stack of those whose rules have not been followed
yet; it ends because every round either takes a name off the stack or reaches a
target for the first time.
-/

import FsmCompiler.Machine.Derived

namespace FsmCompiler.Machine

/-- The targets of the rules that leave `state`, without those in `reached`. -/
def newTargets (m : Machine) (reached : List String) (state : String) : List String :=
  (distinctBy id ((m.transitionsFrom state).map (·.target.name))).filter
    fun name => !reached.contains name

/-- The target names, with repetitions, that are not in `reached`. -/
def unreachedTargets (m : Machine) (reached : List String) : List String :=
  (m.transitions.map (·.target.name)).filter fun name => !reached.contains name

/-- Reaching a new target leaves fewer targets unreached. -/
theorem length_unreachedTargets_lt (m : Machine) (reached : List String) {state : String}
    (hnew : m.newTargets reached state ≠ []) :
    (m.unreachedTargets (reached ++ m.newTargets reached state)).length <
      (m.unreachedTargets reached).length := by
  obtain ⟨name, hname⟩ := List.exists_mem_of_ne_nil _ hnew
  have hsplit : m.unreachedTargets (reached ++ m.newTargets reached state) =
      (m.unreachedTargets reached).filter
        fun name => !(m.newTargets reached state).contains name := by
    simp only [unreachedTargets, List.filter_filter]
    congr 1
    funext other
    simp [List.contains_eq_mem, Bool.and_comm]
  rw [hsplit, List.length_filter_lt_length_iff_exists]
  refine ⟨name, ?_, by simpa using hname⟩
  simp only [newTargets, List.mem_filter] at hname
  obtain ⟨hmem, hfresh⟩ := hname
  have htarget := mem_of_mem_distinctBy hmem
  simp only [List.mem_map, transitionsFrom, List.mem_filter] at htarget
  obtain ⟨t, ⟨ht, _⟩, rfl⟩ := htarget
  exact List.mem_filter.2 ⟨List.mem_map.2 ⟨t, ht, rfl⟩, hfresh⟩

/-- Follow the rules of the states on the stack until it is empty. -/
def explore (m : Machine) (reached stack : List String) : List String :=
  match stack with
  | [] => reached
  | state :: stack =>
    let found := m.newTargets reached state
    m.explore (reached ++ found) (found.reverse ++ stack)
termination_by ((m.unreachedTargets reached).length, stack.length)
decreasing_by
  by_cases hfound : m.newTargets reached state = []
  · simp only [hfound, List.append_nil, List.reverse_nil, List.nil_append]
    exact Prod.Lex.right _ (by simp)
  · exact Prod.Lex.left _ _ (m.length_unreachedTargets_lt reached hfound)

/-- The names reached when the initial names are put on the stack as `start`. -/
def reachedFrom (m : Machine) (start : List String) : List String :=
  m.explore start start

/-- The states that a run can reach, in the order of all states. -/
def reachableStates (m : Machine) : List Declaration :=
  let reached := m.reachedFrom (distinctBy id m.initialNames)
  m.states.filter fun s => reached.contains s.name

end FsmCompiler.Machine
