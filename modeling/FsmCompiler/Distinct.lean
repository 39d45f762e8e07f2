/-
# First entries

A list with every entry left out whose key stood before. The order of the first
entries is kept.
-/

namespace FsmCompiler

/-- The first entry of every key, in order. -/
def distinctBy [BEq κ] (key : α → κ) : List α → List α
  | [] => []
  | a :: rest => a :: (distinctBy key rest).filter fun b => key b != key a

/-- Every entry kept was an entry before. -/
theorem mem_of_mem_distinctBy [BEq κ] {key : α → κ} {a : α} {items : List α}
    (hmem : a ∈ distinctBy key items) : a ∈ items := by
  induction items with
  | nil => simp [distinctBy] at hmem
  | cons b rest ih =>
    simp only [distinctBy, List.mem_cons, List.mem_filter] at hmem
    rcases hmem with rfl | ⟨hrest, _⟩
    · simp
    · simp [ih hrest]

end FsmCompiler
