/-
# What tables hold

Which value a table has under a key after entries were stored one after the other,
and in which order its keys stand. First entries of a list are described beside it,
since the keys of a table are the first entries of all keys that were stored.
-/

import FsmCompiler.Distinct
import FsmCompiler.Table
import Mathlib.Data.List.Basic
import Mathlib.Data.List.Induction

namespace FsmCompiler

/-! ## First entries -/

section Distinct

variable [BEq κ] [LawfulBEq κ] {key : α → κ} {items : List α}

/-- No key comes twice. -/
theorem pairwise_distinctBy (key : α → κ) (items : List α) :
    (distinctBy key items).Pairwise fun a b => key a ≠ key b := by
  induction items with
  | nil => exact .nil
  | cons a rest ih =>
    refine .cons (fun b hmem => ?_) (ih.filter _)
    have hne : key b ≠ key a := by simpa using (List.mem_filter.1 hmem).2
    exact hne.symm

theorem nodup_map_distinctBy (key : α → κ) (items : List α) :
    ((distinctBy key items).map key).Nodup :=
  List.pairwise_map.2 (pairwise_distinctBy key items)

/-- Every key comes. -/
theorem exists_mem_distinctBy (key : α → κ) {a : α} (hmem : a ∈ items) :
    ∃ b ∈ distinctBy key items, key b = key a := by
  induction items with
  | nil => cases hmem
  | cons first rest ih =>
    by_cases hfirst : key first = key a
    · exact ⟨first, by simp [distinctBy], hfirst⟩
    · rcases List.mem_cons.1 hmem with rfl | hrest
      · exact absurd rfl hfirst
      · obtain ⟨b, hb, hkey⟩ := ih hrest
        refine ⟨b, List.mem_cons.2 (.inr (List.mem_filter.2 ⟨hb, ?_⟩)), hkey⟩
        rw [bne_iff_ne, hkey]
        exact Ne.symm hfirst

theorem mem_map_distinctBy {k : κ} :
    k ∈ (distinctBy key items).map key ↔ k ∈ items.map key := by
  simp only [List.mem_map]
  constructor
  · rintro ⟨a, hmem, rfl⟩
    exact ⟨a, mem_of_mem_distinctBy hmem, rfl⟩
  · rintro ⟨a, hmem, rfl⟩
    exact exists_mem_distinctBy key hmem

theorem mem_distinctBy {k : κ} {keys : List κ} : k ∈ distinctBy id keys ↔ k ∈ keys := by
  have hmem : k ∈ (distinctBy id keys).map id ↔ k ∈ keys.map id := mem_map_distinctBy
  simpa using hmem

/-- A last item is kept if its key is new. -/
theorem distinctBy_append_singleton (key : α → κ) (items : List α) (a : α) :
    distinctBy key (items ++ [a]) =
      if key a ∈ items.map key then distinctBy key items else distinctBy key items ++ [a] := by
  induction items with
  | nil => simp [distinctBy]
  | cons first rest ih =>
    rw [List.cons_append, distinctBy, ih, List.map_cons, distinctBy]
    by_cases hmem : key a ∈ rest.map key
    · rw [if_pos hmem, if_pos (List.mem_cons_of_mem _ hmem)]
    · rw [if_neg hmem, List.filter_append]
      by_cases hfirst : key a = key first
      · simp [hfirst]
      · simp [hfirst, List.mem_cons, hmem]

omit [LawfulBEq κ] in
/-- Leaving repetitions out of a mapped list leaves them out of the list. -/
theorem distinctBy_map (key : β → κ) (g : α → β) (items : List α) :
    distinctBy key (items.map g) = (distinctBy (fun a => key (g a)) items).map g := by
  induction items with
  | nil => rfl
  | cons a rest ih =>
    rw [List.map_cons, distinctBy, distinctBy, List.map_cons, ih, List.filter_map]
    rfl

/-- Keys that agree on which items are alike keep the same items. -/
theorem distinctBy_congr [BEq ι] [LawfulBEq ι] {key' : α → ι}
    (hsame : ∀ a ∈ items, ∀ b ∈ items, key a = key b ↔ key' a = key' b) :
    distinctBy key items = distinctBy key' items := by
  induction items with
  | nil => rfl
  | cons first rest ih =>
    rw [distinctBy, distinctBy, ih fun a ha b hb => hsame a (by simp [ha]) b (by simp [hb])]
    congr 1
    apply List.filter_congr
    intro a ha
    have hfirst := hsame a (by simp [mem_of_mem_distinctBy ha]) first (by simp)
    rw [Bool.eq_iff_iff, bne_iff_ne, bne_iff_ne]
    exact not_congr hfirst

/-- Items with some of the keys may be left out before or behind leaving repetitions out. -/
theorem filter_distinctBy (p : κ → Bool) (key : α → κ) (items : List α) :
    (distinctBy key items).filter (fun a => p (key a)) =
      distinctBy key (items.filter fun a => p (key a)) := by
  induction items with
  | nil => rfl
  | cons a rest ih =>
    rw [distinctBy, List.filter_cons, List.filter_cons, List.filter_filter]
    cases hp : p (key a) with
    | true =>
      rw [if_pos rfl, if_pos rfl, distinctBy, ← ih, List.filter_filter]
      congr 1
      exact List.filter_congr fun b _ => Bool.and_comm _ _
    | false =>
      rw [if_neg (by simp), if_neg (by simp), ← ih]
      refine List.filter_congr fun b _ => ?_
      by_cases hkey : key b = key a
      · simp [hkey, hp]
      · simp [hkey]

/-- Of two lists, the second adds the keys that the first has not. -/
theorem distinctBy_append (key : α → κ) (items others : List α) :
    distinctBy key (items ++ others) =
      distinctBy key items ++
        distinctBy key (others.filter fun a => !(items.map key).contains (key a)) := by
  induction items with
  | nil => simp [distinctBy]
  | cons a rest ih =>
    rw [List.cons_append, distinctBy, ih, List.filter_append, distinctBy, List.cons_append,
      filter_distinctBy (· != key a) key (others.filter _), List.filter_filter]
    congr 3
    refine List.filter_congr fun b _ => ?_
    rw [List.map_cons, List.contains_cons, Bool.not_or]
    rfl

/-- A first entry is determined by its key. -/
theorem eq_of_mem_distinctBy {a b : α} (ha : a ∈ distinctBy key items)
    (hb : b ∈ distinctBy key items) (hkey : key a = key b) : a = b := by
  have hpairwise := pairwise_distinctBy key items
  generalize distinctBy key items = kept at ha hb hpairwise
  induction hpairwise with
  | nil => cases ha
  | cons hfirst _ ih =>
    rcases List.mem_cons.1 ha with rfl | ha'
    · rcases List.mem_cons.1 hb with rfl | hb'
      · rfl
      · exact absurd hkey (hfirst b hb')
    · rcases List.mem_cons.1 hb with rfl | hb'
      · exact absurd hkey.symm (hfirst a ha')
      · exact ih ha' hb'

/-- An injective choice from a list may be made before or behind leaving repetitions
out. -/
theorem filterMap_distinctBy [BEq ι] [LawfulBEq ι] {choose : κ → Option ι} {items : List κ}
    (hinjective : ∀ a ∈ items, ∀ b ∈ items, ∀ i, choose a = some i → choose b = some i → a = b) :
    (distinctBy id items).filterMap choose = distinctBy id (items.filterMap choose) := by
  induction items with
  | nil => rfl
  | cons a rest ih =>
    have hrest := ih fun b hb c hc => hinjective b (by simp [hb]) c (by simp [hc])
    cases hchoose : choose a with
    | none =>
      rw [List.filterMap_cons_none hchoose, ← hrest, distinctBy,
        List.filterMap_cons_none hchoose, List.filterMap_filter]
      refine List.filterMap_congr fun b _ => ?_
      by_cases hb : b = a
      · simp [hb, hchoose]
      · simp [hb]
    | some i =>
      rw [List.filterMap_cons_some hchoose, distinctBy, distinctBy,
        List.filterMap_cons_some hchoose, ← hrest, List.filterMap_filter, List.filter_filterMap]
      congr 1
      refine List.filterMap_congr fun b hb => ?_
      cases hchooseb : choose b with
      | none => simp
      | some j =>
        by_cases hb' : b = a
        · subst hb'
          rw [hchoose] at hchooseb
          cases hchooseb
          simp [Option.filter]
        · have hne : j ≠ i := by
            rintro rfl
            have hmem : b ∈ rest := mem_of_mem_distinctBy hb
            exact hb' (hinjective b (by simp [hmem]) a (by simp) _ hchooseb hchoose)
          simp [hb', hne, Option.filter]

end Distinct

/-! ## Tables -/

namespace Table

variable [BEq κ] [LawfulBEq κ] {table : Table κ α} {entries : List (κ × α)} {key : κ} {value : α}

/-- Storing changes what one key has. -/
theorem lookup_insert (key other : κ) (value : α) (table : Table κ α) :
    (insert key value table).lookup other =
      if other == key then some value else table.lookup other := by
  induction table with
  | nil => cases hother : other == key <;> simp [insert, List.lookup_cons, hother]
  | cons entry rest ih =>
    obtain ⟨k, v⟩ := entry
    by_cases hk : k = key
    · subst hk
      cases hother : other == k <;> simp [insert, List.lookup_cons, hother]
    · cases hother : other == k with
      | true =>
        have hne : (other == key) = false := by
          rw [beq_iff_eq] at hother
          simpa [hother] using hk
        simp [insert, List.lookup_cons, hk, hother, hne]
      | false => simp [insert, List.lookup_cons, hk, hother, ih]

/-- A new key goes to the end, and one that is there stays where it is. -/
theorem keys_insert (key : κ) (value : α) (table : Table κ α) :
    (insert key value table).keys =
      if table.keys.contains key then table.keys else table.keys ++ [key] := by
  induction table with
  | nil => simp [insert, keys]
  | cons entry rest ih =>
    obtain ⟨k, v⟩ := entry
    by_cases hk : k = key
    · simp [insert, keys, hk]
    · have hne : ¬ key = k := fun h => hk h.symm
      simp only [keys] at ih
      simp only [insert, keys, beq_iff_eq, hk, if_false, List.map_cons, ih]
      by_cases hmem : key ∈ rest.map (·.1) <;> simp [hne, hmem]

omit [LawfulBEq κ] in
theorem ofEntries_append_singleton (entries : List (κ × α)) (entry : κ × α) :
    ofEntries (entries ++ [entry]) = insert entry.1 entry.2 (ofEntries entries) := by
  simp [ofEntries]

/-- The keys of a table are those that were stored, in the order in which they came
first. -/
theorem keys_ofEntries (entries : List (κ × α)) :
    (ofEntries entries).keys = distinctBy id (entries.map (·.1)) := by
  induction entries using List.reverseRecOn with
  | nil => rfl
  | append_singleton entries entry ih =>
    rw [ofEntries_append_singleton, keys_insert, ih, List.map_append, List.map_singleton,
      distinctBy_append_singleton, List.map_id]
    simp only [List.contains_iff_mem, mem_distinctBy, id]

/-- What is found was stored. -/
theorem mem_of_lookup_ofEntries (hlookup : (ofEntries entries).lookup key = some value) :
    (key, value) ∈ entries := by
  induction entries using List.reverseRecOn with
  | nil => simp [ofEntries] at hlookup
  | append_singleton entries entry ih =>
    rw [ofEntries_append_singleton, lookup_insert] at hlookup
    split at hlookup
    · rename_i hkey
      cases hlookup
      simp [beq_iff_eq.1 hkey]
    · exact List.mem_append_left _ (ih hlookup)

/-- What was stored without being overwritten by something else is found. -/
theorem lookup_ofEntries (hmem : (key, value) ∈ entries)
    (hagree : ∀ other, (key, other) ∈ entries → other = value) :
    (ofEntries entries).lookup key = some value := by
  cases hlookup : (ofEntries entries).lookup key with
  | some found => rw [hagree found (mem_of_lookup_ofEntries hlookup)]
  | none =>
    exfalso
    clear hagree
    induction entries using List.reverseRecOn with
    | nil => cases hmem
    | append_singleton entries entry ih =>
      rw [ofEntries_append_singleton, lookup_insert] at hlookup
      split at hlookup
      · cases hlookup
      · rename_i hkey
        rcases List.mem_append.1 hmem with hmem | hmem
        · exact ih hmem hlookup
        · rw [List.mem_singleton] at hmem
          exact hkey (beq_iff_eq.2 (congrArg Prod.fst hmem))

/-! ## Remembering -/

omit [LawfulBEq κ] in
/-- What comes of remembering is what was there, or else the new value. -/
theorem remember_fst (key : κ) (value : α) (table : Table κ α) :
    (remember key value table).1 = (table.lookup key).getD value := by
  unfold remember
  cases table.lookup key <;> rfl

/-- What was there stays, and under the key there is something. -/
theorem lookup_remember (key other : κ) (value : α) (table : Table κ α) :
    (remember key value table).2.lookup other =
      (table.lookup other).or (if other == key then some value else none) := by
  unfold remember
  cases hold : table.lookup key with
  | some old =>
    cases hother : other == key with
    | true => simp [beq_iff_eq.1 hother, hold]
    | false => simp
  | none =>
    rw [List.lookup_append]
    cases hother : other == key <;> simp [List.lookup_cons, hother]

/-- Remembering the values of items under their keys, each item finds its own value. -/
def Undisputed (key : ι → κ) (value : ι → α) : Table κ α → List ι → Prop
  | _, [] => True
  | table, item :: rest =>
    (remember (key item) (value item) table).1 = value item ∧
      Undisputed key value (remember (key item) (value item) table).2 rest

/-- Items are undisputed exactly if they agree with what was remembered before, and items with
one key have one value. -/
theorem undisputed_iff {key : ι → κ} {value : ι → α} {items : List ι} :
    Undisputed key value table items ↔
      (∀ a ∈ items, ∀ old, table.lookup (key a) = some old → old = value a) ∧
        ∀ a ∈ items, ∀ b ∈ items, key a = key b → value a = value b := by
  induction items generalizing table with
  | nil => simp [Undisputed]
  | cons first rest ih =>
    rw [Undisputed, ih, remember_fst]
    constructor
    · rintro ⟨hfirst, hbefore, hagree⟩
      have hlater : ∀ b ∈ rest, key first = key b → value first = value b := by
        intro b hb hkey
        refine hbefore b hb (value first) ?_
        rw [lookup_remember, ← hkey]
        cases hold : table.lookup (key first) with
        | none => simp
        | some old => simpa [hold] using hfirst
      constructor
      · intro a ha old hold
        rcases List.mem_cons.1 ha with rfl | ha
        · simpa [hold] using hfirst
        · refine hbefore a ha old ?_
          rw [lookup_remember, hold]
          rfl
      · intro a ha b hb hkey
        rcases List.mem_cons.1 ha with rfl | ha'
        · rcases List.mem_cons.1 hb with rfl | hb'
          · rfl
          · exact hlater b hb' hkey
        · rcases List.mem_cons.1 hb with rfl | hb'
          · exact (hlater a ha' hkey.symm).symm
          · exact hagree a ha' b hb' hkey
    · rintro ⟨hbefore, hagree⟩
      refine ⟨?_, fun a ha old hold => ?_,
        fun a ha b hb => hagree a (List.mem_cons_of_mem _ ha) b (List.mem_cons_of_mem _ hb)⟩
      · cases hold : table.lookup (key first) with
        | none => rfl
        | some old => exact hbefore first List.mem_cons_self old hold
      · have ha := List.mem_cons_of_mem first ha
        rw [lookup_remember] at hold
        cases hthere : table.lookup (key a) with
        | some there =>
          rw [hthere, Option.some_or, Option.some.injEq] at hold
          exact hold ▸ hbefore a ha there hthere
        | none =>
          rw [hthere, Option.none_or] at hold
          split at hold
          · rename_i hkey
            cases hold
            exact hagree first List.mem_cons_self a ha (beq_iff_eq.1 hkey).symm
          · cases hold

/-- The table after the values of all items were remembered. -/
def rememberAll (key : ι → κ) (value : ι → α) (table : Table κ α) (items : List ι) : Table κ α :=
  items.foldl (fun table item => (remember (key item) (value item) table).2) table

/-- What is found is the value of an item with the key. -/
theorem exists_of_lookup_rememberAll {key : ι → κ} {value : ι → α} {items : List ι} {k : κ}
    {found : α} (hfound : (rememberAll key value [] items).lookup k = some found) :
    ∃ item ∈ items, key item = k ∧ found = value item := by
  induction items using List.reverseRecOn with
  | nil => cases hfound
  | append_singleton items last ih =>
    rw [rememberAll, List.foldl_append, List.foldl_cons, List.foldl_nil, lookup_remember] at hfound
    change ((rememberAll key value [] items).lookup k).or _ = _ at hfound
    cases hold : (rememberAll key value [] items).lookup k with
    | none =>
      rw [hold, Option.none_or] at hfound
      split at hfound
      · rename_i hkey
        cases hfound
        exact ⟨last, by simp, (beq_iff_eq.1 hkey).symm, rfl⟩
      · cases hfound
    | some old =>
      rw [hold, Option.some_or, Option.some.injEq] at hfound
      obtain ⟨item, hitem, hentry⟩ := ih (hfound ▸ hold)
      exact ⟨item, by simp [hitem], hentry⟩

/-- Every item finds something. -/
theorem isSome_lookup_rememberAll (key : ι → κ) (value : ι → α) {items : List ι} {item : ι}
    (hitem : item ∈ items) : ((rememberAll key value [] items).lookup (key item)).isSome := by
  induction items using List.reverseRecOn with
  | nil => cases hitem
  | append_singleton items last ih =>
    rw [rememberAll, List.foldl_append, List.foldl_cons, List.foldl_nil, lookup_remember]
    change (((rememberAll key value [] items).lookup (key item)).or _).isSome
    rcases List.mem_append.1 hitem with hmem | hlast
    · obtain ⟨found, hfound⟩ := Option.isSome_iff_exists.1 (ih hmem)
      simp [hfound]
    · rw [List.mem_singleton] at hlast
      simp [hlast]

end Table

end FsmCompiler
