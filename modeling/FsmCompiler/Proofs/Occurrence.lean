/-
# Constructs among the tokens of a file

What a file declares is written in one stretch of its tokens: a machine in its block, a
resource in its item, a rule between a source state and the target of a line. The stretches
of a construct lie within that of the construct around it.
-/

import FsmCompiler.Proofs.Grammar

namespace FsmCompiler.Grammar

open TokenKind
open List (infix_append_left infix_append_right infix_append_of_infix_left
  infix_append_of_infix_right infix_cons infix_rfl)

variable {file : String} {tokens : List Token} {machines : List Machine} {m : Machine}

/-! ## Lists and blocks -/

/-- An item of a list is written in it. -/
theorem CommaList.exists_item {Item : List Token → α → Prop} {items : List α} {item : α}
    (hlist : CommaList Item tokens items) (hitem : item ∈ items) :
    ∃ part, Item part item ∧ part <:+: tokens := by
  induction hlist with
  | nil => cases hitem
  | last hlast =>
    rw [List.mem_singleton.1 hitem]
    exact ⟨_, hlast, infix_rfl⟩
  | cons hfirst _ _ ih =>
    rcases List.mem_cons.1 hitem with rfl | hitem
    · exact ⟨_, hfirst, infix_append_left⟩
    · obtain ⟨part, hpart, hwithin⟩ := ih hitem
      exact ⟨part, hpart, infix_append_of_infix_right (infix_cons hwithin)⟩

/-- A block that declares something is there. -/
theorem Optional.exists_block {Block : List Token → List α → Prop} {items : List α}
    {item : α} (hblock : Optional Block tokens items) (hitem : item ∈ items) :
    ∃ block, Block block items ∧ block <:+: tokens := by
  cases hblock with
  | absent => cases hitem
  | present hblock _ => exact ⟨_, hblock, infix_append_left⟩

/-! ## Machines and their blocks -/

theorem MachineRun.exists_block (hrun : MachineRun file tokens machines) (hm : m ∈ machines) :
    ∃ block, MachineBlock file block m ∧ block <:+: tokens := by
  induction hrun with
  | nil => cases hm
  | cons hblock _ _ ih =>
    rcases List.mem_cons.1 hm with rfl | hm
    · exact ⟨_, hblock, infix_append_of_infix_left infix_append_left⟩
    · obtain ⟨block, hblock, hwithin⟩ := ih hm
      exact ⟨block, hblock, infix_append_of_infix_right hwithin⟩

/-- A machine of a file is written in it. -/
theorem File.exists_block (hfile : File file tokens machines) (hm : m ∈ machines) :
    ∃ block, MachineBlock file block m ∧ block <:+: tokens := by
  cases hfile with
  | intro _ hmachines _ =>
    obtain ⟨block, hblock, hwithin⟩ := hmachines.exists_block hm
    exact ⟨block, hblock, infix_append_of_infix_left (infix_append_of_infix_right hwithin)⟩

/-- The resources of a block are written in it. -/
theorem ResourceBlock.exists_item {kind : TokenKind} {resources : List Resource} {r : Resource}
    (hblock : ResourceBlock file kind tokens resources) (hr : r ∈ resources) :
    ∃ part, ResourceItem file part r ∧ part <:+: tokens := by
  cases hblock with
  | intro _ _ hbody _ =>
    obtain ⟨part, hitem, hwithin⟩ := hbody.exists_item hr
    exact ⟨part, hitem, infix_append_of_infix_left (infix_cons (infix_cons hwithin))⟩

theorem Optional.exists_resource {kind : TokenKind} {resources : List Resource} {r : Resource}
    (hblock : Optional (ResourceBlock file kind) tokens resources) (hr : r ∈ resources) :
    ∃ part, ResourceItem file part r ∧ part <:+: tokens := by
  obtain ⟨block, hblock, houter⟩ := hblock.exists_block hr
  obtain ⟨part, hitem, hinner⟩ := hblock.exists_item hr
  exact ⟨part, hitem, hinner.trans houter⟩

/-- A resource of a machine is written in its block. -/
theorem MachineBlock.exists_resource {r : Resource} (hblock : MachineBlock file tokens m)
    (hr : r ∈ m.guardResources ++ m.actionResources) :
    ∃ part, ResourceItem file part r ∧ part <:+: tokens := by
  cases hblock with
  | intro _ _ _ hguards hactions _ _ _ _ =>
    rcases List.mem_append.1 hr with hr | hr
    · obtain ⟨part, hitem, hwithin⟩ := hguards.exists_resource hr
      refine ⟨part, hitem, ?_⟩
      iterate 4 apply infix_append_of_infix_left
      exact infix_append_of_infix_right hwithin
    · obtain ⟨part, hitem, hwithin⟩ := hactions.exists_resource hr
      refine ⟨part, hitem, ?_⟩
      iterate 3 apply infix_append_of_infix_left
      exact infix_append_of_infix_right hwithin

/-- An initial state of a machine is a name in its block. -/
theorem MachineBlock.exists_initial {s : Declaration} (hblock : MachineBlock file tokens m)
    (hs : s ∈ m.initialStates) :
    ∃ name ∈ tokens, name.kind = identifier ∧ s = Reader.declare file name := by
  cases hblock with
  | intro _ _ _ _ _ hinitials _ _ _ =>
    obtain ⟨block, hblock, houter⟩ := hinitials.exists_block hs
    cases hblock with
    | intro _ _ hbody _ =>
      obtain ⟨part, hitem, hinner⟩ := hbody.exists_item hs
      cases hitem with
      | @intro name hname =>
        have hbody := hinner.subset List.mem_cons_self
        have hmem := houter.subset (show name ∈ _ by simp [hbody])
        exact ⟨name, by simp [hmem], hname, rfl⟩

/-! ## Rules -/

/-- Behind a source state no arrow stands in its list. -/
theorem SourceList.exists_middle {sources : List Token} {source : Token}
    (hlist : SourceList tokens sources) (hsource : source ∈ sources) :
    source.kind = identifier ∧ ∃ before middle, tokens = before ++ source :: middle ∧
      ∀ token ∈ middle, token.kind ≠ arrow := by
  -- What the list is made of, names and commas, is needed for the names behind the first.
  have hplain : ∀ {tokens sources}, SourceList tokens sources →
      ∀ token ∈ tokens, token.kind ≠ arrow := by
    intro tokens sources hlist
    induction hlist with
    | one hname => simp [hname]
    | cons hname hseparator _ ih => simpa [hname, hseparator] using ih
  induction hlist with
  | one hname =>
    rw [List.mem_singleton.1 hsource]
    exact ⟨hname, [], [], rfl, by simp⟩
  | @cons name separator rest names hname hseparator hrest ih =>
    rcases List.mem_cons.1 hsource with rfl | hsource
    · refine ⟨hname, [], separator :: rest, rfl, ?_⟩
      simpa [hseparator] using hplain hrest
    · obtain ⟨hkind, before, middle, hsplit, hmiddle⟩ := ih hsource
      exact ⟨hkind, name :: separator :: before, middle, by rw [hsplit]; rfl, hmiddle⟩

/-- The part of a line from a source state of the rule to its target, with one arrow. -/
inductive RuleRun (file : String) : List Token → Transition → Prop
  | intro {event source middle arrow target} (hsource : source.kind = identifier)
      (hmiddle : ∀ token ∈ middle, token.kind ≠ TokenKind.arrow)
      (harrow : arrow.kind = TokenKind.arrow) (htarget : target.kind = identifier) :
      RuleRun file (source :: middle ++ [arrow, target])
        ⟨event, Reader.declare file source, Reader.declare file target,
          some (arrow.pos.inFile file)⟩

theorem Line.exists_rule {event : Declaration} {rules : List Transition} {t : Transition}
    (hline : Line file event tokens rules) (ht : t ∈ rules) :
    t.event = event ∧ ∃ part, RuleRun file part t ∧ part <:+: tokens := by
  cases hline with
  | intro hsources harrow htarget =>
    obtain ⟨source, hsource, rfl⟩ := List.mem_map.1 ht
    obtain ⟨hkind, before, middle, rfl, hmiddle⟩ := hsources.exists_middle hsource
    refine ⟨rfl, _, .intro hkind hmiddle harrow htarget, ?_⟩
    rw [List.append_assoc]
    exact infix_append_right

theorem LineRun.exists_rule {event : Declaration} {rules : List Transition} {t : Transition}
    (hrun : LineRun file event tokens rules) (ht : t ∈ rules) :
    t.event = event ∧ ∃ part, RuleRun file part t ∧ part <:+: tokens := by
  induction hrun with
  | one hline _ =>
    obtain ⟨hevent, part, hrule, hwithin⟩ := hline.exists_rule ht
    exact ⟨hevent, part, hrule, infix_append_of_infix_left hwithin⟩
  | cons hline _ _ ih =>
    rcases List.mem_append.1 ht with ht | ht
    · obtain ⟨hevent, part, hrule, hwithin⟩ := hline.exists_rule ht
      exact ⟨hevent, part, hrule, infix_append_of_infix_left (infix_append_of_infix_left hwithin)⟩
    · obtain ⟨hevent, part, hrule, hwithin⟩ := ih ht
      exact ⟨hevent, part, hrule, infix_append_of_infix_right hwithin⟩

/-- A rule is written in an event block, and its event is the name of the block. -/
theorem EventRun.exists_rule {rules : List Transition} {t : Transition}
    (hrun : EventRun file tokens rules) (ht : t ∈ rules) :
    (∃ name ∈ tokens, name.kind = identifier ∧ t.event = Reader.declare file name) ∧
      ∃ part, RuleRun file part t ∧ part <:+: tokens := by
  induction hrun with
  | nil => cases ht
  | cons hblock _ _ ih =>
    rcases List.mem_append.1 ht with ht | ht
    · cases hblock with
      | @intro name _ _ _ _ hname _ hbody _ =>
        obtain ⟨hevent, part, hrule, hwithin⟩ := hbody.exists_rule ht
        refine ⟨⟨name, by simp, hname, hevent⟩, part, hrule, ?_⟩
        iterate 3 apply infix_append_of_infix_left
        exact infix_cons (infix_cons hwithin)
    · obtain ⟨⟨name, hmem, hname, hevent⟩, part, hrule, hwithin⟩ := ih ht
      exact ⟨⟨name, List.mem_append_right _ hmem, hname, hevent⟩, part, hrule,
        infix_append_of_infix_right hwithin⟩

/-- A rule of a machine is written in its block. -/
theorem MachineBlock.exists_rule {t : Transition} (hblock : MachineBlock file tokens m)
    (ht : t ∈ m.transitions) :
    (∃ name ∈ tokens, name.kind = identifier ∧ t.event = Reader.declare file name) ∧
      ∃ part, RuleRun file part t ∧ part <:+: tokens := by
  cases hblock with
  | intro _ _ _ _ _ _ hevents _ _ =>
    obtain ⟨⟨name, hmem, hname, hevent⟩, part, hrule, hwithin⟩ := hevents.exists_rule ht
    exact ⟨⟨name, by simp [hmem], hname, hevent⟩, part, hrule,
      infix_append_of_infix_left (infix_append_of_infix_right hwithin)⟩

end FsmCompiler.Grammar
