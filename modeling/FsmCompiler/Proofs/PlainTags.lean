/-
# Tags of plain states

The tag of a variant joins the name of its state and the name of its event by `By`, or puts
`Initial` before the state. Where no state has a `By` in its name, the first one in a tag is the
joint, even behind a state that ends in `B` and before an event that has more of them, and a tag
with none is that of an initial state. So the tags tell the variants apart, however the events
are called.
-/

import FsmCompiler.Proofs.ExactTables

namespace FsmCompiler

/-! ## Joints -/

namespace Naming

/-- The characters between a state and an event. -/
def joint : List Char := ['B', 'y']

/-- No joint is in the name. -/
def Plain (name : String) : Prop := ¬ joint <:+: name.toList

variable {before before' behind behind' : List Char} {state state' event event' : String}

/-- A joint does not overlap a joint behind it. -/
theorem eq_nil_or_prefix_of_joint (hsame : joint ++ behind = before ++ (joint ++ behind')) :
    before = [] ∨ joint <+: before := by
  match before with
  | [] => exact .inl rfl
  | [c] =>
    have hletter : 'y' = 'B' := (List.cons.inj (List.cons.inj hsame).2).1
    exact absurd hletter (by decide)
  | c :: d :: before =>
    obtain ⟨hfirst, hsame⟩ := List.cons.inj hsame
    obtain ⟨hsecond, -⟩ := List.cons.inj hsame
    exact .inr ⟨before, by rw [← hfirst, ← hsecond]; rfl⟩

/-- The first joint of a text ends the text before it. -/
theorem eq_of_joint (hplain : ¬ joint <:+: before) (hplain' : ¬ joint <:+: before')
    (hsame : before ++ (joint ++ behind) = before' ++ (joint ++ behind')) :
    before = before' ∧ behind = behind' := by
  have hjoint : ∀ {first second more rest rest' : List Char}, ¬ joint <:+: second →
      second = first ++ more → joint ++ rest = more ++ (joint ++ rest') →
        first = second ∧ rest = rest' := by
    intro first second more rest rest' hsecond hsplit hoverlap
    rcases eq_nil_or_prefix_of_joint hoverlap with rfl | hstarts
    · exact ⟨by simpa using hsplit.symm, List.append_cancel_left hoverlap⟩
    · have hmore : more <:+: second := hsplit ▸ List.infix_append_right
      exact absurd (hstarts.isInfix.trans hmore) hsecond
  rcases List.append_eq_append_iff.1 hsame with ⟨more, hsplit, hoverlap⟩ | ⟨more, hsplit, hoverlap⟩
  · exact hjoint hplain' hsplit hoverlap
  · obtain ⟨hbefore, hbehind⟩ := hjoint hplain hsplit hoverlap
    exact ⟨hbefore.symm, hbehind.symm⟩

theorem toList_transitionTag (state event : String) :
    (transitionTag state event).toList = state.toList ++ (joint ++ event.toList) := by
  simp [transitionTag, joint]

/-- Plain states and their events are read back from a tag. -/
theorem transitionTag_injective (hplain : Plain state) (hplain' : Plain state')
    (htag : transitionTag state event = transitionTag state' event') :
    state = state' ∧ event = event' := by
  have hchars := congrArg String.toList htag
  rw [toList_transitionTag, toList_transitionTag] at hchars
  obtain ⟨hstate, hevent⟩ := eq_of_joint hplain hplain' hchars
  exact ⟨String.toList_inj.1 hstate, String.toList_inj.1 hevent⟩

theorem not_plain_transitionTag (state event : String) : ¬ Plain (transitionTag state event) := by
  intro hplain
  apply hplain
  rw [toList_transitionTag]
  exact ⟨state.toList, event.toList, List.append_assoc ..⟩

/-- The tag of a plain initial state is plain: no joint begins in the word before the state. -/
theorem plain_initialTag (hplain : Plain state) : Plain (initialTag state) := by
  have hskip : ∀ c ≠ 'B', ∀ rest, ¬ joint <:+: rest → ¬ joint <:+: c :: rest := by
    rintro c hc rest hrest hjoint
    rcases List.infix_cons_iff.1 hjoint with ⟨behind, hstarts⟩ | hjoint
    · exact hc (List.cons.inj hstarts).1.symm
    · exact hrest hjoint
  have hword : (initialTag state).toList =
      'I' :: 'n' :: 'i' :: 't' :: 'i' :: 'a' :: 'l' :: state.toList := by
    simp [initialTag]
  rw [Plain, hword]
  iterate 7 apply hskip _ (by decide)
  exact hplain

end Naming

/-! ## Variants -/

namespace Machine

open Naming

variable {m : Machine}

/-- Plain states and what entered them are read back from a tag. -/
theorem tagText_injective {state state' : String} {event event' : Option String}
    (hplain : Plain state) (hplain' : Plain state')
    (htag : tagText state event = tagText state' event') : state = state' ∧ event = event' := by
  cases event with
  | none =>
    cases event' with
    | none => exact ⟨initialTag_injective htag, rfl⟩
    | some event' =>
      have hinitial : initialTag state = transitionTag state' event' := htag
      exact absurd (hinitial ▸ plain_initialTag hplain) (not_plain_transitionTag _ _)
  | some event =>
    cases event' with
    | none =>
      have hinitial : transitionTag state event = initialTag state' := htag
      exact absurd (hinitial ▸ plain_initialTag hplain') (not_plain_transitionTag _ _)
    | some event' =>
      obtain ⟨hstate, hevent⟩ := transitionTag_injective hplain hplain' htag
      exact ⟨hstate, congrArg some hevent⟩

/-- The states that are entered, initially or by a rule, are plain. -/
def PlainStates (m : Machine) : Prop :=
  (∀ s ∈ m.initialStates, Plain s.name) ∧ ∀ t ∈ m.transitions, Plain t.target.name

theorem PlainStates.distinctTags (hplain : m.PlainStates) : m.DistinctTags := by
  have hstate : ∀ v ∈ m.mentionedVariants, Plain v.names.1 := forall_mentionedVariants.2 hplain
  intro v hv w hw htag
  rw [tag_of_mentioned v hv, tag_of_mentioned w hw] at htag
  obtain ⟨hname, hevent⟩ := tagText_injective (hstate v hv) (hstate w hw) htag
  exact Prod.ext hname hevent

/-- Tags of plain states never collide. Where the names of initial states and of targets
have no `By`, whatever the events are called, different states and events have different tags,
so validation finds no tag in dispute and rejects no machine that is right otherwise, and the
variants are all the different states and events that are declared. -/
theorem tags_of_plain_states (hplain : m.PlainStates) :
    m.tagDefects = [] ∧
      (∀ v ∈ m.mentionedVariants, ∀ w ∈ m.mentionedVariants, v.names ≠ w.names → v.tag ≠ w.tag) ∧
      m.variants = distinctBy Variant.names m.mentionedVariants ∧
      (m.validate = .ok () ↔
        m.nameDefects = [] ∧ m.resourceDefects = .ok [] ∧ m.targetDefects = []) := by
  have hdistinct := hplain.distinctTags
  have hdefects := tagDefects_eq_nil_iff_distinctTags.2 hdistinct
  refine ⟨hdefects, fun v hv w hw => mt (hdistinct v hv w hw), ?_, ?_⟩
  · apply distinctBy_congr
    intro v hv w hw
    constructor
    · exact hdistinct v hv w hw
    · intro hnames
      rw [tag_of_mentioned v hv, tag_of_mentioned w hw, hnames]
  · rw [validate_eq_ok_iff]
    constructor
    · rintro ⟨hnames, hresources, -, htargets⟩
      exact ⟨hnames, hresources, htargets⟩
    · rintro ⟨hnames, hresources, htargets⟩
      exact ⟨hnames, hresources, hdefects, htargets⟩

/-- A machine whose names are made of parts of tags: the joint overlaps the end of one state
and the beginning of one event, another event is the joint itself, and a state is the word for
initial states. -/
def overlapping : Machine where
  name := "M"
  transitions :=
    [⟨⟨"yBy", none⟩, ⟨"B", none⟩, ⟨"BB", none⟩, none⟩,
      ⟨⟨"By", none⟩, ⟨"BB", none⟩, ⟨"Initial", none⟩, none⟩,
      ⟨⟨"ByBy", none⟩, ⟨"B", none⟩, ⟨"InitialB", none⟩, none⟩]
  initialStates := [⟨"B", none⟩, ⟨"Initial", none⟩, ⟨"InitialB", none⟩]
  guardResources := []
  actionResources := []
  loc := none

/-- Its tags are apart all the same. -/
theorem tags_of_overlapping :
    overlapping.PlainStates ∧ overlapping.tagDefects = [] ∧
      (overlapping.variants.map (·.tag) =
        ["InitialB", "InitialInitial", "InitialInitialB", "BBByyBy", "InitialByBy",
          "InitialBByByBy"]) := by
  have hplain : overlapping.PlainStates := by
    constructor <;> simp only [overlapping, List.forall_mem_cons] <;>
      simp [Naming.Plain, Naming.joint, List.infix_cons_iff]
  obtain ⟨hdefects, -, hvariants, -⟩ := tags_of_plain_states hplain
  refine ⟨hplain, hdefects, ?_⟩
  rw [hvariants]
  decide +kernel

end Machine

end FsmCompiler
