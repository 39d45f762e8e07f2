/-
# Places of declarations

A machine that is read remembers where each of its names stands in the text, and the derived
sets keep the place of a first mention. The rules of one line share its arrow, whose place
stands for each of them, though a source state may lie far before it.
-/

import FsmCompiler.Proofs.Occurrence
import FsmCompiler.Proofs.Reading
import FsmCompiler.Proofs.TokenPlaces
import FsmCompiler.Proofs.Validity

namespace FsmCompiler

open Source (Location)
open Token (TokenAt WordAt)

variable {file text : String} {tokens : List Token} {m : Machine}

/-- At the place that a declaration carries stands its name, as a whole identifier. -/
def NameAt (file text name : String) (loc? : Option Location) : Prop :=
  ∃ loc, loc? = some loc ∧ WordAt file text .identifier name loc

/-- A rule carries the place of an arrow, which is the only one between its states. -/
structure ArrowAt (file text : String) (t : Transition) (source arrow target : Location) :
    Prop where
  sourceLoc : t.source.loc = some source
  targetLoc : t.target.loc = some target
  loc : t.loc = some arrow
  word : WordAt file text .arrow "=>" arrow
  behindSource : source.Before arrow
  beforeTarget : arrow.Before target
  only : ∀ word other, TokenAt file text .arrow word other → source.Before other →
    other.Before target → other = arrow

/-- The places that the declarations of a machine carry are those of their names, and those
of its rules are the places of their arrows. -/
structure InPlace (file text : String) (m : Machine) : Prop where
  machine : NameAt file text m.name m.loc
  resource : ∀ r ∈ m.guardResources ++ m.actionResources, NameAt file text r.name r.loc
  initial : ∀ s ∈ m.initialStates, NameAt file text s.name s.loc
  event : ∀ t ∈ m.transitions, NameAt file text t.event.name t.event.loc
  source : ∀ t ∈ m.transitions, NameAt file text t.source.name t.source.loc
  target : ∀ t ∈ m.transitions, NameAt file text t.target.name t.target.loc
  arrow : ∀ t ∈ m.transitions, ∃ source arrow target, ArrowAt file text t source arrow target

/-- So are the places that the derived sets carry. -/
structure Faithful (file text : String) (m : Machine) : Prop extends InPlace file text m where
  derived : ∀ s ∈ m.derived.states ++ m.derived.nonTerminalStates ++ m.derived.terminalStates ++
    m.derived.events, NameAt file text s.name s.loc
  variantState : ∀ v ∈ m.derived.variants, NameAt file text v.state.name v.state.loc
  variantEvent : ∀ v ∈ m.derived.variants, ∀ event ∈ v.event, NameAt file text event.name event.loc

/-! ## Tokens -/

theorem nameAt_of_mem {name : Token} (hscan : Token.scan text = .ok tokens) (hmem : name ∈ tokens)
    (hname : name.kind = .identifier) :
    NameAt file text name.text (some (name.pos.inFile file)) := by
  have hword := Token.wordAt_of_mem file hscan hmem (by simp [hname]) (by simp [hname])
  rw [hname] at hword
  exact ⟨_, rfl, hword⟩

theorem arrow_wordAt_of_mem {arrow : Token} (hscan : Token.scan text = .ok tokens)
    (hmem : arrow ∈ tokens) (harrow : arrow.kind = .arrow) :
    WordAt file text .arrow "=>" (arrow.pos.inFile file) := by
  have hword := Token.wordAt_of_mem file hscan hmem (by simp [harrow]) (by simp [harrow])
  rw [harrow] at hword
  obtain ⟨behind, -, hlexeme⟩ := hword.line
  have htext : arrow.text = "=>" := String.toList_inj.1 hlexeme.eq_of_arrow
  rwa [htext] at hword

/-- A rule that is written in the text carries the place of its arrow. -/
theorem arrowAt_of_ruleRun {part : List Token} {t : Transition}
    (hscan : Token.scan text = .ok tokens) (hrule : Grammar.RuleRun file part t)
    (hpart : part <:+: tokens) :
    ∃ source arrow target, ArrowAt file text t source arrow target := by
  cases hrule with
  | @intro event source middle arrow target hsource hmiddle harrow htarget =>
    obtain ⟨earlier, later, htokens⟩ := hpart
    have hsplit : tokens = earlier ++ source :: (middle ++ [arrow]) ++ target :: later := by
      rw [← htokens]
      simp
    have hpairwise := (Token.lexed_of_scan hscan).pairwise_before file
    rw [hsplit] at hpairwise
    have hlater : ∀ token ∈ middle ++ [arrow] ++ target :: later,
        (source.pos.inFile file).Before (token.pos.inFile file) := by
      rw [List.append_assoc, List.cons_append] at hpairwise
      exact (List.pairwise_cons.1 (List.pairwise_append.1 hpairwise).2.1).1
    have hmem : arrow ∈ tokens := by simp [hsplit]
    have hword : WordAt file text .arrow "=>" (arrow.pos.inFile file) :=
      arrow_wordAt_of_mem hscan hmem harrow
    refine ⟨_, _, _, rfl, rfl, rfl, hword, hlater arrow (by simp), ?_, ?_⟩
    · exact (List.pairwise_append.1 hpairwise).2.2 arrow (by simp) target (by simp)
    · rintro word other ⟨tokens', pos, hscan', hother, rfl⟩ hbehind hbefore
      obtain rfl : tokens = tokens' := Except.ok.inj (hscan.symm.trans hscan')
      rw [hsplit] at hother
      have hbetween := Token.mem_between hpairwise hother hbehind hbefore
      rcases List.mem_append.1 hbetween with hmem | hmem
      · exact absurd rfl (hmiddle _ hmem)
      · rw [← List.mem_singleton.1 hmem]

/-! ## Declarations -/

/-- The states of a rule that is written in the text stand at their places. -/
theorem nameAt_of_ruleRun {part : List Token} {t : Transition}
    (hscan : Token.scan text = .ok tokens) (hrule : Grammar.RuleRun file part t)
    (hpart : part <:+: tokens) :
    NameAt file text t.source.name t.source.loc ∧ NameAt file text t.target.name t.target.loc := by
  have hmem := hpart.subset
  cases hrule with
  | intro hsource _ _ htarget =>
    constructor
    · exact nameAt_of_mem hscan (hmem (by simp)) hsource
    · exact nameAt_of_mem hscan (hmem (by simp)) htarget

/-- What a machine block declares is in place. -/
theorem inPlace_of_machineBlock {block : List Token} (hscan : Token.scan text = .ok tokens)
    (hblock : Grammar.MachineBlock file block m) (hwithin : block <:+: tokens) :
    InPlace file text m := by
  have hmem := hwithin.subset
  have hstates : ∀ t ∈ m.transitions, NameAt file text t.source.name t.source.loc ∧
      NameAt file text t.target.name t.target.loc := by
    intro t ht
    obtain ⟨-, part, hrule, hpart⟩ := hblock.exists_rule ht
    exact nameAt_of_ruleRun hscan hrule (hpart.trans hwithin)
  constructor
  case machine =>
    cases hblock with
    | intro hname => exact nameAt_of_mem hscan (hmem (by simp)) hname
  case resource =>
    intro r hr
    obtain ⟨part, hitem, hpart⟩ := hblock.exists_resource hr
    cases hitem with
    | intro hname => exact nameAt_of_mem hscan (hmem (hpart.subset (by simp))) hname
  case initial =>
    intro s hs
    obtain ⟨name, hin, hname, rfl⟩ := hblock.exists_initial hs
    exact nameAt_of_mem hscan (hmem hin) hname
  case event =>
    intro t ht
    obtain ⟨⟨name, hin, hname, hevent⟩, -⟩ := hblock.exists_rule ht
    rw [hevent]
    exact nameAt_of_mem hscan (hmem hin) hname
  case source => exact fun t ht => (hstates t ht).1
  case target => exact fun t ht => (hstates t ht).2
  case arrow =>
    intro t ht
    obtain ⟨-, part, hrule, hpart⟩ := hblock.exists_rule ht
    exact arrowAt_of_ruleRun hscan hrule (hpart.trans hwithin)

/-- The derived sets are made of declarations, with their places. -/
theorem InPlace.faithful (hplace : InPlace file text m) : Faithful file text m := by
  have hstate : ∀ s ∈ m.states, NameAt file text s.name s.loc := by
    intro s hs
    rcases List.mem_append.1 (mem_of_mem_distinctBy hs) with hs | hs
    · obtain ⟨t, ht, hs⟩ := List.mem_flatMap.1 hs
      simp only [List.mem_cons, List.not_mem_nil, or_false] at hs
      rcases hs with rfl | rfl
      · exact hplace.source t ht
      · exact hplace.target t ht
    · exact hplace.initial s hs
  have hvariant : ∀ v ∈ m.variants, NameAt file text v.state.name v.state.loc ∧
      ∀ event ∈ v.event, NameAt file text event.name event.loc := by
    intro v hv
    rcases Machine.variant_cases hv with ⟨s, hs, rfl⟩ | ⟨t, ht, rfl⟩
    · exact ⟨hplace.initial s hs, by simp [Variant.initial]⟩
    · exact ⟨hplace.target t ht, by simpa [Variant.entered] using hplace.event t ht⟩
  refine ⟨hplace, fun s hs => ?_, fun v hv => (hvariant v hv).1, fun v hv => (hvariant v hv).2⟩
  simp only [Machine.derived, List.mem_append] at hs
  rcases hs with ((hs | hs) | hs) | hs
  · exact hstate s hs
  · obtain ⟨t, ht, rfl⟩ := List.mem_map.1 (mem_of_mem_distinctBy hs)
    exact hplace.source t ht
  · exact hstate s (List.mem_of_mem_filter hs)
  · obtain ⟨t, ht, rfl⟩ := List.mem_map.1 (mem_of_mem_distinctBy hs)
    exact hplace.event t ht

/-- Places of declarations are faithful. Whatever text is read, and whatever strings and
comments its lines go through: each machine, resource, state and event, in the declarations
and in the derived sets, carries a place where its name stands as a word of its line, and each
rule the place of the one arrow between its states. -/
theorem declarations_in_place {machines : List Machine}
    (hread : Reader.read file text = .ok machines) : ∀ m ∈ machines, Faithful file text m := by
  intro m hm
  obtain ⟨tokens, hscan, hfile⟩ := Reader.exists_file_of_read hread
  obtain ⟨block, hblock, hwithin⟩ := hfile.exists_block hm
  exact (inPlace_of_machineBlock hscan hblock hwithin).faithful

/-- A text with a string that goes on in the next line, and with arrows in comments between a
source state and the arrow of its rule. -/
def spreadText : String :=
  Text.unlines
    ["M \x7b",
      "  GuardResources \x7b g: \"a\\",
      "b\" \x7d // =>",
      "  States \x7b A \x7d",
      "  Go \x7b A, # =>",
      "    B => C \x7d",
      "\x7d"]

/-- The machine of that text. -/
def spreadMachine : Machine where
  name := "M"
  transitions :=
    [⟨⟨"Go", some ⟨"m", 5, 3⟩⟩, ⟨"A", some ⟨"m", 5, 8⟩⟩, ⟨"C", some ⟨"m", 6, 10⟩⟩,
        some ⟨"m", 6, 7⟩⟩,
      ⟨⟨"Go", some ⟨"m", 5, 3⟩⟩, ⟨"B", some ⟨"m", 6, 5⟩⟩, ⟨"C", some ⟨"m", 6, 10⟩⟩,
        some ⟨"m", 6, 7⟩⟩]
  initialStates := [⟨"A", some ⟨"m", 4, 12⟩⟩]
  guardResources := [⟨"g", "\"a\\\nb\"", some ⟨"m", 2, 20⟩⟩]
  actionResources := []
  loc := some ⟨"m", 1, 1⟩

theorem declarations_in_place_of_spread :
    Reader.read "m" spreadText = .ok [spreadMachine] ∧ Faithful "m" spreadText spreadMachine := by
  have hread : Reader.read "m" spreadText = .ok [spreadMachine] := by decide +kernel
  exact ⟨hread, declarations_in_place hread spreadMachine (List.mem_singleton.2 rfl)⟩

end FsmCompiler
