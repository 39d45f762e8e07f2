/-
# White space between tokens

White space is made of blanks and of whole comments, each with the end of its line. It may be
put before a token, behind one and at the ends of a text: the words of the text stay the same,
and only their places change.
-/

import FsmCompiler.Proofs.Cutting
import FsmCompiler.Proofs.Relocation

namespace FsmCompiler.Token

open Source (Position)

/-- Blanks and whole comments, each with the end of its line. -/
inductive Padding : List Char → Prop
  | nil : Padding []
  | blank {c rest} (hblank : c ∈ [' ', '\t', '\r', '\n']) (hrest : Padding rest) :
      Padding (c :: rest)
  | comment {opening body rest} (hopening : opening = ['#'] ∨ opening = ['/', '/'])
      (hbody : '\n' ∉ body) (hrest : Padding rest) : Padding (opening ++ body ++ '\n' :: rest)

/-- The tokens, whatever their places are. -/
def words (tokens : List Token) : List Token := tokens.map (·.relocate fun _ => .start)

/-- Before `rest`, the text is cut into these words, wherever it starts. -/
def Spells (text rest : List Char) (spelled : List Token) : Prop :=
  ∀ pos, ∃ tokens, Cut pos text rest tokens ∧ words tokens = spelled

variable {pos : Position} {text used rest rest' padding lexeme : List Char} {kind : TokenKind}
  {tokens front back spelled later : List Token} {c : Char}

@[simp] theorem words_append : words (front ++ back) = words front ++ words back :=
  List.map_append

/-! ## Words of texts -/

/-- A text that is cut anywhere spells the same words everywhere. -/
theorem Cut.spells (hcut : Cut pos text rest tokens) : Spells text rest (words tokens) := by
  induction hcut with
  | nil => exact fun pos => ⟨[], .nil, rfl⟩
  | filler hfiller _ ih =>
    intro pos
    obtain ⟨moved, hmoved, hwords⟩ := ih (pos.after _)
    exact ⟨moved, .filler hfiller hmoved, hwords⟩
  | @lexeme _ used _ _ _ _ hlexeme _ ih =>
    intro pos
    obtain ⟨moved, hmoved, hwords⟩ := ih (pos.after used)
    refine ⟨_, .lexeme hlexeme hmoved, ?_⟩
    rw [words, List.map_cons, ← words, hwords]
    rfl

theorem Spells.append (hfirst : Spells used (text ++ rest) spelled)
    (hsecond : Spells text rest later) : Spells (used ++ text) rest (spelled ++ later) := by
  intro pos
  obtain ⟨front, hfront, rfl⟩ := hfirst pos
  obtain ⟨back, hback, rfl⟩ := hsecond (pos.after used)
  exact ⟨front ++ back, hfront.append hback, words_append⟩

/-- A text that is cut to its end is cut in one way. -/
theorem Cut.unique {other : List Token} (hcut : Cut pos text [] tokens)
    (hother : Cut pos text [] other) : tokens = other := by
  have hscan := scanFrom_eq_ok_iff_cut.2 ⟨tokens, hcut, rfl⟩
  rw [scanFrom_eq_ok_iff_cut.2 ⟨other, hother, rfl⟩] at hscan
  exact (List.append_cancel_right (Except.ok.inj hscan)).symm

/-- Behind a text that is cut, a text that is cut to its end goes on being cut. -/
theorem Cut.behind (hcut : Cut pos (text ++ rest) [] tokens) (hfront : Cut pos text rest front) :
    ∃ back, Cut (pos.after text) rest [] back ∧ tokens = front ++ back := by
  have hscan := scanFrom_eq_ok_iff_cut.2 ⟨tokens, hcut, rfl⟩
  rw [hfront.scanFrom_append] at hscan
  cases hrest : scanFrom (pos.after text) rest with
  | error fault => simp [hrest, Except.map] at hscan
  | ok behind =>
    obtain ⟨back, hback, rfl⟩ := scanFrom_eq_ok_iff_cut.1 hrest
    rw [← List.append_nil rest] at hfront
    exact ⟨back, hback, hcut.unique (hfront.append hback)⟩

/-- The words of a text that is scanned, and one for its end. -/
theorem spells_of_scan {text : String} (hscan : scan text = .ok tokens) :
    ∃ spelled, Spells text.toList [] spelled ∧ words tokens = spelled ++ [endAt .start] := by
  obtain ⟨front, hcut, rfl⟩ := scanFrom_eq_ok_iff_cut.1 hscan
  exact ⟨words front, hcut.spells, words_append⟩

theorem scan_of_spells {text : String} (hspells : Spells text.toList [] spelled) :
    ∃ tokens, scan text = .ok tokens ∧ words tokens = spelled ++ [endAt .start] := by
  obtain ⟨front, hcut, rfl⟩ := hspells .start
  exact ⟨_, scanFrom_eq_ok_iff_cut.2 ⟨front, hcut, rfl⟩, words_append⟩

/-- Texts that are cut where the old one was may stand in its place. -/
theorem spells_replace {old new : List Char} {oldTokens newTokens : List Token}
    (hspells : Spells (text ++ (old ++ rest)) [] spelled)
    (hfront : Cut .start text (old ++ rest) front)
    (hold : Cut (Position.start.after text) old rest oldTokens)
    (hfront' : Cut .start text (new ++ rest) front)
    (hnew : Cut (Position.start.after text) new rest newTokens) :
    ∃ back, spelled = words front ++ words oldTokens ++ back ∧
      Spells (text ++ (new ++ rest)) [] (words front ++ words newTokens ++ back) := by
  obtain ⟨tokens, hcut, rfl⟩ := hspells .start
  obtain ⟨behind, hbehind, rfl⟩ := hcut.behind hfront
  obtain ⟨back, hback, rfl⟩ := hbehind.behind hold
  refine ⟨words back, by simp, ?_⟩
  have hrest : Spells (new ++ rest) [] (words newTokens ++ words back) :=
    Spells.append (by simpa using hnew.spells) hback.spells
  rw [List.append_assoc]
  exact Spells.append (by simpa using hfront'.spells) hrest

/-! ## White space spells nothing -/

theorem Cut.blank (hcut : Cut (pos.after [c]) text rest tokens)
    (hblank : c ∈ [' ', '\t', '\r', '\n']) : Cut pos (c :: text) rest tokens := by
  have hfiller : Filler [c] (text ++ rest) := .blank hblank
  exact .filler hfiller hcut

theorem Padding.cut (hpadding : Padding padding) : Cut pos padding rest [] := by
  induction hpadding generalizing pos with
  | nil => exact .nil
  | blank hblank _ ih => exact ih.blank hblank
  | comment hopening hbody _ ih =>
    refine .filler (.comment hopening hbody (.inr rfl)) ?_
    exact ih.blank (by simp)

theorem Padding.spells (hpadding : Padding padding) : Spells padding rest [] :=
  fun _ => ⟨[], hpadding.cut, rfl⟩

/-- White space goes on with no word and no number. -/
theorem Padding.apart (hpadding : Padding padding) : Apart padding := by
  have hopening : ∀ d ∈ ['#', '/'], isWordRest d = false ∧ isNumberRest d = false := by
    simp only [List.forall_mem_cons, List.not_mem_nil, false_implies, implies_true]
    decide
  intro d hd
  cases hpadding with
  | nil => simp at hd
  | blank hblank =>
    cases hd
    exact not_wordChar_of_isBlank (isBlank_iff.2 hblank)
  | comment hcomment =>
    have hmem : d ∈ ['#', '/'] := by
      rcases hcomment with rfl | rfl <;> cases hd <;> simp
    obtain ⟨hword, hnumber⟩ := hopening d hmem
    rw [← isWordRest_iff, ← isNumberRest_iff]
    simp [hword, hnumber]

/-- White space up to the end of its first line. -/
theorem Padding.exists_line (hpadding : Padding padding) :
    ∃ line below, padding = line ++ below ∧ '\n' ∉ line ∧
      (below = [] ∨ below.head? = some '\n') ∧ Padding below := by
  induction hpadding with
  | nil => exact ⟨[], [], rfl, by simp, .inl rfl, .nil⟩
  | @blank c rest hblank hrest ih =>
    by_cases hline : c = '\n'
    · exact ⟨[], c :: rest, rfl, by simp, .inr (by simp [hline]), .blank hblank hrest⟩
    · obtain ⟨line, below, rfl, hnot, hend, hbelow⟩ := ih
      exact ⟨c :: line, below, rfl, by simp [hnot, Ne.symm hline], hend, hbelow⟩
  | @comment opening body rest hopening hbody hrest ih =>
    refine ⟨opening ++ body, '\n' :: rest, rfl, ?_, .inr rfl, .blank (by simp) hrest⟩
    rcases hopening with rfl | rfl <;> simp [hbody]

/-! ## Where white space fits -/

theorem Lexeme.used_ne_nil (hlexeme : Lexeme kind used rest) : used ≠ [] := by
  cases hlexeme <;> simp

theorem Lexeme.cut (hlexeme : Lexeme kind lexeme rest) :
    Cut pos lexeme rest [⟨kind, String.ofList lexeme, pos⟩] := by
  have hcut : Cut pos (lexeme ++ []) rest [⟨kind, String.ofList lexeme, pos⟩] :=
    .lexeme hlexeme .nil
  rwa [List.append_nil] at hcut

/-- No lexeme begins with a blank. -/
theorem Lexeme.isBlank_head? (hlexeme : Lexeme kind used rest) :
    ∀ d ∈ used.head?, isBlank d = false := by
  intro d hhead
  rw [← Bool.not_eq_true]
  intro hblank
  have hsigns : ∀ e ∈ [' ', '\t', '\r', '\n'], e ∈ signs := by simp [signs]
  obtain ⟨hword, hdigit⟩ := not_word_of_mem_signs (hsigns d (isBlank_iff.1 hblank))
  cases hlexeme with
  | word hstart =>
    cases hhead
    rw [isWordStart_iff.2 hstart] at hword
    cases hword
  | number hstart =>
    cases hhead
    rw [hstart] at hdigit
    cases hdigit
  | string hquote =>
    cases hhead
    rcases hquote with rfl | rfl <;> exact absurd hblank (by decide)
  | arrow =>
    cases hhead
    exact absurd hblank (by decide)
  | punctuation hkind =>
    cases hhead
    rw [(punctuation_apart hkind []).2.1] at hblank
    cases hblank

/-- Before a token, a lexeme may end where white space begins. -/
theorem Cut.before_padding (hcut : Cut pos text (lexeme ++ rest) tokens)
    (hlexeme : Lexeme kind lexeme rest) (hpadding : Padding padding) :
    Cut pos text (padding ++ (lexeme ++ rest)) tokens := by
  cases hempty : padding with
  | nil => exact hcut
  | cons c behind =>
    have hapart : Apart (c :: behind) := hempty ▸ hpadding.apart
    obtain ⟨d, inner, hinner⟩ := List.exists_cons_of_ne_nil hlexeme.used_ne_nil
    apply hcut.before
    · intro used hfiller
      cases hfiller with
      | blank hblank => exact .blank hblank
      | comment _ _ hend =>
        have hline := hlexeme.isBlank_head? d (by rw [hinner]; rfl)
        have hnewline : isBlank '\n' = true := rfl
        simp_all
    · exact fun kind used hused => hused.before_apart hapart

/-- A token may end where white space begins. -/
theorem Lexeme.before_padding (hlexeme : Lexeme kind lexeme rest) (hpadding : Padding padding) :
    Lexeme kind lexeme (padding ++ rest) := by
  cases hempty : padding with
  | nil => exact hlexeme
  | cons c behind =>
    have hapart : Apart (c :: behind) := hempty ▸ hpadding.apart
    exact hlexeme.before_apart hapart

/-- What is behind a token may change. -/
theorem Cut.before_lexeme (hcut : Cut pos text (lexeme ++ rest) tokens)
    (hlexeme : Lexeme kind lexeme rest) : Cut pos text (lexeme ++ rest') tokens := by
  obtain ⟨d, inner, rfl⟩ := List.exists_cons_of_ne_nil hlexeme.used_ne_nil
  exact hcut.before (fun _ hfiller => hfiller.before_of_head? rfl)
    fun _ _ hused => hused.before_of_head? rfl

/-- At its end, white space may be put behind a text. A comment that is open there takes what
comes before the end of its line. -/
theorem Cut.append_padding (hcut : Cut pos text [] tokens) (hpadding : Padding padding) :
    Cut pos (text ++ padding) [] tokens := by
  generalize hend : ([] : List Char) = ending at hcut
  induction hcut with
  | nil => exact hend ▸ hpadding.cut
  | @filler pos used text rest tokens hfiller hcut ih =>
    subst hend
    rw [List.append_assoc]
    cases text with
    | cons d text => exact .filler (hfiller.before_of_head? rfl) (ih rfl)
    | nil =>
      obtain rfl := hcut.unique .nil
      cases hfiller with
      | blank hblank => exact .filler (.blank hblank) hpadding.cut
      | @comment opening body _ hopening hbody _ =>
        obtain ⟨line, below, rfl, hline, hbelow, hrest⟩ := hpadding.exists_line
        have hcomment : Filler (opening ++ (body ++ line)) (below ++ []) :=
          .comment hopening (by simp [hbody, hline]) (by simpa using hbelow)
        have hlonger : Cut pos _ [] [] := .filler hcomment hrest.cut
        simpa using hlonger
  | @lexeme pos used text rest kind tokens hlexeme hcut ih =>
    subst hend
    rw [List.append_assoc]
    cases text with
    | cons d text => exact .lexeme (hlexeme.before_of_head? rfl) (ih rfl)
    | nil =>
      refine .lexeme ?_ (ih rfl)
      simpa using hlexeme.before_padding hpadding

end FsmCompiler.Token
