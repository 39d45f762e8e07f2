/-
# Cutting a text before another one

A text is cut into gaps and lexemes, and what follows it is left alone. Texts that are cut
can be put one behind the other, and what is scanned from a text is what it is cut into and
then what is scanned from the text behind. How a lexeme ends depends on one character behind
it, and a blank ends them all.
-/

import FsmCompiler.Proofs.Scanning

namespace FsmCompiler.Token

open Source (Position)

/-- The tokens of a text that starts at `pos`, where `rest` follows. -/
inductive Cut : Position → (text rest : List Char) → List Token → Prop
  | nil {pos rest} : Cut pos [] rest []
  | filler {pos filler text rest tokens} (hfiller : Filler filler (text ++ rest))
      (hcut : Cut (pos.after filler) text rest tokens) : Cut pos (filler ++ text) rest tokens
  | lexeme {pos lexeme text rest kind tokens} (hlexeme : Lexeme kind lexeme (text ++ rest))
      (hcut : Cut (pos.after lexeme) text rest tokens) :
      Cut pos (lexeme ++ text) rest (⟨kind, String.ofList lexeme, pos⟩ :: tokens)

variable {pos : Position} {used text rest rest' : List Char} {kind : TokenKind}
  {tokens later : List Token} {c : Char}

/-! ## What follows a piece -/

theorem not_wordChar_of_isBlank (hblank : isBlank c = true) : ¬ WordChar c ∧ ¬ NumeralChar c := by
  have hall : ∀ d ∈ [' ', '\t', '\r', '\n'],
      isWordRest d = false ∧ isNumberRest d = false := by
    simp only [List.forall_mem_cons, List.not_mem_nil, false_implies, implies_true]
    decide
  obtain ⟨hword, hnumber⟩ := hall c (isBlank_iff.1 hblank)
  rw [← isWordRest_iff, ← isNumberRest_iff]
  simp [hword, hnumber]

/-- The text goes on with no word and no number. -/
def Apart (rest : List Char) : Prop := ∀ c ∈ rest.head?, ¬ WordChar c ∧ ¬ NumeralChar c

theorem apart_nil : Apart [] := by simp [Apart]

theorem apart_of_isBlank (hblank : isBlank c = true) : Apart (c :: rest) := by
  rintro _ ⟨⟩
  exact not_wordChar_of_isBlank hblank

/-- A lexeme stays one before a text that goes on with a word or a number only where the text
before did. -/
theorem Lexeme.before (hlexeme : Lexeme kind used rest)
    (hword : ∀ d ∈ rest'.head?, WordChar d → ∃ e ∈ rest.head?, WordChar e)
    (hnumeral : ∀ d ∈ rest'.head?, NumeralChar d → ∃ e ∈ rest.head?, NumeralChar e) :
    Lexeme kind used rest' := by
  cases hlexeme with
  | word hstart hinside hend hkind =>
    refine .word hstart hinside (fun d hd hgoes => ?_) hkind
    obtain ⟨e, he, hgoes⟩ := hword d hd hgoes
    exact hend e he hgoes
  | number hstart hletter hdigits hend =>
    refine .number hstart hletter hdigits fun d hd hgoes => ?_
    obtain ⟨e, he, hgoes⟩ := hnumeral d hd hgoes
    exact hend e he hgoes
  | string hquote hbody => exact .string hquote hbody
  | arrow => exact .arrow
  | punctuation hkind => exact .punctuation hkind

theorem Lexeme.before_apart (hlexeme : Lexeme kind used rest) (hapart : Apart rest') :
    Lexeme kind used rest' :=
  hlexeme.before (fun d hd hword => absurd hword (hapart d hd).1)
    fun d hd hnumeral => absurd hnumeral (hapart d hd).2

theorem Lexeme.before_of_head? (hlexeme : Lexeme kind used rest)
    (hhead : rest'.head? = rest.head?) : Lexeme kind used rest' :=
  hlexeme.before (fun d hd hword => ⟨d, hhead ▸ hd, hword⟩)
    fun d hd hnumeral => ⟨d, hhead ▸ hd, hnumeral⟩

theorem Filler.before_of_head? (hfiller : Filler used rest)
    (hhead : rest'.head? = rest.head?) : Filler used rest' := by
  cases hfiller with
  | blank hblank => exact .blank hblank
  | comment hopening hbody hend =>
    refine .comment hopening hbody (hend.imp ?_ hhead.trans)
    rintro rfl
    exact List.head?_eq_none_iff.1 hhead

/-- What is behind a text may change where it ends no piece that it did not end before. -/
theorem Cut.before (hcut : Cut pos text rest tokens)
    (hfiller : ∀ used, Filler used rest → Filler used rest')
    (hlexeme : ∀ kind used, Lexeme kind used rest → Lexeme kind used rest') :
    Cut pos text rest' tokens := by
  induction hcut with
  | nil => exact .nil
  | @filler _ _ text _ _ hpiece _ ih =>
    refine .filler ?_ (ih hfiller hlexeme)
    cases text with
    | nil => exact hfiller _ hpiece
    | cons => exact hpiece.before_of_head? rfl
  | @lexeme _ _ text _ _ _ hpiece _ ih =>
    refine .lexeme ?_ (ih hfiller hlexeme)
    cases text with
    | nil => exact hlexeme _ _ hpiece
    | cons => exact hpiece.before_of_head? rfl

/-- A line end may follow every text that is cut. -/
theorem Cut.before_line (hcut : Cut pos text rest tokens) :
    Cut pos text ('\n' :: rest') tokens := by
  apply hcut.before
  · intro used hfiller
    cases hfiller with
    | blank hblank => exact .blank hblank
    | comment hopening hbody _ => exact .comment hopening hbody (.inr rfl)
  · exact fun kind used hlexeme => hlexeme.before_apart (apart_of_isBlank rfl)

/-- Texts that are cut can be put one behind the other. -/
theorem Cut.append (hfirst : Cut pos used (text ++ rest) tokens)
    (hsecond : Cut (pos.after used) text rest later) :
    Cut pos (used ++ text) rest (tokens ++ later) := by
  generalize hbehind : text ++ rest = behind at hfirst
  induction hfirst with
  | nil => exact hsecond
  | filler hfiller _ ih =>
    subst hbehind
    rw [Position.after_append] at hsecond
    rw [List.append_assoc]
    exact .filler (by simpa using hfiller) (ih hsecond rfl)
  | lexeme hlexeme _ ih =>
    subst hbehind
    rw [Position.after_append] at hsecond
    rw [List.append_assoc, List.cons_append]
    exact .lexeme (by simpa using hlexeme) (ih hsecond rfl)

/-! ## Scanning -/

theorem scanFrom_filler_append (hfiller : Filler used rest) :
    scanFrom pos (used ++ rest) = scanFrom (pos.after used) rest := by
  have hne : ∃ c later, used ++ rest = c :: later := by
    cases hfiller with
    | blank => exact ⟨_, _, rfl⟩
    | comment hopening => rcases hopening with rfl | rfl <;> exact ⟨_, _, rfl⟩
  obtain ⟨c, later, htext⟩ := hne
  rw [htext, scanFrom_cons, hfiller.first_eq htext]

theorem scanFrom_lexeme_append (hlexeme : Lexeme kind used rest) :
    scanFrom pos (used ++ rest) =
      (scanFrom (pos.after used) rest).map (⟨kind, String.ofList used, pos⟩ :: ·) := by
  have hne : ∃ c later, used ++ rest = c :: later := by
    cases hlexeme <;> exact ⟨_, _, rfl⟩
  obtain ⟨c, later, htext⟩ := hne
  rw [htext, scanFrom_cons, hlexeme.first_eq htext]

/-- What is scanned from a text that is cut comes before what is scanned behind it. -/
theorem Cut.scanFrom_append (hcut : Cut pos text rest tokens) :
    scanFrom pos (text ++ rest) = (scanFrom (pos.after text) rest).map (tokens ++ ·) := by
  induction hcut with
  | @nil pos rest =>
    rw [List.nil_append, Position.after_nil]
    cases scanFrom pos rest <;> rfl
  | filler hfiller _ ih =>
    rw [List.append_assoc, scanFrom_filler_append hfiller, ih, Position.after_append]
  | lexeme hlexeme _ ih =>
    rw [List.append_assoc, scanFrom_lexeme_append hlexeme, ih, Position.after_append]
    cases scanFrom _ _ <;> rfl

/-- A text is scanned by cutting it to the end; one more token is for the end. -/
theorem scanFrom_eq_ok_iff_cut :
    scanFrom pos text = .ok tokens ↔
      ∃ front, Cut pos text [] front ∧ tokens = front ++ [endAt (pos.after text)] := by
  constructor
  · intro hscan
    fun_induction scanFrom pos text generalizing tokens with
    | case1 =>
      cases hscan
      exact ⟨[], .nil, rfl⟩
    | case2 => cases hscan
    | case3 pos c rest piece hpiece later hkind =>
      rename_i ih
      obtain ⟨front, hcut, htokens⟩ := ih hscan
      have hfiller := Piece.first_spec hpiece
      rw [hkind] at hfiller
      rw [← Piece.used_append_rest hpiece, Position.after_append]
      exact ⟨front, .filler (by simpa using hfiller) hcut, htokens⟩
    | case4 pos c rest piece hpiece later kind hkind =>
      rename_i ih
      cases hlater : later with
      | error fault => simp [hlater, Except.map] at hscan
      | ok behind =>
        simp only [hlater, Except.map, Except.ok.injEq] at hscan
        obtain ⟨front, hcut, rfl⟩ := ih hlater
        have hlexeme := Piece.first_spec hpiece
        rw [hkind] at hlexeme
        rw [← Piece.used_append_rest hpiece, Position.after_append]
        exact ⟨_ :: front, .lexeme (by simpa using hlexeme) hcut, hscan.symm⟩
  · rintro ⟨front, hcut, rfl⟩
    have hscan := hcut.scanFrom_append
    rw [List.append_nil] at hscan
    rw [hscan, scanFrom]
    rfl

theorem cut_of_scanFrom (hscan : scanFrom pos text = .ok (tokens ++ [endAt (pos.after text)])) :
    Cut pos text [] tokens := by
  obtain ⟨front, hcut, htokens⟩ := scanFrom_eq_ok_iff_cut.1 hscan
  rwa [List.append_cancel_right htokens]

end FsmCompiler.Token
