/-
# Scanning loses and invents nothing

A text is gaps with lexemes between them. A gap is made of blanks and comments, and a
lexeme is what one token is read from; words, numbers and comments are as long as they
can be. Each token stands where its lexeme begins, and one more token, for the end of
the text, stands behind the last gap. Where a text is no such row, scanning stops at
the first place at which neither a gap nor a lexeme goes on.

The relations here say which texts these are without scanning them.
-/

import FsmCompiler.Token.Scan
import Mathlib.Data.List.Induction
import Mathlib.Data.List.TakeWhile

namespace FsmCompiler.Token

open Text (isLetter isDigit isAlphanumeric)
open Source (Position)

/-! ## Gaps and lexemes -/

/-- The place behind a text: one line for each line end in it, and one column for each
character behind the last line end, counted from one. -/
def placeBehind (before : List Char) : Position :=
  ⟨before.count '\n' + 1, (before.reverse.takeWhile (· != '\n')).length + 1⟩

/-- A blank or a comment before the text `rest`. A comment ends where its line does. -/
inductive Filler : (used rest : List Char) → Prop
  | blank {c rest} (hblank : c ∈ [' ', '\t', '\r', '\n']) : Filler [c] rest
  | comment {opening body rest} (hopening : opening = ['#'] ∨ opening = ['/', '/'])
      (hbody : '\n' ∉ body) (hend : rest = [] ∨ rest.head? = some '\n') :
      Filler (opening ++ body) rest

/-- Blanks and comments before the text `rest`. -/
inductive Gap : (used rest : List Char) → Prop
  | nil {rest} : Gap [] rest
  | cons {filler gap rest} (hfiller : Filler filler (gap ++ rest)) (hgap : Gap gap rest) :
      Gap (filler ++ gap) rest

/-- The characters of a string behind its opening quote, with the closing one. A
backslash goes together with whatever character is behind it. -/
inductive Quoted (quote : Char) : List Char → Prop
  | closing : Quoted quote [quote]
  | plain {c body} (hplain : c ∉ [quote, '\\', '\n']) (hbody : Quoted quote body) :
      Quoted quote (c :: body)
  | escaped {c body} (hbody : Quoted quote body) : Quoted quote ('\\' :: c :: body)

/-- The characters of which words are made. -/
def WordChar (c : Char) : Prop := isAlphanumeric c = true ∨ c = '_'

/-- The characters of which numbers are made. -/
def NumeralChar (c : Char) : Prop := isDigit c = true ∨ c = '.'

/-- A word has the kind of the keyword that it is, or is an identifier. -/
def WordKind (word : String) (kind : TokenKind) : Prop :=
  (word, kind) ∈ TokenKind.keywords ∨
    kind = .identifier ∧ word ∉ TokenKind.keywords.map (·.1)

/-- The characters of a token of some kind, before the text `rest`. Words and numbers end
where `rest` cannot belong to them. -/
inductive Lexeme : TokenKind → (used rest : List Char) → Prop
  | word {kind c word rest} (hstart : isLetter c = true ∨ c = '_')
      (hword : ∀ d ∈ word, WordChar d) (hend : ∀ d ∈ rest.head?, ¬ WordChar d)
      (hkind : WordKind (String.ofList (c :: word)) kind) : Lexeme kind (c :: word) rest
  | number {c digits rest} (hstart : isDigit c = true) (hletter : isLetter c = false)
      (hdigits : ∀ d ∈ digits, NumeralChar d) (hend : ∀ d ∈ rest.head?, ¬ NumeralChar d) :
      Lexeme .number (c :: digits) rest
  | string {quote body rest} (hquote : quote = '"' ∨ quote = '\'') (hbody : Quoted quote body) :
      Lexeme .string (quote :: body) rest
  | arrow {rest} : Lexeme .arrow ['=', '>'] rest
  | punctuation {c kind rest} (hkind : TokenKind.ofPunctuation c = some kind) :
      Lexeme kind [c] rest

/-- A text at whose beginning there is no gap and no lexeme: a quote that is not closed
in time, or a character that begins nothing. -/
inductive Stuck : List Char → ScanError → Prop
  | string {quote rest} (hquote : quote = '"' ∨ quote = '\'')
      (hopen : ∀ body later, body ++ later = rest → ¬ Quoted quote body) :
      Stuck (quote :: rest) .unterminatedString
  | character {c rest} (hquote : ¬ (c = '"' ∨ c = '\''))
      (hgap : ∀ used later, used ++ later = c :: rest → ¬ Filler used later)
      (hlexeme : ∀ kind used later, used ++ later = c :: rest → ¬ Lexeme kind used later) :
      Stuck (c :: rest) (.unexpectedCharacter c)

/-- The tokens of a text, of which `before` lies behind: one for each lexeme and one for
the end. -/
inductive Lexed : (before text : List Char) → List Token → Prop
  | ends {before gap} (hgap : Gap gap []) :
      Lexed before gap [⟨.endOfInput, "", placeBehind (before ++ gap)⟩]
  | token {before gap lexeme rest kind tokens} (hgap : Gap gap (lexeme ++ rest))
      (hlexeme : Lexeme kind lexeme rest) (hrest : Lexed (before ++ gap ++ lexeme) rest tokens) :
      Lexed before (gap ++ lexeme ++ rest)
        (⟨kind, String.ofList lexeme, placeBehind (before ++ gap)⟩ :: tokens)

/-- The fault of a text, of which `before` lies behind: gaps and lexemes lead up to a place
where the text is stuck. -/
inductive Faulty : (before text : List Char) → ScanFault → Prop
  | stuck {before gap rest cause} (hgap : Gap gap rest) (hstuck : Stuck rest cause) :
      Faulty before (gap ++ rest) ⟨cause, placeBehind (before ++ gap)⟩
  | token {before gap lexeme rest kind fault} (hgap : Gap gap (lexeme ++ rest))
      (hlexeme : Lexeme kind lexeme rest) (hrest : Faulty (before ++ gap ++ lexeme) rest fault) :
      Faulty before (gap ++ lexeme ++ rest) fault

/-! ## Places -/

variable {c quote : Char} {before used text rest later : List Char} {kind : TokenKind}
  {cause : ScanError} {tokens : List Token} {fault : ScanFault}

/-- Counting the line ends of a text is moving along it. -/
theorem after_start (before : List Char) : Position.start.after before = placeBehind before := by
  induction before using List.reverseRecOn with
  | nil => rfl
  | append_singleton before c ih =>
    rw [Position.after_append, ih, Position.after_cons, Position.after_nil]
    by_cases hc : c = '\n'
    · simp [Position.next, placeBehind, hc]
    · simp [Position.next, placeBehind, hc]

/-! ## Characters apart -/

/-- Characters that are no letters and no digits. -/
def signs : List Char :=
  [' ', '\t', '\r', '\n', '#', '/', '"', '\'', '=', '{', '}', '[', ']', '(', ')', ':', ',',
    ';', '.', '|']

theorem not_word_of_mem_signs (hc : c ∈ signs) : isWordStart c = false ∧ isDigit c = false := by
  have hall : ∀ d ∈ signs, isWordStart d = false ∧ isDigit d = false := by
    simp only [signs, List.forall_mem_cons, List.not_mem_nil, false_implies, implies_true]
    decide
  exact hall c hc

theorem isBlank_iff : isBlank c = true ↔ c ∈ [' ', '\t', '\r', '\n'] := by
  simp [isBlank, or_assoc]

theorem isWordStart_iff : isWordStart c = true ↔ isLetter c = true ∨ c = '_' := by
  simp [isWordStart]

theorem isWordRest_iff : isWordRest c = true ↔ WordChar c := by
  simp [isWordRest, WordChar]

theorem isNumberRest_iff : isNumberRest c = true ↔ NumeralChar c := by
  simp [isNumberRest, NumeralChar]

/-- What may begin a word or a number begins no gap. -/
theorem not_filler_of_not_sign (rest : List Char) (hc : c ∉ signs) :
    isBlank c = false ∧ startsComment c rest = false := by
  simp only [signs, List.mem_cons, List.not_mem_nil, or_false, not_or] at hc
  simp [isBlank, startsComment, hc]

/-- Punctuation begins nothing but itself. -/
theorem punctuation_apart (hkind : TokenKind.ofPunctuation c = some kind) (rest : List Char) :
    c ∈ signs ∧ isBlank c = false ∧ startsComment c rest = false ∧
      ¬ (c = '"' ∨ c = '\'') ∧ c ≠ '=' := by
  unfold TokenKind.ofPunctuation at hkind
  split at hkind <;> cases hkind <;> simp [signs, isBlank, startsComment]

/-! ## Reading to the end of a class -/

theorem Piece.while_append (kindOf : List Char → Option TokenKind) (c : Char) {p : Char → Bool}
    (hused : ∀ d ∈ used, p d = true) (hend : ∀ d ∈ rest.head?, p d = false) :
    Piece.while kindOf p c (used ++ rest) = ⟨kindOf (c :: used), c :: used, rest⟩ := by
  have hstop : rest.takeWhile p = [] ∧ rest.dropWhile p = rest := by
    cases rest with
    | nil => exact ⟨rfl, rfl⟩
    | cons d rest => simp [hend d rfl]
  rw [Piece.while, List.takeWhile_append_of_pos hused, List.dropWhile_append_of_pos hused,
    hstop.1, hstop.2, List.append_nil]

theorem head?_dropWhile {p : Char → Bool} : ∀ d ∈ (text.dropWhile p).head?, p d = false := by
  intro d hd
  have hnot := List.head?_dropWhile_not p text
  rw [Option.mem_def] at hd
  rw [hd] at hnot
  exact hnot

/-! ## Strings -/

theorem stringBody_of_quoted (hquote : quote = '"' ∨ quote = '\'') (hbody : Quoted quote used) :
    stringBody quote (used ++ rest) = some (used, rest) := by
  have hbackslash : '\\' ≠ quote := by
    rintro rfl
    exact absurd hquote (by decide)
  induction hbody with
  | closing =>
    rw [List.singleton_append, stringBody.eq_def]
    exact if_pos rfl
  | @plain c body hplain _ ih =>
    simp only [List.mem_cons, List.not_mem_nil, or_false, not_or] at hplain
    obtain ⟨hclosing, hescape, hline⟩ := hplain
    rw [List.cons_append, stringBody.eq_def]
    simp only [if_neg hclosing, if_neg hline, if_neg hescape, ih, Option.map_some]
  | @escaped c body _ ih =>
    have hline : '\\' ≠ '\n' := by decide
    rw [List.cons_append, List.cons_append, stringBody.eq_def]
    simp only [if_neg hbackslash, if_neg hline, if_true, ih, Option.map_some]

theorem quoted_of_stringBody (hbody : stringBody quote text = some (used, rest)) :
    Quoted quote used := by
  fun_induction stringBody quote text generalizing used rest with
  | case1 => cases hbody
  | case2 =>
    cases hbody
    exact .closing
  | case3 => cases hbody
  | case4 => cases hbody
  | case5 escaped text _ _ ih =>
    obtain ⟨⟨body, after⟩, hinner, heq⟩ := Option.map_eq_some_iff.1 hbody
    cases heq
    exact .escaped (ih hinner)
  | case6 c text hquote hline hbackslash ih =>
    obtain ⟨⟨body, after⟩, hinner, heq⟩ := Option.map_eq_some_iff.1 hbody
    cases heq
    exact .plain (by simp [hquote, hline, hbackslash]) (ih hinner)

/-! ## Words -/

theorem wordKind_ofWord (word : String) : WordKind word (.ofWord word) := by
  unfold TokenKind.ofWord
  cases hlookup : TokenKind.keywords.lookup word with
  | some kind =>
    left
    obtain ⟨front, back, hsplit, -⟩ := List.lookup_eq_some_iff.1 hlookup
    rw [hsplit]
    exact List.mem_append_right _ List.mem_cons_self
  | none =>
    right
    refine ⟨rfl, fun hmem => ?_⟩
    obtain ⟨entry, hentry, rfl⟩ := List.mem_map.1 hmem
    have hne := List.lookup_eq_none_iff.1 hlookup entry hentry
    simp at hne

/-- A word has one kind. -/
theorem ofWord_eq_of_wordKind {word : String} (hkind : WordKind word kind) :
    TokenKind.ofWord word = kind := by
  rcases hkind with hkeyword | ⟨rfl, hword⟩
  · unfold TokenKind.keywords at hkeyword
    simp only [List.mem_cons, Prod.mk.injEq, List.not_mem_nil, or_false] at hkeyword
    rcases hkeyword with ⟨rfl, rfl⟩ | ⟨rfl, rfl⟩ | ⟨rfl, rfl⟩ | ⟨rfl, rfl⟩ <;> decide
  · have hlookup : TokenKind.keywords.lookup word = none := by
      refine List.lookup_eq_none_iff.2 fun entry hentry => ?_
      have hne : word ≠ entry.1 := fun heq => hword (heq ▸ List.mem_map.2 ⟨entry, hentry, rfl⟩)
      simpa using hne
    rw [TokenKind.ofWord, hlookup]
    rfl

/-! ## The first piece of a text -/

theorem Piece.first_of_quote (hquote : quote = '"' ∨ quote = '\'') :
    Piece.first quote rest =
      match stringBody quote rest with
      | some (body, rest) => .ok ⟨some .string, quote :: body, rest⟩
      | none => .error .unterminatedString := by
  have hapart : quote ∈ signs ∧ isBlank quote = false ∧ startsComment quote rest = false := by
    rcases hquote with rfl | rfl <;> simp [signs, isBlank, startsComment]
  obtain ⟨hsign, hblank, hcomment⟩ := hapart
  obtain ⟨hword, hdigit⟩ := not_word_of_mem_signs hsign
  cases hbody : stringBody quote rest <;>
    simp only [Piece.first, hblank, hcomment, hword, hdigit, Bool.false_eq_true, if_false,
      if_pos hquote, hbody]

/-- A blank or a comment is the first piece of its text. -/
theorem Filler.first_eq (hfiller : Filler used later) (htext : used ++ later = c :: rest) :
    Piece.first c rest = .ok ⟨none, used, later⟩ := by
  cases hfiller with
  | blank hblank =>
    cases htext
    exact if_pos (isBlank_iff.2 hblank)
  | @comment opening body _ hopening hbody hend =>
    have hinside : ∀ d ∈ body, (d != '\n') = true := by
      rintro d hd
      exact bne_iff_ne.2 fun hline => hbody (hline ▸ hd)
    have hstop : ∀ d ∈ later.head?, (d != '\n') = false := by
      rcases hend with rfl | hline
      · simp
      · simp [hline]
    rcases hopening with rfl | rfl
    · cases htext
      have hpiece := Piece.while_append (fun _ => none) '#' hinside hstop
      exact congrArg Except.ok hpiece
    · cases htext
      have hboth : ∀ d ∈ '/' :: body, (d != '\n') = true := by simpa using hinside
      have hpiece := Piece.while_append (fun _ => none) '/' hboth hstop
      exact congrArg Except.ok hpiece

/-- A lexeme is the first piece of its text. -/
theorem Lexeme.first_eq (hlexeme : Lexeme kind used later) (htext : used ++ later = c :: rest) :
    Piece.first c rest = .ok ⟨some kind, used, later⟩ := by
  cases hlexeme with
  | @word _ first word _ hstart hword hend hkind =>
    obtain ⟨rfl, rfl⟩ := List.cons.inj htext
    have hbegins := isWordStart_iff.2 hstart
    have hsign : first ∉ signs := fun hmem => by
      simp [(not_word_of_mem_signs hmem).1] at hbegins
    obtain ⟨hblank, hcomment⟩ := not_filler_of_not_sign (word ++ later) hsign
    have hpiece := Piece.while_append (fun word => some (.ofWord (String.ofList word))) first
      (fun d hd => isWordRest_iff.2 (hword d hd))
      (fun d hd => Bool.eq_false_iff.2 fun h => hend d hd (isWordRest_iff.1 h))
    rw [ofWord_eq_of_wordKind hkind] at hpiece
    simp [Piece.first, hblank, hcomment, hbegins, hpiece]
  | @number first digits _ hstart hletter hdigits hend =>
    obtain ⟨rfl, rfl⟩ := List.cons.inj htext
    have hsign : first ∉ signs := fun hmem => by
      simp [(not_word_of_mem_signs hmem).2] at hstart
    obtain ⟨hblank, hcomment⟩ := not_filler_of_not_sign (digits ++ later) hsign
    have hunderscore : first ≠ '_' := by
      rintro rfl
      exact absurd hstart (by decide)
    have hword : isWordStart first = false := by simp [isWordStart, hletter, hunderscore]
    have hpiece := Piece.while_append (fun _ => some .number) first
      (fun d hd => isNumberRest_iff.2 (hdigits d hd))
      (fun d hd => Bool.eq_false_iff.2 fun h => hend d hd (isNumberRest_iff.1 h))
    simp [Piece.first, hblank, hcomment, hword, hstart, hpiece]
  | @string quote body _ hquote hbody =>
    obtain ⟨rfl, rfl⟩ := List.cons.inj htext
    rw [Piece.first_of_quote hquote]
    have hread : stringBody quote (body.append later) = some (body, later) :=
      stringBody_of_quoted hquote hbody
    rw [hread]
  | arrow =>
    cases htext
    rfl
  | @punctuation sign _ _ hkind =>
    obtain ⟨rfl, rfl⟩ := List.cons.inj htext
    obtain ⟨hsign, hblank, hcomment, hquote, harrow⟩ := punctuation_apart hkind later
    obtain ⟨hword, hdigit⟩ := not_word_of_mem_signs hsign
    simp [Piece.first, hblank, hcomment, hword, hdigit, hquote, harrow, hkind]

/-- A comment goes on to the end of its line. -/
theorem filler_of_startsComment (hcomment : startsComment c rest = true) :
    Filler (c :: rest.takeWhile (· != '\n')) (rest.dropWhile (· != '\n')) := by
  have hbody : ∀ {text : List Char}, '\n' ∉ text.takeWhile (· != '\n') := by
    intro text hmem
    have hne := List.mem_takeWhile_imp hmem
    simp at hne
  have hend : rest.dropWhile (· != '\n') = [] ∨ (rest.dropWhile (· != '\n')).head? = some '\n' := by
    cases hrest : rest.dropWhile (· != '\n') with
    | nil => exact .inl rfl
    | cons d later =>
      have hline := head?_dropWhile (p := (· != '\n')) d (by rw [hrest]; rfl)
      right
      simpa using hline
  rcases (Bool.or_eq_true _ _).mp hcomment with hhash | hslashes
  · rw [beq_iff_eq.1 hhash]
    exact .comment (.inl rfl) hbody hend
  · obtain ⟨hslash, hnext⟩ := Bool.and_eq_true_iff.1 hslashes
    cases rest with
    | nil => cases hnext
    | cons d rest =>
      obtain rfl : c = '/' := beq_iff_eq.1 hslash
      obtain rfl : d = '/' := Option.some.inj (beq_iff_eq.1 hnext)
      exact .comment (.inr rfl) hbody hend

/-- Where no piece is found, the character at hand says why. -/
theorem cause_of_first_eq_error (hfirst : Piece.first c rest = .error cause) :
    (c = '"' ∨ c = '\'') ∧ cause = .unterminatedString ∧ stringBody c rest = none ∨
      ¬ (c = '"' ∨ c = '\'') ∧ cause = .unexpectedCharacter c := by
  unfold Piece.first at hfirst
  split at hfirst
  · cases hfirst
  split at hfirst
  · cases hfirst
  split at hfirst
  · cases hfirst
  split at hfirst
  · cases hfirst
  split at hfirst
  · rename_i hquote
    split at hfirst
    · cases hfirst
    · cases hfirst
      exact .inl ⟨hquote, rfl, ‹_›⟩
  rename_i hquote
  split at hfirst
  · cases hfirst
  split at hfirst
  · cases hfirst
  · cases hfirst
    exact .inr ⟨hquote, rfl⟩

/-- What is read first belongs to a gap or is a lexeme. -/
theorem Piece.first_spec {piece : Piece} (hfirst : Piece.first c rest = .ok piece) :
    match piece.kind with
    | none => Filler piece.used piece.rest
    | some kind => Lexeme kind piece.used piece.rest := by
  have hstop {p : Char → Bool} : ∀ d ∈ (rest.dropWhile p).head?, ¬ p d = true := by
    intro d hd
    simp [head?_dropWhile d hd]
  have hinside {p : Char → Bool} : ∀ d ∈ rest.takeWhile p, p d = true :=
    fun d hd => List.mem_takeWhile_imp hd
  unfold Piece.first at hfirst
  split at hfirst
  · rename_i hblank
    cases hfirst
    exact .blank (isBlank_iff.1 hblank)
  split at hfirst
  · rename_i hcomment
    cases hfirst
    exact filler_of_startsComment hcomment
  split at hfirst
  · rename_i hword
    cases hfirst
    exact .word (isWordStart_iff.1 hword) (fun d hd => isWordRest_iff.1 (hinside d hd))
      (fun d hd h => hstop d hd (isWordRest_iff.2 h)) (wordKind_ofWord _)
  split at hfirst
  · rename_i hword hdigit
    cases hfirst
    have hletter : isLetter c = false := by
      rw [isWordStart_iff, not_or] at hword
      simpa using hword.1
    exact .number hdigit hletter (fun d hd => isNumberRest_iff.1 (hinside d hd))
      (fun d hd h => hstop d hd (isNumberRest_iff.2 h))
  split at hfirst
  · rename_i hquote
    split at hfirst
    · rename_i body later hbody
      cases hfirst
      exact .string hquote (quoted_of_stringBody hbody)
    · cases hfirst
  split at hfirst
  · cases hfirst
    exact .arrow
  split at hfirst
  · rename_i kind hkind
    cases hfirst
    exact .punctuation hkind
  · cases hfirst

/-- No piece is found exactly where the text is stuck. -/
theorem first_eq_error_iff : Piece.first c rest = .error cause ↔ Stuck (c :: rest) cause := by
  constructor
  · intro hfirst
    rcases cause_of_first_eq_error hfirst with ⟨hquote, rfl, hopen⟩ | ⟨hquote, rfl⟩
    · refine .string hquote fun body later htext hbody => ?_
      rw [← htext, stringBody_of_quoted hquote hbody] at hopen
      cases hopen
    · apply Stuck.character hquote
      · intro used later htext hfiller
        rw [hfiller.first_eq htext] at hfirst
        cases hfirst
      · intro kind used later htext hlexeme
        rw [hlexeme.first_eq htext] at hfirst
        cases hfirst
  · intro hstuck
    cases hstuck with
    | string hquote hopen =>
      rw [Piece.first_of_quote hquote]
      cases hbody : stringBody c rest with
      | none => rfl
      | some found =>
        exact absurd (quoted_of_stringBody hbody) (hopen _ _ (stringBody_append hbody))
    | character hquote hgap hlexeme =>
      cases hfirst : Piece.first c rest with
      | error cause =>
        rcases cause_of_first_eq_error hfirst with ⟨hquote', -, -⟩ | ⟨-, rfl⟩
        · exact absurd hquote' hquote
        · rfl
      | ok piece =>
        have hspec := Piece.first_spec hfirst
        have htext := Piece.used_append_rest hfirst
        cases hkind : piece.kind with
        | none =>
          rw [hkind] at hspec
          exact absurd hspec (hgap _ _ htext)
        | some kind =>
          rw [hkind] at hspec
          exact absurd hspec (hlexeme _ _ _ htext)

/-! ## The whole text -/

theorem after_placeBehind : (placeBehind before).after used = placeBehind (before ++ used) := by
  rw [← after_start, ← after_start, Position.after_append]

theorem scanFrom_cons {pos : Position} :
    scanFrom pos (c :: rest) =
      match Piece.first c rest with
      | .error cause => .error ⟨cause, pos⟩
      | .ok piece =>
        match piece.kind with
        | none => scanFrom (pos.after piece.used) piece.rest
        | some kind => (scanFrom (pos.after piece.used) piece.rest).map
            (⟨kind, String.ofList piece.used, pos⟩ :: ·) := by
  rw [scanFrom.eq_def]
  dsimp only
  split
  · rename_i hfirst
    simp only [hfirst]
  · rename_i piece hfirst
    cases hkind : piece.kind <;> simp only [hfirst, hkind]

theorem scanFrom_of_error {pos : Position} (hfirst : Piece.first c rest = .error cause) :
    scanFrom pos (c :: rest) = .error ⟨cause, pos⟩ := by
  rw [scanFrom_cons, hfirst]

theorem scanFrom_of_filler {filler : List Char} (hfiller : Filler filler rest) :
    scanFrom (placeBehind before) (filler ++ rest) =
      scanFrom (placeBehind (before ++ filler)) rest := by
  have hne : ∃ c later, filler ++ rest = c :: later := by
    cases hfiller with
    | blank => exact ⟨_, _, rfl⟩
    | comment hopening => rcases hopening with rfl | rfl <;> exact ⟨_, _, rfl⟩
  obtain ⟨c, later, htext⟩ := hne
  rw [htext, scanFrom_cons, hfiller.first_eq htext, ← after_placeBehind]

theorem scanFrom_of_lexeme {lexeme : List Char} (hlexeme : Lexeme kind lexeme rest) :
    scanFrom (placeBehind before) (lexeme ++ rest) =
      (scanFrom (placeBehind (before ++ lexeme)) rest).map
        (⟨kind, String.ofList lexeme, placeBehind before⟩ :: ·) := by
  have hne : ∃ c later, lexeme ++ rest = c :: later := by
    cases hlexeme <;> exact ⟨_, _, rfl⟩
  obtain ⟨c, later, htext⟩ := hne
  rw [htext, scanFrom_cons, hlexeme.first_eq htext, ← after_placeBehind]

/-- Nothing is read from a gap. -/
theorem scanFrom_of_gap {gap : List Char} (hgap : Gap gap rest) :
    scanFrom (placeBehind before) (gap ++ rest) = scanFrom (placeBehind (before ++ gap)) rest := by
  induction hgap generalizing before with
  | nil => rw [List.nil_append, List.append_nil]
  | @cons filler gap rest hfiller _ ih =>
    rw [List.append_assoc, scanFrom_of_filler hfiller, ih, List.append_assoc]

theorem Lexed.scanFrom_eq (hlexed : Lexed before text tokens) :
    scanFrom (placeBehind before) text = .ok tokens := by
  induction hlexed with
  | @ends before gap hgap =>
    have hscan : scanFrom (placeBehind before) (gap ++ []) =
        scanFrom (placeBehind (before ++ gap)) [] := scanFrom_of_gap hgap
    rw [List.append_nil] at hscan
    rw [hscan, scanFrom]
    rfl
  | token hgap hlexeme _ ih =>
    rw [List.append_assoc, scanFrom_of_gap hgap, scanFrom_of_lexeme hlexeme, ih]
    rfl

theorem Faulty.scanFrom_eq (hfaulty : Faulty before text fault) :
    scanFrom (placeBehind before) text = .error fault := by
  induction hfaulty with
  | stuck hgap hstuck =>
    rw [scanFrom_of_gap hgap]
    cases hstuck with
    | string hquote hopen => exact scanFrom_of_error (first_eq_error_iff.2 (.string hquote hopen))
    | character hquote hfiller hlexeme =>
      exact scanFrom_of_error (first_eq_error_iff.2 (.character hquote hfiller hlexeme))
  | token hgap hlexeme _ ih =>
    rw [List.append_assoc, scanFrom_of_gap hgap, scanFrom_of_lexeme hlexeme, ih]
    rfl

/-- A blank or a comment before a text belongs to its first gap. -/
theorem Lexed.of_filler {filler : List Char} (hfiller : Filler filler text)
    (hlexed : Lexed (before ++ filler) text tokens) : Lexed before (filler ++ text) tokens := by
  cases hlexed with
  | ends hgap =>
    rw [List.append_assoc]
    exact .ends (.cons (by simpa using hfiller) hgap)
  | @token _ gap lexeme rest kind tokens hgap hlexeme hrest =>
    rw [List.append_assoc before, ← List.append_assoc filler, ← List.append_assoc filler]
    refine .token (.cons (by simpa using hfiller) hgap) hlexeme ?_
    simpa using hrest

theorem Faulty.of_filler {filler : List Char} (hfiller : Filler filler text)
    (hfaulty : Faulty (before ++ filler) text fault) : Faulty before (filler ++ text) fault := by
  cases hfaulty with
  | stuck hgap hstuck =>
    rw [List.append_assoc, ← List.append_assoc filler]
    exact .stuck (.cons hfiller hgap) hstuck
  | @token _ gap lexeme rest kind _ hgap hlexeme hrest =>
    rw [← List.append_assoc filler, ← List.append_assoc filler]
    refine .token (.cons (by simpa using hfiller) hgap) hlexeme ?_
    simpa using hrest

/-- What is scanned is what the text is made of. The induction takes one piece off the text
after the other. -/
theorem scanFrom_spec (before text : List Char) :
    match scanFrom (placeBehind before) text with
    | .ok tokens => Lexed before text tokens
    | .error fault => Faulty before text fault := by
  induction hlength : text.length using Nat.strongRecOn generalizing before text with
  | ind length ih =>
    subst hlength
    cases text with
    | nil =>
      rw [scanFrom]
      have hends : Lexed before [] [⟨.endOfInput, "", placeBehind (before ++ [])⟩] := .ends .nil
      rwa [List.append_nil] at hends
    | cons c rest =>
      cases hfirst : Piece.first c rest with
      | error cause =>
        rw [scanFrom_of_error hfirst]
        have hstuck : Faulty before ([] ++ c :: rest) ⟨cause, placeBehind (before ++ [])⟩ :=
          .stuck .nil (first_eq_error_iff.1 hfirst)
        rwa [List.append_nil] at hstuck
      | ok piece =>
        have htext := Piece.used_append_rest hfirst
        have hspec := Piece.first_spec hfirst
        have hlater := ih _ (by simpa using Piece.length_rest_lt hfirst) (before ++ piece.used)
          piece.rest rfl
        rw [← htext]
        cases hkind : piece.kind with
        | none =>
          rw [hkind] at hspec
          rw [scanFrom_of_filler hspec]
          split at hlater
          · exact .of_filler hspec hlater
          · exact .of_filler hspec hlater
        | some kind =>
          rw [hkind] at hspec
          rw [scanFrom_of_lexeme hspec]
          split at hlater
          · rename_i tokens hscan
            rw [hscan]
            have htoken : Lexed before ([] ++ piece.used ++ piece.rest)
                (⟨kind, String.ofList piece.used, placeBehind (before ++ [])⟩ :: tokens) :=
              .token .nil hspec (by simpa using hlater)
            rw [List.nil_append, List.append_nil] at htoken
            exact htoken
          · rename_i fault hscan
            rw [hscan]
            have hfaulty : Faulty before ([] ++ piece.used ++ piece.rest) fault :=
              .token .nil hspec (by simpa using hlater)
            exact hfaulty

theorem lexed_of_scan {text : String} (hscan : scan text = .ok tokens) :
    Lexed [] text.toList tokens := by
  have hspec := scanFrom_spec [] text.toList
  rw [show scanFrom (placeBehind []) text.toList = .ok tokens from hscan] at hspec
  exact hspec

theorem faulty_of_scan {text : String} (hscan : scan text = .error fault) :
    Faulty [] text.toList fault := by
  have hspec := scanFrom_spec [] text.toList
  rw [show scanFrom (placeBehind []) text.toList = .error fault from hscan] at hspec
  exact hspec

/-- Scanning loses and invents nothing. A text is scanned to tokens if and only if it is
gaps with their lexemes between them, each of which stands where its token says, and scanning
fails if and only if the text is stuck behind gaps and lexemes, at the place of the fault. -/
theorem scan_eq_iff (text : String) :
    (∀ tokens, scan text = .ok tokens ↔ Lexed [] text.toList tokens) ∧
      ∀ fault, scan text = .error fault ↔ Faulty [] text.toList fault :=
  ⟨fun _ => ⟨lexed_of_scan, Lexed.scanFrom_eq⟩, fun _ => ⟨faulty_of_scan, Faulty.scanFrom_eq⟩⟩

end FsmCompiler.Token
