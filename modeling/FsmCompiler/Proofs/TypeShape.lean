/-
# The shape of declared types

A type that a machine file declares is written with words, numbers, quoted texts, dots,
pipes, commas and brackets. In its text brackets match, commas stand inside brackets, and no
quoted text follows a word without a blank.
-/

import FsmCompiler.Proofs.Grammar
import FsmCompiler.Target.Lexeme
import FsmCompiler.Token.Scan

namespace FsmCompiler.Target

/-- What may stand between quotes. A backslash keeps the character behind it. -/
inductive QuotedChars (quote : Char) : List Char → Prop
  | nil : QuotedChars quote []
  | plain {c rest} (hquote : c ≠ quote) (hescape : c ≠ '\\') (hrest : QuotedChars quote rest) :
      QuotedChars quote (c :: rest)
  | escaped {c rest} (hrest : QuotedChars quote rest) : QuotedChars quote ('\\' :: c :: rest)

/-- The rest of a declared type inside `depth` brackets, directly behind a word or behind
something else. -/
inductive TypeChars : (depth : Nat) → (afterWord : Bool) → List Char → Prop
  | nil {afterWord} : TypeChars 0 afterWord []
  | word {depth afterWord c rest} (hword : mayContinueName c = true)
      (hrest : TypeChars depth true rest) : TypeChars depth afterWord (c :: rest)
  | mark {depth afterWord c rest} (hmark : c ∈ [' ', '.', '|'])
      (hrest : TypeChars depth false rest) : TypeChars depth afterWord (c :: rest)
  | comma {depth afterWord rest} (hrest : TypeChars (depth + 1) false rest) :
      TypeChars (depth + 1) afterWord (',' :: rest)
  | opening {depth afterWord c rest} (hopening : c ∈ ['(', '['])
      (hrest : TypeChars (depth + 1) false rest) : TypeChars depth afterWord (c :: rest)
  | closing {depth afterWord c rest} (hclosing : c ∈ [')', ']'])
      (hrest : TypeChars depth false rest) : TypeChars (depth + 1) afterWord (c :: rest)
  | quoted {depth quote body rest} (hquote : quote ∈ ['"', '\''])
      (hbody : QuotedChars quote body) (hrest : TypeChars depth true rest) :
      TypeChars depth false (quote :: body ++ quote :: rest)

variable {depth : Nat} {afterWord : Bool} {text rest : List Char}

/-! ## Blanks -/

/-- Only a blank is a gap in a type. -/
theorem TypeChars.eq_blank {c : Char} (htext : TypeChars depth afterWord (c :: rest))
    (hgap : isGap c = true) : c = ' ' ∧ TypeChars depth false rest := by
  have hgaps : c = ' ' ∨ c = '\t' ∨ c = '\x0c' := by
    simpa [isGap, or_assoc] using hgap
  cases htext with
  | word hword _ =>
    rcases hgaps with rfl | rfl | rfl <;> simp [mayContinueName, mayBeginName] at hword
  | mark hmark hrest => rcases hgaps with rfl | rfl | rfl <;> simp_all
  | comma _ => simp at hgaps
  | opening hopening _ => rcases hgaps with rfl | rfl | rfl <;> simp at hopening
  | closing hclosing _ => rcases hgaps with rfl | rfl | rfl <;> simp at hclosing
  | quoted hquote _ _ => rcases hgaps with rfl | rfl | rfl <;> simp at hquote

/-- Behind the gap at its start a type goes on as one. -/
theorem TypeChars.dropGap {p : Char → Bool} (htext : TypeChars depth afterWord text)
    (hgap : ∀ c, p c = true → isGap c = true) :
    ∃ w, (w = true → afterWord = true) ∧ TypeChars depth w (text.dropWhile p) := by
  induction text generalizing afterWord with
  | nil => exact ⟨afterWord, id, htext⟩
  | cons c rest ih =>
    rw [List.dropWhile_cons]
    split
    · rename_i hp
      obtain ⟨w, hw, hrest⟩ := ih (htext.eq_blank (hgap c hp)).2
      exact ⟨w, fun htrue => absurd (hw htrue) (by simp), hrest⟩
    · exact ⟨afterWord, id, htext⟩

/-- A blank at the end of a type may be left out. -/
theorem TypeChars.dropLast (htext : TypeChars depth afterWord (text ++ [' '])) :
    TypeChars depth afterWord text := by
  generalize hwhole : text ++ [' '] = whole at htext
  induction htext generalizing text with
  | nil => simp at hwhole
  | word hword hrest ih =>
    cases text with
    | nil => cases hwhole; simp [mayContinueName, mayBeginName] at hword
    | cons c text => cases hwhole; exact .word hword (ih rfl)
  | mark hmark hrest ih =>
    cases text with
    | nil =>
      cases hwhole
      cases hrest
      exact .nil
    | cons c text => cases hwhole; exact .mark hmark (ih rfl)
  | comma hrest ih =>
    cases text with
    | nil => cases hwhole
    | cons c text => cases hwhole; exact .comma (ih rfl)
  | opening hopening hrest ih =>
    cases text with
    | nil => cases hwhole; simp at hopening
    | cons c text => cases hwhole; exact .opening hopening (ih rfl)
  | closing hclosing hrest ih =>
    cases text with
    | nil => cases hwhole; simp at hclosing
    | cons c text => cases hwhole; exact .closing hclosing (ih rfl)
  | @quoted depth quote body rest hquote hbody hrest ih =>
    rcases List.eq_nil_or_concat rest with rfl | ⟨rest, last, rfl⟩
    · have hlast := congrArg List.getLast? hwhole
      simp only [List.getLast?_append, List.getLast?_singleton, Option.some_or,
        Option.some.injEq] at hlast
      rw [← hlast] at hquote
      simp at hquote
    · rw [List.concat_eq_append, ← List.cons_append, ← List.append_assoc] at hwhole
      obtain ⟨rfl, hlast⟩ := List.append_inj' hwhole rfl
      cases hlast
      exact .quoted hquote hbody (ih (List.concat_eq_append ..).symm)

theorem TypeChars.dropEnd {p : Char → Bool} (hgap : ∀ c, p c = true → c = ' ')
    (htext : TypeChars depth afterWord text.reverse) :
    TypeChars depth afterWord (text.dropWhile p).reverse := by
  induction text with
  | nil => exact htext
  | cons c rest ih =>
    rw [List.dropWhile_cons]
    split
    · rename_i hp
      rw [List.reverse_cons, hgap c hp] at htext
      exact ih htext.dropLast
    · exact htext

theorem TypeChars.trim {text : String} (htext : TypeChars 0 false text.toList) :
    TypeChars 0 false (TypeText.trim text).toList := by
  obtain ⟨w, hw, hfront⟩ := htext.dropGap (p := (· == ' ')) (by simp [isGap])
  have hw : w = false := by simpa using mt hw
  subst hw
  unfold TypeText.trim
  rw [String.toList_ofList]
  rw [← List.reverse_reverse (text.toList.dropWhile _)] at hfront
  exact hfront.dropEnd (by simp)

/-! ## Line ends -/

theorem uniformLines_cons {c : Char} (hc : c ≠ '\r') :
    Text.uniformLines (c :: rest) = c :: Text.uniformLines rest := by
  rw [Text.uniformLines] <;> simp [hc]

theorem uniformLines_return (hrest : rest.head? ≠ some '\n') :
    Text.uniformLines ('\r' :: rest) = '\n' :: Text.uniformLines rest := by
  rw [Text.uniformLines]
  rintro later rfl
  simp at hrest

/-- Line ends are made uniform in parts, unless a part begins with the second half of one. -/
theorem uniformLines_append (hrest : rest.head? ≠ some '\n') :
    Text.uniformLines (text ++ rest) = Text.uniformLines text ++ Text.uniformLines rest := by
  fun_induction Text.uniformLines text with
  | case1 text ih => simp [Text.uniformLines, ih]
  | case2 text hnot ih =>
    have hhead : (text ++ rest).head? ≠ some '\n' := by
      cases text with
      | nil => exact hrest
      | cons c text =>
        rintro hc
        cases hc
        exact hnot text rfl
    rw [List.cons_append, List.cons_append, uniformLines_return hhead, ih]
  | case3 c text _ hreturn ih =>
    have hc : c ≠ '\r' := fun hc => hreturn hc
    rw [List.cons_append, List.cons_append, uniformLines_cons hc, ih]
  | case4 => rfl

theorem QuotedChars.uniform {quote : Char} {body : List Char} (hquote : quote ≠ '\n')
    (hbody : QuotedChars quote body) : QuotedChars quote (Text.uniformLines body) := by
  induction hbody with
  | nil => exact .nil
  | @plain c rest hplain hescape hrest ih =>
    by_cases hc : c = '\r'
    · subst hc
      by_cases hhead : rest.head? = some '\n'
      · obtain ⟨later, rfl⟩ := List.head?_eq_some_iff.1 hhead
        rw [uniformLines_cons (by decide)] at ih
        rwa [Text.uniformLines]
      · rw [uniformLines_return hhead]
        exact .plain hquote.symm (by decide) ih
    · rw [uniformLines_cons hc]
      exact .plain hplain hescape ih
  | @escaped c rest hrest ih =>
    rw [uniformLines_cons (by decide)]
    by_cases hc : c = '\r'
    · subst hc
      by_cases hhead : rest.head? = some '\n'
      · obtain ⟨later, rfl⟩ := List.head?_eq_some_iff.1 hhead
        rw [uniformLines_cons (by decide)] at ih
        rw [Text.uniformLines]
        -- The second half of the line end was a character of its own.
        cases ih with
        | plain _ _ hlater => exact .escaped hlater
      · rw [uniformLines_return hhead]
        exact .escaped ih
    · rw [uniformLines_cons hc]
      exact .escaped ih

/-- A type keeps its shape when its line ends are made uniform: they stand between quotes. -/
theorem TypeChars.uniform (htext : TypeChars depth afterWord text) :
    TypeChars depth afterWord (Text.uniformLines text) := by
  induction htext with
  | nil => exact .nil
  | word hword _ ih =>
    rw [uniformLines_cons (by rintro rfl; simp [mayContinueName, mayBeginName] at hword)]
    exact .word hword ih
  | mark hmark _ ih =>
    rw [uniformLines_cons (by rintro rfl; simp at hmark)]
    exact .mark hmark ih
  | comma _ ih =>
    rw [uniformLines_cons (by decide)]
    exact .comma ih
  | opening hopening _ ih =>
    rw [uniformLines_cons (by rintro rfl; simp at hopening)]
    exact .opening hopening ih
  | closing hclosing _ ih =>
    rw [uniformLines_cons (by rintro rfl; simp at hclosing)]
    exact .closing hclosing ih
  | @quoted depth quote body rest hquote hbody _ ih =>
    have hnewline : quote ≠ '\n' := by rintro rfl; simp at hquote
    have hreturn : quote ≠ '\r' := by rintro rfl; simp at hquote
    rw [List.cons_append, uniformLines_cons hreturn, uniformLines_append (by simpa using hnewline),
      uniformLines_cons hreturn]
    exact .quoted hquote (hbody.uniform hnewline) ih

/-! ## Tokens -/

/-- How tokens that may stand in a type are spelled. -/
def Spelled (kind : TokenKind) (text : List Char) : Prop :=
  match kind with
  | .identifier | .number =>
    ∃ first rest, text = first :: rest ∧ mayContinueName first = true ∧
      ∀ c ∈ rest, mayContinueName c = true ∨ c = '.'
  | .string =>
    ∃ quote body, text = quote :: body ++ [quote] ∧ quote ∈ ['"', '\''] ∧ QuotedChars quote body
  | kind => kind.inType = true → text = kind.symbol.toList

theorem mayContinueName_of_isAlpha {c : Char} (hc : c.isAlpha = true) :
    mayContinueName c = true := by
  simp [mayContinueName, mayBeginName, hc]

theorem mayContinueName_of_large {c : Char} (hc : ¬ c.toNat < 128) : mayContinueName c = true := by
  simp [mayContinueName, mayBeginName, Nat.le_of_not_lt hc]

theorem mayContinueName_of_isDigit {c : Char} (hc : Text.isDigit c = true) :
    mayContinueName c = true := by
  by_cases hascii : c.toNat < 128
  · rw [Text.isDigit_of_ascii hascii] at hc
    simp [mayContinueName, hc]
  · exact mayContinueName_of_large hascii

theorem mayContinueName_of_isWordStart {c : Char} (hc : Token.isWordStart c = true) :
    mayContinueName c = true := by
  by_cases hascii : c.toNat < 128
  · simp only [Token.isWordStart, Text.isLetter_of_ascii hascii, Bool.or_eq_true, beq_iff_eq] at hc
    rcases hc with hc | rfl
    · exact mayContinueName_of_isAlpha hc
    · rfl
  · exact mayContinueName_of_large hascii

theorem mayContinueName_of_isWordRest {c : Char} (hc : Token.isWordRest c = true) :
    mayContinueName c = true := by
  by_cases hascii : c.toNat < 128
  · have hsmall : ¬ 128 ≤ c.toNat := Nat.not_le.2 hascii
    simp only [Token.isWordRest, Text.isAlphanumeric, Text.isLetter_of_ascii hascii, hsmall,
      decide_false, Bool.false_and, Bool.or_false, Bool.or_eq_true, beq_iff_eq] at hc
    rcases hc with (hc | hc) | rfl
    · exact mayContinueName_of_isAlpha hc
    · exact mayContinueName_of_isDigit hc
    · rfl
  · exact mayContinueName_of_large hascii

theorem quotedChars_of_stringBody {quote : Char} {body : List Char}
    (hbody : Token.stringBody quote text = some (body, rest)) :
    ∃ inner, body = inner ++ [quote] ∧ QuotedChars quote inner := by
  fun_induction Token.stringBody quote text generalizing body rest with
  | case1 => cases hbody
  | case2 =>
    cases hbody
    exact ⟨[], rfl, .nil⟩
  | case3 => cases hbody
  | case4 => cases hbody
  | case5 _ _ _ _ ih =>
    obtain ⟨⟨later, after⟩, hlater, hcons⟩ := Option.map_eq_some_iff.1 hbody
    cases hcons
    obtain ⟨inner, rfl, hinner⟩ := ih hlater
    exact ⟨_, rfl, .escaped hinner⟩
  | case6 c _ hquote _ hescape ih =>
    obtain ⟨⟨later, after⟩, hlater, hcons⟩ := Option.map_eq_some_iff.1 hbody
    cases hcons
    obtain ⟨inner, rfl, hinner⟩ := ih hlater
    exact ⟨_, rfl, .plain hquote hescape hinner⟩

theorem ofWord_eq_identifier {word : String} (htype : (TokenKind.ofWord word).inType = true) :
    TokenKind.ofWord word = .identifier := by
  unfold TokenKind.ofWord TokenKind.keywords at htype ⊢
  simp only [List.lookup_cons] at htype ⊢
  repeat' split at htype
  all_goals first | rfl | cases htype

/-- The pieces of a text are spelled like tokens of their kind. -/
theorem spelled_of_piece {c : Char} {rest : List Char} {piece : Token.Piece} {kind : TokenKind}
    (hpiece : Token.Piece.first c rest = .ok piece) (hkind : piece.kind = some kind) :
    Spelled kind piece.used := by
  unfold Token.Piece.first at hpiece
  split at hpiece
  · cases hpiece; cases hkind
  split at hpiece
  · cases hpiece; cases hkind
  split at hpiece
  · rename_i hstart
    cases hpiece
    obtain rfl : TokenKind.ofWord (String.ofList (c :: rest.takeWhile Token.isWordRest)) = kind :=
      Option.some.inj hkind
    by_cases htype : (TokenKind.ofWord
        (String.ofList (c :: rest.takeWhile Token.isWordRest))).inType = true
    · rw [ofWord_eq_identifier htype]
      refine ⟨c, _, rfl, mayContinueName_of_isWordStart hstart, fun d hd => .inl ?_⟩
      exact mayContinueName_of_isWordRest (List.all_eq_true.1 List.all_takeWhile d hd)
    · generalize TokenKind.ofWord _ = word at htype
      cases word <;> first | exact absurd rfl htype | exact fun h => absurd h htype
  split at hpiece
  · rename_i hdigit
    cases hpiece
    cases hkind
    refine ⟨c, _, rfl, mayContinueName_of_isDigit hdigit, fun d hd => ?_⟩
    have hrest := List.all_eq_true.1 List.all_takeWhile d hd
    simp only [Token.isNumberRest, Bool.or_eq_true, beq_iff_eq] at hrest
    exact hrest.imp_left mayContinueName_of_isDigit
  split at hpiece
  · rename_i hquote
    split at hpiece
    · rename_i body after hbody
      cases hpiece
      cases hkind
      obtain ⟨inner, rfl, hinner⟩ := quotedChars_of_stringBody hbody
      exact ⟨c, inner, rfl, by simpa using hquote, hinner⟩
    · cases hpiece
  split at hpiece
  · cases hpiece
    cases hkind
    exact fun htype => absurd htype (by decide)
  split at hpiece
  · rename_i kind' hpunctuation
    cases hpiece
    cases hkind
    unfold TokenKind.ofPunctuation at hpunctuation
    split at hpunctuation <;> cases hpunctuation <;> exact fun _ => rfl
  · cases hpiece

/-- The tokens of a text are spelled like tokens of their kinds. -/
theorem spelled_of_scanFrom {pos : Source.Position} {tokens : List Token}
    (hscan : Token.scanFrom pos text = .ok tokens) :
    ∀ token ∈ tokens, Spelled token.kind token.text.toList := by
  fun_induction Token.scanFrom pos text generalizing tokens with
  | case1 =>
    cases hscan
    simp [Token.endAt, Spelled, TokenKind.inType]
  | case2 => cases hscan
  | case3 =>
    rename_i ih
    exact ih hscan
  | case4 =>
    rename_i hpiece later kind hkind ih
    cases hlater : later with
    | error fault => simp [hlater, Except.map] at hscan
    | ok rest =>
      simp only [hlater, Except.map, Except.ok.injEq] at hscan
      subst hscan
      intro token htoken
      rcases List.mem_cons.1 htoken with rfl | htoken
      · rw [String.toList_ofList]
        exact spelled_of_piece hpiece hkind
      · exact ih hlater token htoken

/-! ## Texts of types -/

/-- A word does not end a type. -/
theorem TypeChars.wordChars {used : List Char}
    (hused : ∀ c ∈ used, mayContinueName c = true ∨ c = '.')
    (hrest : ∀ w, TypeChars depth w rest) : TypeChars depth afterWord (used ++ rest) := by
  induction used generalizing afterWord with
  | nil => exact hrest afterWord
  | cons c used ih =>
    have hlater : ∀ w, TypeChars depth w (used ++ rest) := fun w =>
      ih fun d hd => hused d (List.mem_cons_of_mem _ hd)
    rcases hused c List.mem_cons_self with hc | rfl
    · exact .word hc (hlater true)
    · exact .mark (by simp) (hlater false)

/-- The characters of tokens that stand behind a word (or behind something else). -/
def charsFrom (afterWord : Bool) (tokens : List Token) : List Char :=
  (TypeText.textsFrom afterWord tokens).flatMap String.toList

theorem charsFrom_cons (token : Token) (tokens : List Token) :
    charsFrom afterWord (token :: tokens) =
      (TypeText.tokenText afterWord token).toList ++ charsFrom token.kind.isWord tokens :=
  List.flatMap_cons

/-- A token that is a word may follow anything, since a blank keeps it apart from another
word. -/
theorem TypeChars.wordToken {w : Bool} {token : Token} (hafter : afterWord = true → w = true)
    (hword : token.kind.isWord = true)
    (hrest : TypeChars depth (afterWord && !w) (token.text.toList ++ rest)) :
    TypeChars depth afterWord ((TypeText.tokenText w token).toList ++ rest) := by
  have htext : TypeText.tokenText w token = if w then " " ++ token.text else token.text := by
    unfold TypeText.tokenText
    cases hkind : token.kind <;> simp_all [TokenKind.isWord]
  rw [htext]
  cases w with
  | false =>
    cases afterWord with
    | false => exact hrest
    | true => exact absurd (hafter rfl) (by decide)
  | true =>
    have hblank : (" " ++ token.text).toList = ' ' :: token.text.toList := String.toList_append
    rw [if_pos rfl, hblank]
    exact .mark (by decide) (by simpa using hrest)

theorem tokenText_of_isWord_false {w : Bool} {token : Token} (hword : token.kind.isWord = false)
    (hcomma : token.kind ≠ .comma) (hpipe : token.kind ≠ .pipe) :
    TypeText.tokenText w token = token.text := by
  unfold TypeText.tokenText
  cases hkind : token.kind <;> simp_all [TokenKind.isWord]

/-- An opening bracket is written as one character, and its closing one as well. -/
theorem exists_brackets {opening closing : Token} (w v : Bool)
    (hopens : Spelled opening.kind opening.text.toList)
    (hcloses : Spelled closing.kind closing.text.toList)
    (hpair : opening.kind.closer? = some closing.kind) :
    (∃ c ∈ ['(', '['], (TypeText.tokenText w opening).toList = [c]) ∧
      (∃ c ∈ [')', ']'], (TypeText.tokenText v closing).toList = [c]) ∧
      opening.kind.isWord = false ∧ closing.kind.isWord = false := by
  rcases Grammar.closer?_eq_some_iff.1 hpair with ⟨hopening, hclosing⟩ | ⟨hopening, hclosing⟩
  all_goals
    rw [tokenText_of_isWord_false (by rw [hopening]; rfl) (by simp [hopening]) (by simp [hopening]),
      tokenText_of_isWord_false (by rw [hclosing]; rfl) (by simp [hclosing]) (by simp [hclosing])]
    rw [hopening] at hopens ⊢
    rw [hclosing] at hcloses ⊢
    rw [hopens rfl, hcloses rfl]
    exact ⟨⟨_, by decide, rfl⟩, ⟨_, by decide, rfl⟩, rfl, rfl⟩

/-- A token that is no bracket has the shape of a type before what has it behind every such
token. -/
theorem TypeChars.plainToken {token : Token} {rest : List Token} {w : Bool}
    (hspelled : Spelled token.kind token.text.toList) (hkind : token.kind.inType)
    (hopening : token.kind.closer? = none)
    (hclosing : token.kind ≠ .rightBracket ∧ token.kind ≠ .rightParen)
    (hcomma : token.kind = .comma → 0 < depth) (hafter : afterWord = true → w = true)
    (hnext : ∀ w' v, (w' = true → v = true) → TypeChars depth w' (charsFrom v rest)) :
    TypeChars depth afterWord (charsFrom w (token :: rest)) := by
  rw [charsFrom_cons]
  cases hcase : token.kind with
  | identifier | number =>
    rw [hcase] at hspelled
    obtain ⟨first, chars, htext, hfirst, hchars⟩ := hspelled
    refine .wordToken hafter (by rw [hcase]; rfl) ?_
    rw [htext]
    exact .wordChars (fun c hc => (List.mem_cons.1 hc).elim (fun h => .inl (h ▸ hfirst))
      (hchars c)) fun w' => hnext w' true fun _ => rfl
  | string =>
    rw [hcase] at hspelled
    obtain ⟨quote, body, htext, hquote, hbody⟩ := hspelled
    refine .wordToken hafter (by rw [hcase]; rfl) ?_
    have hapart : (afterWord && !w) = false := by
      cases afterWord with
      | false => rfl
      | true => rw [hafter rfl]; rfl
    rw [htext, hapart, List.append_assoc]
    exact .quoted hquote hbody (hnext true true id)
  | comma =>
    obtain ⟨depth, rfl⟩ := Nat.exists_eq_succ_of_ne_zero (Nat.ne_of_gt (hcomma hcase))
    have htext : TypeText.tokenText w token = ", " := by rw [TypeText.tokenText, hcase]
    have hchars : ", ".toList = [',', ' '] := rfl
    rw [htext, hchars]
    exact .comma (.mark (by decide) (hnext false _ (by decide)))
  | dot =>
    rw [tokenText_of_isWord_false (by rw [hcase]; rfl) (by simp [hcase]) (by simp [hcase])]
    rw [hcase] at hspelled
    rw [hspelled rfl]
    exact .mark (by decide) (hnext false _ (by decide))
  | pipe =>
    have htext : TypeText.tokenText w token = " | " := by rw [TypeText.tokenText, hcase]
    have hchars : " | ".toList = [' ', '|', ' '] := rfl
    rw [htext, hchars]
    exact .mark (by decide) (.mark (by decide) (.mark (by decide) (hnext false _ (by decide))))
  | leftBracket | leftParen => rw [hcase] at hopening; cases hopening
  | rightBracket => exact absurd hcase hclosing.1
  | rightParen => exact absurd hcase hclosing.2
  | _ => rw [hcase] at hkind; cases hkind

/-- The text of a run of tokens has the shape of a type, if what follows has it. The
induction is on the run. -/
theorem typeChars_of_typeRun {inBrackets : Bool} {tokens later : List Token}
    (hrun : Grammar.TypeRun inBrackets tokens)
    (hspelled : ∀ token ∈ tokens, Spelled token.kind token.text.toList)
    (hdepth : inBrackets = true → 0 < depth) {w : Bool} (hafter : afterWord = true → w = true)
    (hlater : ∀ w' v, (w' = true → v = true) → TypeChars depth w' (charsFrom v later)) :
    TypeChars depth afterWord (charsFrom w (tokens ++ later)) := by
  induction hrun generalizing depth afterWord w later with
  | nil => exact hlater afterWord w hafter
  | @plain inBrackets token rest hkind hopening hclosing hcomma hrest ih =>
    rw [List.cons_append]
    refine .plainToken (hspelled token List.mem_cons_self) hkind hopening hclosing
      (fun h => hdepth (hcomma h)) hafter fun w' v hv => ?_
    exact ih (fun t ht => hspelled t (List.mem_cons_of_mem _ ht)) hdepth hv hlater
  | @group inBrackets opening inner closing rest hclosing hinner hrest ihInner ihRest =>
    have hbrackets := fun v => exists_brackets w v (hspelled opening (by simp))
      (hspelled closing (by simp)) hclosing
    obtain ⟨⟨o, ho, hopens⟩, -, hword, hnoWord⟩ := hbrackets false
    rw [List.cons_append, List.cons_append, charsFrom_cons, List.append_assoc, hopens, hword]
    refine .opening ho (ihInner (fun t ht => hspelled t (by simp [ht])) (fun _ => Nat.succ_pos _)
      (by decide) fun w' v _ => ?_)
    obtain ⟨-, ⟨c, hc, hcloses⟩, -⟩ := hbrackets v
    rw [List.cons_append, charsFrom_cons, hcloses, hnoWord]
    exact .closing hc (ihRest (fun t ht => hspelled t (by simp [ht])) hdepth (by decide) hlater)

/-- A declared type has its shape. -/
theorem typeChars_ofTokens {tokens : List Token} (hrun : Grammar.TypeRun false tokens)
    (hspelled : ∀ token ∈ tokens, Spelled token.kind token.text.toList) :
    TypeChars 0 false (TypeText.ofTokens tokens).toList := by
  refine TypeChars.trim ?_
  have hchars : TypeChars 0 false (charsFrom false (tokens ++ [])) :=
    typeChars_of_typeRun hrun hspelled (by decide) id fun _ _ _ => .nil
  rwa [List.append_nil, charsFrom, ← String.toList_join] at hchars

end FsmCompiler.Target
