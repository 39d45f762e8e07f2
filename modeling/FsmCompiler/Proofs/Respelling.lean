/-
# Types are spelled again

The text of a type is written from its tokens. Scanning it gives the tokens again, but for
numbers that stand directly before a dot: without the blank that kept them apart, the number
takes the dot, and the digits and dots behind it as well. Which brackets are open is not changed
by that, so the tokens are properly nested again.
-/

import FsmCompiler.Proofs.Padding
import FsmCompiler.Proofs.ReadingBlock
import FsmCompiler.Proofs.TokenPlaces
import FsmCompiler.Proofs.TypeShape
import Mathlib.Algebra.Group.Nat.Defs
import Mathlib.Data.List.Chain

namespace FsmCompiler

/-! ## Letters are no digits -/

namespace Text

/-- The ranges between bounds as the bits of a number. -/
def mask : List Nat → Nat
  | first :: second :: rest => (2 ^ (second - first) - 1) <<< first ||| mask rest
  | _ => 0

theorem testBit_mask {bounds : List Nat} {index code : Nat} (heven : index % 2 = 0)
    (hindex : index + 1 < bounds.length) (hfrom : bounds.getD index 0 ≤ code)
    (hto : code < bounds.getD (index + 1) 0) : (mask bounds).testBit code = true := by
  fun_induction mask bounds generalizing index with
  | case1 first second rest ih =>
    rw [Nat.testBit_or, Bool.or_eq_true]
    match index with
    | 0 =>
      left
      rw [List.getD_cons_zero] at hfrom
      rw [List.getD_cons_succ, List.getD_cons_zero] at hto
      simp only [Nat.testBit_shiftLeft, Nat.testBit_two_pow_sub_one, Bool.and_eq_true,
        decide_eq_true_eq]
      omega
    | 1 => cases heven
    | index + 2 =>
      right
      rw [List.length_cons, List.length_cons] at hindex
      exact ih (by omega) (by omega) hfrom hto
  | case2 bounds hshort =>
    match bounds with
    | [] => simp at hindex
    | [_] => simp at hindex
    | first :: second :: rest => exact absurd rfl (hshort first second rest)

variable {table : RangeTable} {code low high : Nat}

/-- The search ends between the bounds that are not above the code and those that are. -/
theorem RangeTable.rankBetween_spec (table : RangeTable) (code low high : Nat)
    (hlow : low = 0 ∨ table.bounds.getD (low - 1) 0 ≤ code)
    (hhigh : high = table.bounds.size ∨ code < table.bounds.getD high 0) (hle : low ≤ high) :
    (table.rankBetween code low high = 0 ∨
        table.bounds.getD (table.rankBetween code low high - 1) 0 ≤ code) ∧
      (table.rankBetween code low high = table.bounds.size ∨
        code < table.bounds.getD (table.rankBetween code low high) 0) ∧
      table.rankBetween code low high ≤ high := by
  fun_induction RangeTable.rankBetween table code low high with
  | case1 low high hlt middle hbelow ih =>
    exact ih (.inr (by simpa using hbelow)) hhigh (by omega)
  | case2 low high hlt middle habove ih =>
    obtain ⟨hfirst, hlast, hrank⟩ := ih hlow (.inr (by omega)) (by omega)
    exact ⟨hfirst, hlast, by omega⟩
  | case3 low high hnot =>
    obtain rfl : low = high := by omega
    exact ⟨hlow, hhigh, le_refl _⟩

/-- What a table with an even number of bounds contains lies between two of them. -/
theorem RangeTable.testBit_of_contains (heven : table.bounds.size % 2 = 0)
    (hcontains : table.contains code = true) :
    (mask table.bounds.toList).testBit code = true := by
  obtain ⟨hfirst, hlast, hrank⟩ := table.rankBetween_spec code 0 table.bounds.size (.inl rfl)
    (.inl rfl) (Nat.zero_le _)
  have hodd : table.rankBetween code 0 table.bounds.size % 2 = 1 := beq_iff_eq.1 hcontains
  generalize table.rankBetween code 0 table.bounds.size = rank at hfirst hlast hrank hodd
  obtain ⟨index, rfl⟩ : ∃ index, rank = index + 1 := ⟨rank - 1, by omega⟩
  have hindex : index % 2 = 0 := by omega
  refine testBit_mask hindex (by simp; omega) ?_ ?_
  · simpa using hfirst.resolve_left (by omega)
  · simpa using hlast.resolve_left (by omega)

theorem masks_apart : mask digitTable.bounds.toList &&& mask letterTable.bounds.toList = 0 := by
  decide +kernel

theorem sizes_even : digitTable.bounds.size % 2 = 0 ∧ letterTable.bounds.size % 2 = 0 := by
  decide +kernel

theorem ascii_apart : ∀ code < 128, (Char.ofNat code).isAlpha = true →
    (Char.ofNat code).isDigit = false := by
  decide

/-- No letter is a digit. -/
theorem isDigit_of_isLetter {c : Char} (hletter : isLetter c = true) : isDigit c = false := by
  by_cases hascii : c.toNat < 128
  · rw [isLetter_of_ascii hascii] at hletter
    rw [isDigit_of_ascii hascii]
    have hapart := ascii_apart c.toNat hascii
    rw [Char.ofNat_toNat] at hapart
    exact hapart hletter
  · rw [isLetter, if_neg hascii] at hletter
    rw [isDigit, if_neg hascii, ← Bool.not_eq_true]
    intro hdigit
    have hboth : (mask digitTable.bounds.toList &&& mask letterTable.bounds.toList).testBit
        c.toNat = true := by
      rw [Nat.testBit_and, RangeTable.testBit_of_contains sizes_even.1 hdigit,
        RangeTable.testBit_of_contains sizes_even.2 hletter]
      rfl
    rw [masks_apart, Nat.zero_testBit] at hboth
    cases hboth

end Text

namespace Token

open Text (isLetter isDigit)
open Target (charsFrom charsFrom_cons)
open Reader (closersAfter closersAfterAll)
open TypeText (tokenText)

/-! ## Written texts -/

/-- Before `rest`, the text is these words, with blanks between some of them. -/
inductive Written : (text rest : List Char) → List Token → Prop
  | nil {rest} : Written [] rest []
  | blank {text rest spelled} (htext : Written text rest spelled) :
      Written (' ' :: text) rest spelled
  | lexeme {lexeme text rest kind spelled} (hlexeme : Lexeme kind lexeme (text ++ rest))
      (htext : Written text rest spelled) :
      Written (lexeme ++ text) rest (⟨kind, String.ofList lexeme, .start⟩ :: spelled)

variable {text used rest rest' lexeme : List Char} {kind : TokenKind} {spelled later : List Token}
  {token : Token} {tokens : List Token}

theorem apart_of_mem_signs {c : Char} (hsign : c ∈ signs) (hdot : c ≠ '.') :
    Apart (c :: rest) := by
  have hall : ∀ d ∈ signs, isWordRest d = false ∧ (isNumberRest d = false ∨ d = '.') := by
    simp only [signs, List.forall_mem_cons, List.not_mem_nil, false_implies, implies_true]
    decide
  rintro _ ⟨⟩
  obtain ⟨hword, hnumber⟩ := hall c hsign
  rw [← isWordRest_iff, ← isNumberRest_iff, hword, hnumber.resolve_right hdot]
  simp

theorem Written.append (hused : Written used (text ++ rest) spelled)
    (htext : Written text rest later) : Written (used ++ text) rest (spelled ++ later) := by
  generalize hbehind : text ++ rest = behind at hused
  induction hused with
  | nil => exact htext
  | blank _ ih => exact .blank (ih hbehind)
  | lexeme hlexeme _ ih =>
    subst hbehind
    rw [List.append_assoc, List.cons_append]
    exact .lexeme (by simpa using hlexeme) (ih rfl)

/-- What is written is spelled. -/
theorem Written.spells (htext : Written text rest spelled) : Spells text rest spelled := by
  induction htext with
  | nil => exact fun _ => ⟨[], .nil, rfl⟩
  | blank _ ih =>
    intro pos
    obtain ⟨tokens, hcut, hwords⟩ := ih (pos.after [' '])
    exact ⟨tokens, hcut.blank (by simp), hwords⟩
  | @lexeme lexeme _ _ _ _ hlexeme _ ih =>
    intro pos
    obtain ⟨tokens, hcut, rfl⟩ := ih (pos.after lexeme)
    exact ⟨_, .lexeme hlexeme hcut, rfl⟩

/-- Where no word and no number goes on, a written text may end. -/
theorem Written.before_apart (htext : Written text rest spelled) (hapart : Apart rest') :
    Written text rest' spelled := by
  induction htext with
  | nil => exact .nil
  | blank _ ih => exact .blank ih
  | @lexeme _ text _ _ _ hlexeme _ ih =>
    refine .lexeme ?_ ih
    cases text with
    | nil => exact hlexeme.before_apart hapart
    | cons => exact hlexeme.before_of_head? rfl

/-! ## Blanks at the ends -/

theorem not_wordChar_blank : ¬ WordChar ' ' ∧ ¬ NumeralChar ' ' :=
  not_wordChar_of_isBlank rfl

theorem Quoted.getLast? {quote : Char} {body : List Char} (hbody : Quoted quote body) :
    body.getLast? = some quote := by
  induction hbody with
  | closing => rfl
  | plain _ hbody ih => rw [List.getLast?_cons, ih]; rfl
  | escaped hbody ih => rw [List.getLast?_cons, List.getLast?_cons, ih]; rfl

theorem Lexeme.getLast?_ne_blank (hlexeme : Lexeme kind used rest) :
    used.getLast? ≠ some ' ' := by
  have hinside : ∀ c chars, (∀ d ∈ c :: chars, d ≠ ' ') → (c :: chars).getLast? ≠ some ' ' :=
    fun c chars hchars hlast => hchars ' ' (List.mem_of_getLast? hlast) rfl
  cases hlexeme with
  | word hstart hword =>
    refine hinside _ _ (List.forall_mem_cons.2 ⟨?_, fun d hd hblank => ?_⟩)
    · rintro rfl
      exact absurd (isWordStart_iff.2 hstart) (by decide)
    · exact not_wordChar_blank.1 (hblank ▸ hword d hd)
  | number hstart _ hdigits =>
    refine hinside _ _ (List.forall_mem_cons.2 ⟨?_, fun d hd hblank => ?_⟩)
    · rintro rfl
      exact not_wordChar_blank.2 (.inl hstart)
    · exact not_wordChar_blank.2 (hblank ▸ hdigits d hd)
  | string hquote hbody =>
    rw [List.getLast?_cons, hbody.getLast?]
    rintro ⟨⟩
    exact absurd hquote (by decide)
  | arrow => simp
  | @punctuation c _ _ hkind =>
    refine hinside c [] fun d hd hblank => ?_
    rw [← List.mem_singleton.1 hd, hblank] at hkind
    cases hkind

/-- Blanks at the beginning say nothing. -/
theorem Written.dropBlanks (htext : Written text rest spelled) :
    Written (text.dropWhile (· == ' ')) rest spelled := by
  induction htext with
  | nil => exact .nil
  | blank _ ih => simpa using ih
  | @lexeme lexeme text _ _ _ hlexeme htext =>
    obtain ⟨c, chars, rfl⟩ := List.exists_cons_of_ne_nil hlexeme.used_ne_nil
    have hc : c ≠ ' ' := by
      rintro rfl
      exact absurd (hlexeme.isBlank_head? ' ' rfl) (by decide)
    rw [List.cons_append, List.dropWhile_cons_of_neg (by simpa using hc), ← List.cons_append]
    exact .lexeme hlexeme htext

theorem Written.dropLast (htext : Written (text ++ [' ']) rest spelled) (hapart : Apart rest) :
    Written text rest spelled := by
  generalize hwhole : text ++ [' '] = whole at htext
  induction htext generalizing text with
  | nil => simp at hwhole
  | @blank whole _ _ htext ih =>
    cases text with
    | nil =>
      obtain rfl : [] = whole := List.tail_eq_of_cons_eq hwhole
      exact htext
    | cons c text =>
      obtain ⟨rfl, hbehind⟩ := List.cons.inj hwhole
      exact .blank (ih hapart hbehind)
  | @lexeme lexeme behind rest _ _ hlexeme htext ih =>
    rcases List.eq_nil_or_concat behind with rfl | ⟨behind, last, rfl⟩
    · rw [List.append_nil] at hwhole
      exact absurd (by rw [← hwhole]; simp) hlexeme.getLast?_ne_blank
    · rw [List.concat_eq_append, ← List.append_assoc] at hwhole
      obtain ⟨rfl, hlast⟩ := List.append_inj' hwhole rfl
      obtain rfl : ' ' = last := List.head_eq_of_cons_eq hlast
      refine .lexeme ?_ (ih hapart (List.concat_eq_append ..).symm)
      cases behind with
      | nil => exact hlexeme.before_apart hapart
      | cons => exact hlexeme.before_of_head? rfl

/-- Nor do blanks at the end, where no word and no number goes on. -/
theorem Written.dropLastBlanks (htext : Written text.reverse rest spelled) (hapart : Apart rest) :
    Written (text.dropWhile (· == ' ')).reverse rest spelled := by
  induction text with
  | nil => exact htext
  | cons c text ih =>
    by_cases hc : c = ' '
    · subst hc
      rw [List.reverse_cons] at htext
      exact ih (htext.dropLast hapart)
    · rwa [List.dropWhile_cons_of_neg (by simpa using hc)]

theorem Written.trim {text : String} (htext : Written text.toList rest spelled)
    (hapart : Apart rest) : Written (TypeText.trim text).toList rest spelled := by
  rw [TypeText.trim, String.toList_ofList]
  refine Written.dropLastBlanks ?_ hapart
  rw [List.reverse_reverse]
  exact htext.dropBlanks

/-! ## Tokens of a type -/

/-- The token is written as tokens of its kind are, and may stand in a type. -/
structure Lexical (token : Token) : Prop where
  lexeme : ∃ behind, Lexeme token.kind token.text.toList behind
  inType : token.kind.inType = true

theorem lexical_of_scan {source : String} (hscan : scan source = .ok tokens)
    (htoken : token ∈ tokens) (htype : token.kind.inType = true) : Lexical token := by
  obtain ⟨_, rest, -, -, hlexeme⟩ := (lexed_of_scan hscan).exists_split htoken
  exact ⟨⟨rest, hlexeme.resolve_left fun hend => by simp [hend, TokenKind.inType] at htype⟩, htype⟩

theorem inType_of_typeRun {inBrackets : Bool} (hrun : Grammar.TypeRun inBrackets tokens) :
    ∀ token ∈ tokens, token.kind.inType = true := by
  induction hrun with
  | nil => simp
  | plain hkind _ _ _ _ ih => exact List.forall_mem_cons.2 ⟨hkind, ih⟩
  | @group _ opening _ closing _ hclosing _ _ ihInner ihRest =>
    have hpair : opening.kind.inType = true ∧ closing.kind.inType = true := by
      rcases Grammar.closer?_eq_some_iff.1 hclosing with ⟨hopens, hcloses⟩ | ⟨hopens, hcloses⟩ <;>
        rw [hopens, hcloses] <;> exact ⟨rfl, rfl⟩
    intro token htoken
    simp only [List.cons_append, List.mem_cons, List.mem_append] at htoken
    rcases htoken with rfl | htoken | rfl | htoken
    · exact hpair.1
    · exact ihInner token htoken
    · exact hpair.2
    · exact ihRest token htoken

/-- No keyword may stand in a type. -/
theorem WordKind.eq_identifier {word : String} (hkind : WordKind word kind)
    (htype : kind.inType = true) : kind = .identifier := by
  rcases hkind with hkeyword | ⟨hkind, -⟩
  · simp only [TokenKind.keywords, List.mem_cons, Prod.mk.injEq, List.not_mem_nil,
      or_false] at hkeyword
    rcases hkeyword with ⟨-, rfl⟩ | ⟨-, rfl⟩ | ⟨-, rfl⟩ | ⟨-, rfl⟩ <;> cases htype
  · exact hkind

/-- How the tokens that may stand in a type begin. -/
theorem Lexeme.inType_cases (hlexeme : Lexeme kind used rest) (htype : kind.inType = true) :
    (kind = .identifier ∧ ∃ c chars, used = c :: chars ∧ (isLetter c = true ∨ c = '_')) ∨
      (kind = .number ∧ ∃ c digits, used = c :: digits ∧ isDigit c = true ∧ isLetter c = false ∧
        ∀ d ∈ digits, NumeralChar d) ∨
      (kind = .string ∧ ∃ quote body, used = quote :: body ∧ (quote = '"' ∨ quote = '\'')) ∨
      (kind.isWord = false ∧ used = kind.symbol.toList) := by
  cases hlexeme with
  | word hstart _ _ hkind => exact .inl ⟨hkind.eq_identifier htype, _, _, rfl, hstart⟩
  | number hstart hletter hdigits =>
    exact .inr (.inl ⟨rfl, _, _, rfl, hstart, hletter, hdigits⟩)
  | string hquote => exact .inr (.inr (.inl ⟨rfl, _, _, rfl, hquote⟩))
  | arrow => cases htype
  | punctuation hkind =>
    refine .inr (.inr (.inr ?_))
    unfold TokenKind.ofPunctuation at hkind
    split at hkind <;> cases hkind <;> exact ⟨rfl, rfl⟩

/-- What a token of a type needs of the text behind it. -/
theorem Lexical.lexeme_before (htoken : Lexical token)
    (hword : token.kind = .identifier → ∀ d ∈ rest.head?, ¬ WordChar d)
    (hnumber : token.kind = .number → ∀ d ∈ rest.head?, ¬ NumeralChar d) :
    Lexeme token.kind token.text.toList rest := by
  obtain ⟨⟨behind, hlexeme⟩, htype⟩ := htoken
  generalize token.kind = kind at *
  generalize token.text.toList = used at *
  cases hlexeme with
  | word hstart hinside _ hkind =>
    exact .word hstart hinside (hword (hkind.eq_identifier htype)) hkind
  | number hstart hletter hdigits => exact .number hstart hletter hdigits (hnumber rfl)
  | string hquote hbody => exact .string hquote hbody
  | arrow => exact .arrow
  | punctuation hkind => exact .punctuation hkind

theorem Written.cons {first : Token}
    (htoken : Lexeme first.kind first.text.toList (text ++ rest))
    (htext : Written text rest (words tokens)) :
    Written (first.text.toList ++ text) rest (words (first :: tokens)) := by
  have hwritten := Written.lexeme htoken htext
  rwa [String.ofList_toList] at hwritten

/-! ## Numbers take dots -/

/-- A number takes a dot, and behind a dot another number. -/
def takes (afterDot : Bool) (kind : TokenKind) : Bool :=
  kind == .dot || kind == .number && afterDot

/-- The number with the text of a token behind it. -/
def extend (number token : Token) : Token := { number with text := number.text ++ token.text }

/-- The tokens that are scanned where the tokens of a type are written one behind the other. A
number may be pending, directly behind a dot or not. -/
def reread (pending : Option (Token × Bool)) : List Token → List Token
  | [] => (pending.map (·.1)).toList
  | token :: rest =>
    let begin := if token.kind = .number then reread (some (token, false)) rest
      else token :: reread none rest
    match pending with
    | none => begin
    | some (number, afterDot) =>
      if takes afterDot token.kind then
        reread (some (number.extend token, token.kind == .dot)) rest
      else number :: begin

theorem reread_of_not_takes {number : Token} {afterDot : Bool}
    (htakes : takes afterDot token.kind = false) :
    reread (some (number, afterDot)) (token :: tokens) =
      number :: reread none (token :: tokens) := by
  simp only [reread, htakes]
  rfl

theorem reread_of_takes {number : Token} {afterDot : Bool}
    (htakes : takes afterDot token.kind = true) :
    reread (some (number, afterDot)) (token :: tokens) =
      reread (some (number.extend token, token.kind == .dot)) tokens := by
  simp only [reread, htakes, if_true]

theorem tokenText_of_isWord {w : Bool} (hword : token.kind.isWord = true) :
    tokenText w token = if w then " " ++ token.text else token.text := by
  unfold tokenText
  cases hkind : token.kind <;> simp_all [TokenKind.isWord]

/-- A token that a number takes stands directly behind it. -/
theorem tokenText_of_takes {afterDot : Bool} (htakes : takes afterDot token.kind = true) :
    tokenText (!afterDot) token = token.text ∧ token.kind.isWord = !(token.kind == .dot) := by
  cases hkind : token.kind <;> simp_all [takes, tokenText, TokenKind.isWord]

/-- No number begins where a word does. -/
theorem not_numeralChar_of_letter {c : Char} (hstart : isLetter c = true ∨ c = '_') :
    ¬ NumeralChar c := by
  rintro (hdigit | rfl)
  · rcases hstart with hletter | rfl
    · rw [Text.isDigit_of_isLetter hletter] at hdigit
      cases hdigit
    · exact absurd hdigit (by decide)
  · exact absurd hstart (by decide)

theorem head?_tokenText_of_symbol (w : Bool) (htype : token.kind.inType = true)
    (hword : token.kind.isWord = false) (htext : token.text.toList = token.kind.symbol.toList) :
    ∃ c ∈ (tokenText w token).toList.head?, c ∈ signs ∧ (c = '.' → token.kind = .dot) := by
  obtain ⟨kind, text, pos⟩ := token
  cases kind <;>
    simp_all [tokenText, TokenKind.inType, TokenKind.isWord, TokenKind.symbol, signs]

/-- The first character of a token's text in a type. Behind a word no word goes on there, and no
number does where the token is not taken by one. -/
theorem Lexical.head?_tokenText (htoken : Lexical token) (w : Bool) :
    ∃ c ∈ (tokenText w token).toList.head?, (w = true → ¬ WordChar c) ∧
      (takes (!w) token.kind = false → ¬ NumeralChar c) := by
  obtain ⟨⟨behind, hlexeme⟩, htype⟩ := htoken
  have hsign : ∀ {c}, c ∈ signs → c ≠ '.' → ¬ WordChar c ∧ ¬ NumeralChar c := by
    intro c hsign hdot
    have hapart : Apart [c] := apart_of_mem_signs hsign hdot
    exact hapart c rfl
  by_cases hblank : token.kind.isWord = true ∧ w = true
  · obtain ⟨hword, rfl⟩ := hblank
    refine ⟨' ', ?_, fun _ => not_wordChar_blank.1, fun _ => not_wordChar_blank.2⟩
    rw [tokenText_of_isWord hword, if_pos rfl, String.toList_append]
    rfl
  have hplain : token.kind.isWord = true → w = false ∧ tokenText w token = token.text := by
    intro hword
    obtain rfl : w = false := by simpa [hword] using hblank
    exact ⟨rfl, tokenText_of_isWord hword⟩
  rcases hlexeme.inType_cases htype with ⟨hkind, c, chars, htext, hstart⟩ |
    ⟨hkind, c, digits, htext, -⟩ | ⟨hkind, quote, body, htext, hquote⟩ | ⟨hword, htext⟩
  · obtain ⟨rfl, hchars⟩ := hplain (by rw [hkind]; rfl)
    exact ⟨c, by rw [hchars, htext]; rfl, by simp, fun _ => not_numeralChar_of_letter hstart⟩
  · obtain ⟨rfl, hchars⟩ := hplain (by rw [hkind]; rfl)
    exact ⟨c, by rw [hchars, htext]; rfl, by simp, by simp [hkind, takes]⟩
  · obtain ⟨rfl, hchars⟩ := hplain (by rw [hkind]; rfl)
    refine ⟨quote, by rw [hchars, htext]; rfl, by simp, fun _ => (hsign ?_ ?_).2⟩ <;>
      rcases hquote with rfl | rfl <;> simp [signs]
  · obtain ⟨c, hhead, hmem, hdot⟩ := head?_tokenText_of_symbol w htype hword htext
    by_cases hc : c = '.'
    · have hnot : ¬ WordChar c := by
        rw [hc, ← isWordRest_iff]
        decide
      exact ⟨c, hhead, fun _ => hnot, by simp [hdot hc, takes]⟩
    · exact ⟨c, hhead, fun _ => (hsign hmem hc).1, fun _ => (hsign hmem hc).2⟩

/-- How a text of tokens begins. -/
theorem head?_charsFrom (htokens : ∀ token ∈ tokens, Lexical token) (hapart : Apart rest)
    (w : Bool) : ∀ c ∈ (charsFrom w tokens ++ rest).head?, (w = true → ¬ WordChar c) ∧
      ((∀ token ∈ tokens.head?, takes (!w) token.kind = false) → ¬ NumeralChar c) := by
  cases tokens with
  | nil => exact fun c hc => ⟨fun _ => (hapart c hc).1, fun _ => (hapart c hc).2⟩
  | cons token tokens =>
    obtain ⟨c, hhead, hword, hnumber⟩ := (htokens token (by simp)).head?_tokenText w
    obtain ⟨chars, hchars⟩ := List.head?_eq_some_iff.1 hhead
    rw [charsFrom_cons, hchars]
    rintro _ ⟨⟩
    exact ⟨hword, fun htakes => hnumber (htakes token rfl)⟩

/-- A number goes on as one. -/
theorem Lexical.extend {number : Token} {afterDot : Bool} (hnumber : Lexical number)
    (hkind : number.kind = .number) (htoken : Lexical token)
    (htakes : takes afterDot token.kind = true) : Lexical (number.extend token) := by
  have hmore : ∀ d ∈ token.text.toList, NumeralChar d := by
    obtain ⟨⟨behind, hlexeme⟩, htype⟩ := htoken
    simp only [takes, Bool.or_eq_true, Bool.and_eq_true, beq_iff_eq] at htakes
    rcases hlexeme.inType_cases htype with ⟨hother, -⟩ |
      ⟨-, c, digits, htext, hdigit, -, hdigits⟩ | ⟨hother, -⟩ | ⟨hword, htext⟩
    · simp [hother] at htakes
    · rw [htext]
      exact List.forall_mem_cons.2 ⟨.inl hdigit, hdigits⟩
    · simp [hother] at htakes
    · obtain hdot | ⟨hother, -⟩ := htakes
      · rw [htext, hdot]
        exact fun d hd => .inr (List.mem_singleton.1 hd)
      · simp [hother, TokenKind.isWord] at hword
  obtain ⟨⟨behind, hlexeme⟩, htype⟩ := hnumber
  rcases hlexeme.inType_cases htype with ⟨hother, -⟩ |
    ⟨-, c, digits, htext, hdigit, hletter, hdigits⟩ | ⟨hother, -⟩ | ⟨hword, -⟩
  · simp [hkind] at hother
  · refine ⟨⟨[], ?_⟩, htype⟩
    rw [Token.extend, String.toList_append, htext, List.cons_append, hkind]
    refine .number hdigit hletter ?_ (by simp)
    exact fun d hd => (List.mem_append.1 hd).elim (hdigits d) (hmore d)
  · simp [hkind] at hother
  · simp [hkind, TokenKind.isWord] at hword

/-- The text of a token in a type is its own, perhaps with blanks around it; behind a word
there is none. -/
theorem Lexical.tokenText_eq (htoken : Lexical token) (w : Bool) :
    ∃ front behind, (tokenText w token).toList = front ++ (token.text.toList ++ behind) ∧
      (front = [] ∨ front = [' ']) ∧
      (behind = [] ∨ behind = [' '] ∧ token.kind.isWord = false) := by
  obtain ⟨⟨rest, hlexeme⟩, htype⟩ := htoken
  have hsymbol : token.kind.isWord = false → token.text.toList = token.kind.symbol.toList := by
    intro hword
    rcases hlexeme.inType_cases htype with ⟨hkind, -⟩ | ⟨hkind, -⟩ | ⟨hkind, -⟩ | ⟨-, htext⟩
    all_goals first | exact htext | simp [hkind, TokenKind.isWord] at hword
  by_cases hcomma : token.kind = .comma
  · rw [hsymbol (by rw [hcomma]; rfl), tokenText, hcomma]
    exact ⟨[], [' '], by simp [TokenKind.symbol], .inl rfl, .inr ⟨rfl, rfl⟩⟩
  by_cases hpipe : token.kind = .pipe
  · rw [hsymbol (by rw [hpipe]; rfl), tokenText, hpipe]
    exact ⟨[' '], [' '], by simp [TokenKind.symbol], .inr rfl, .inr ⟨rfl, rfl⟩⟩
  by_cases hword : token.kind.isWord = true
  · rw [tokenText_of_isWord hword]
    cases w with
    | false => exact ⟨[], [], by simp, .inl rfl, .inl rfl⟩
    | true => exact ⟨[' '], [], by simp, .inr rfl, .inl rfl⟩
  · rw [Target.tokenText_of_isWord_false (by simpa using hword) hcomma hpipe]
    exact ⟨[], [], by simp, .inl rfl, .inl rfl⟩

theorem Written.blanks {blanks : List Char} (hblanks : blanks = [] ∨ blanks = [' '])
    (htext : Written text rest spelled) : Written (blanks ++ text) rest spelled := by
  rcases hblanks with rfl | rfl
  · exact htext
  · exact .blank htext

/-- The text of tokens of a type is written with the tokens that are read again, and so is the text
behind a pending number. -/
theorem written_reread (htokens : ∀ token ∈ tokens, Lexical token) (hapart : Apart rest) :
    (∀ w, Written (charsFrom w tokens) rest (words (reread none tokens))) ∧
      ∀ number afterDot, Lexical number → number.kind = .number →
        Written (number.text.toList ++ charsFrom (!afterDot) tokens) rest
          (words (reread (some (number, afterDot)) tokens)) := by
  induction tokens with
  | nil =>
    refine ⟨fun _ => .nil, fun number _ hnumber hkind => .cons (hnumber.lexeme_before ?_ ?_) .nil⟩
    · exact fun _ c hc => (hapart c hc).1
    · exact fun _ c hc => (hapart c hc).2
  | cons token tokens ih =>
    have htoken := htokens token (by simp)
    have hlater : ∀ other ∈ tokens, Lexical other :=
    fun other hother => htokens other (by simp [hother])
    obtain ⟨hnone, hsome⟩ := ih hlater
    -- Where nothing is pending; a pending number that does not take the token ends before it.
    have hbegin : ∀ w, Written (charsFrom w (token :: tokens)) rest
        (words (reread none (token :: tokens))) := by
      intro w
      obtain ⟨front, behind, htext, hfront, hbehind⟩ := htoken.tokenText_eq w
      rw [charsFrom_cons, htext, List.append_assoc, List.append_assoc]
      refine .blanks hfront ?_
      by_cases hnumber : token.kind = .number
      · have hend : behind = [] := hbehind.resolve_right (by simp [hnumber, TokenKind.isWord])
        have hread := hsome token false htoken hnumber
        simpa [reread, hnumber, hend, TokenKind.isWord] using hread
      · rw [reread, if_neg hnumber]
        refine .cons (htoken.lexeme_before ?_ (absurd · hnumber))
          (.blanks (hbehind.imp_right (·.1)) (hnone _))
        intro hkind
        have hend : behind = [] := hbehind.resolve_right (by simp [hkind, TokenKind.isWord])
        rw [hend, hkind]
        exact fun c hc => (head?_charsFrom hlater hapart true c hc).1 rfl
    refine ⟨hbegin, fun number afterDot hnumber hkind => ?_⟩
    cases htakes : takes afterDot token.kind with
    | true =>
      rw [reread_of_takes htakes]
      have hread := hsome _ (token.kind == .dot) (hnumber.extend hkind htoken htakes) hkind
      obtain ⟨htext, hword⟩ := tokenText_of_takes htakes
      rw [charsFrom_cons, htext, hword]
      rwa [Token.extend, String.toList_append, List.append_assoc] at hread
    | false =>
      rw [reread_of_not_takes htakes]
      refine .cons (hnumber.lexeme_before ?_ fun _ c hc => ?_) (hbegin _)
      · simp [hkind]
      · refine (head?_charsFrom htokens hapart _ c hc).2 ?_
        rintro _ ⟨⟩
        rwa [Bool.not_not]

/-- The text of a type is written with the tokens that are read again. -/
theorem written_ofTokens (htokens : ∀ token ∈ tokens, Lexical token) (hapart : Apart rest) :
    Written (TypeText.ofTokens tokens).toList rest (words (reread none tokens)) := by
  have hwritten := (written_reread htokens hapart).1 false
  rw [charsFrom, ← String.toList_join] at hwritten
  exact hwritten.trim hapart

/-! ## What is read again -/

/-- Something is read again where there was something. -/
theorem reread_ne_nil {pending : Option (Token × Bool)} (hsome : pending ≠ none ∨ tokens ≠ []) :
    reread pending tokens ≠ [] := by
  induction tokens generalizing pending with
  | nil => cases pending <;> simp_all [reread]
  | cons token tokens ih =>
    have hbegin : reread none (token :: tokens) ≠ [] := by
      rw [reread]
      split
      · exact ih (.inl (by simp))
      · simp
    match pending with
    | none => exact hbegin
    | some (number, afterDot) =>
      cases htakes : takes afterDot token.kind with
      | true => exact reread_of_takes htakes ▸ ih (.inl (by simp))
      | false => simp [reread_of_not_takes htakes]

/-- The brackets that are due are those that were. -/
theorem closersAfterAll_reread :
    (∀ closers, closersAfterAll closers (reread none tokens) = closersAfterAll closers tokens) ∧
      ∀ closers number afterDot, number.kind = .number →
        closersAfterAll closers (reread (some (number, afterDot)) tokens) =
          closersAfterAll closers tokens := by
  have hpassed : ∀ {closers number later}, number.kind = .number →
      closersAfterAll closers (number :: later) = closersAfterAll closers later := by
    intro closers number later hkind
    simp [closersAfterAll, closersAfter, hkind]
  induction tokens with
  | nil => exact ⟨fun _ => rfl, fun _ _ _ hkind => hpassed hkind⟩
  | cons token tokens ih =>
    obtain ⟨hnone, hsome⟩ := ih
    have hbegin : ∀ closers, closersAfterAll closers (reread none (token :: tokens)) =
        closersAfterAll closers (token :: tokens) := by
      intro closers
      rw [reread]
      split
      · rename_i hnumber
        rw [hsome closers token false hnumber, hpassed hnumber]
      · rw [closersAfterAll, closersAfterAll]
        simp only [hnone]
    refine ⟨hbegin, fun closers number afterDot hkind => ?_⟩
    cases htakes : takes afterDot token.kind with
    | true =>
      have hstays : closersAfter closers token.kind = some closers := by
        cases htoken : token.kind <;> simp_all [takes, closersAfter]
      rw [reread_of_takes htakes, hsome _ (number.extend token) _ hkind, closersAfterAll, hstays,
        Option.bind_some]
    | false => rw [reread_of_not_takes htakes, hpassed hkind, hbegin]

theorem typeRun_reread (htype : Grammar.TypeRun false tokens) :
    Grammar.TypeRun false (reread none tokens) := by
  rw [← Reader.closersAfterAll_eq_nil_iff, closersAfterAll_reread.1]
  exact Reader.closersAfterAll_eq_nil_iff.2 htype

/-- A dot stands directly behind a number. -/
def DotBehindNumber (first second : Token) : Prop :=
  first.kind = .number ∧ second.kind = .dot

/-- Where no dot stands directly behind a number, the same tokens are read again. -/
theorem reread_eq_self (htokens : tokens.IsChain fun a b => ¬ DotBehindNumber a b) :
    reread none tokens = tokens := by
  have hboth : reread none tokens = tokens ∧ ∀ number, number.kind = .number →
      (∀ token ∈ tokens.head?, token.kind ≠ .dot) →
        reread (some (number, false)) tokens = number :: tokens := by
    induction tokens with
    | nil => exact ⟨rfl, fun _ _ _ => rfl⟩
    | cons token tokens ih =>
      rw [List.isChain_cons] at htokens
      obtain ⟨hnone, hsome⟩ := ih htokens.2
      have hbegin : reread none (token :: tokens) = token :: tokens := by
        rw [reread]
        split
        · rename_i hnumber
          exact hsome token hnumber fun next hnext hdot => htokens.1 next hnext ⟨hnumber, hdot⟩
        · rw [hnone]
      refine ⟨hbegin, fun number _ hdot => ?_⟩
      have htakes : takes false token.kind = false := by simp [takes, hdot token rfl]
      rw [reread_of_not_takes htakes, hbegin]
  exact hboth.1

end Token

end FsmCompiler
