/-
# The tokens of a type

The reader takes the tokens of a type up to the comma or the brace that ends it. They are written
as a text, and scanning that text never fails. What is scanned are the tokens that were taken, with
their texts, exactly if no dot stood directly behind a number: such a number takes the dot, so that
there are fewer tokens than before.
-/

import FsmCompiler.Proofs.Respelling

namespace FsmCompiler

/-! ## Reading a type -/

namespace Reader

open Grammar TokenKind

variable {file keyword : String} {complete : List Machine} {draft : Draft} {name : Token}
  {closers : List TokenKind} {read tokens type behind : List Token}

/-- Read on in a type to the comma or the brace that ends it: the tokens of the type, and the
tokens that are left. -/
def readType (file : String) : State → List Token → Option (List Token × List Token)
  | .within complete draft (.resourceType keyword name closers read), token :: rest =>
    match step file (.within complete draft (.resourceType keyword name closers read)) token with
    | .ok (.within complete draft (.resourceType keyword name closers read)) =>
      readType file (.within complete draft (.resourceType keyword name closers read)) rest
    | .ok _ => some (read, token :: rest)
    | .error _ => none
  | _, _ => none

/-- A type ends before a comma or a closing brace. -/
def EndsType (behind : List Token) : Prop :=
  ∃ stop ∈ behind.head?, stop.kind = comma ∨ stop.kind = rightBrace

theorem step_type_iff {token : Token} {next : State} :
    step file (.within complete draft (.resourceType keyword name closers read)) token =
        .ok next ↔
      (closers = [] ∧ (token.kind = comma ∨ token.kind = rightBrace) ∧ read ≠ [] ∧
          next = afterResource file complete draft keyword name read token) ∨
        ∃ later, closersAfter closers token.kind = some later ∧
          next = .within complete draft (.resourceType keyword name later (read ++ [token])) :=
  step_within_eq_ok_iff.trans stepType_eq_ok_iff

theorem readType_of_stop {stop : Token} (hstop : stop.kind = comma ∨ stop.kind = rightBrace)
    (hsome : read ≠ []) :
    readType file (.within complete draft (.resourceType keyword name [] read)) (stop :: behind) =
      some (read, stop :: behind) := by
  rw [readType, step_type_iff.2 (.inl ⟨rfl, hstop, hsome, rfl⟩), afterResource]
  split
  · rename_i hnext
    split at hnext <;> cases hnext
  · rfl
  · rename_i hnext
    cases hnext

theorem readType_of_goesOn {token : Token} {later : List TokenKind}
    (hlater : closersAfter closers token.kind = some later) :
    readType file (.within complete draft (.resourceType keyword name closers read))
        (token :: tokens) =
      readType file (.within complete draft (.resourceType keyword name later (read ++ [token])))
        tokens := by
  rw [readType, step_type_iff.2 (.inr ⟨later, hlater, rfl⟩)]

/-- What is read on in a type closes all brackets that are due. -/
theorem readType_within_iff :
    readType file (.within complete draft (.resourceType keyword name closers read)) tokens =
        some (type, behind) ↔
      ∃ more, type = read ++ more ∧ tokens = more ++ behind ∧
        closersAfterAll closers more = some [] ∧ read ++ more ≠ [] ∧ EndsType behind := by
  induction tokens generalizing closers read with
  | nil =>
    simp only [readType, reduceCtorEq, false_iff]
    rintro ⟨more, -, htokens, -, -, stop, hstop, -⟩
    obtain ⟨-, rfl⟩ := List.append_eq_nil_iff.1 htokens.symm
    cases hstop
  | cons token tokens ih =>
    constructor
    · intro hread
      cases hstep : step file (.within complete draft (.resourceType keyword name closers read))
          token with
      | error fault => simp [readType, hstep] at hread
      | ok next =>
        rcases step_type_iff.1 hstep with ⟨rfl, hstop, hsome, -⟩ | ⟨later, hlater, -⟩
        · rw [readType_of_stop hstop hsome] at hread
          cases hread
          exact ⟨[], by simp, rfl, rfl, by simpa using hsome, token, rfl, hstop⟩
        · rw [readType_of_goesOn hlater] at hread
          obtain ⟨more, rfl, rfl, hclosers, -, hends⟩ := ih.1 hread
          exact ⟨token :: more, by simp, rfl, by simp [closersAfterAll, hlater, hclosers],
            by simp, hends⟩
    · rintro ⟨more, rfl, htokens, hclosers, hsome, hends⟩
      cases more with
      | nil =>
        obtain rfl := Option.some.inj hclosers
        obtain ⟨stop, hhead, hstop⟩ := hends
        rw [List.nil_append] at htokens
        subst htokens
        cases hhead
        rw [List.append_nil] at hsome ⊢
        exact readType_of_stop hstop hsome
      | cons first more =>
        rw [List.cons_append] at htokens
        obtain ⟨rfl, rfl⟩ := List.cons.inj htokens
        obtain ⟨later, hlater, hclosers⟩ := Option.bind_eq_some_iff.1 hclosers
        rw [readType_of_goesOn hlater]
        exact ih.2 ⟨more, by simp, rfl, hclosers, by simp, hends⟩

/-- The reader takes a properly nested run of tokens that may stand in a type, and all of it. -/
theorem readType_eq_some_iff :
    readType file (.within complete draft (.resourceType keyword name [] [])) tokens =
        some (type, behind) ↔
      tokens = type ++ behind ∧ TypeRun false type ∧ type ≠ [] ∧ EndsType behind := by
  rw [readType_within_iff]
  constructor
  · rintro ⟨more, rfl, rfl, hclosers, hsome, hends⟩
    exact ⟨rfl, closersAfterAll_eq_nil_iff.1 hclosers, hsome, hends⟩
  · rintro ⟨rfl, htype, hsome, hends⟩
    exact ⟨type, rfl, rfl, closersAfterAll_eq_nil_iff.2 htype, hsome, hends⟩

theorem Terminated.filter_words (hterminated : Terminated tokens) :
    tokens.filter (·.kind ≠ endOfInput) = tokens.dropLast := by
  induction tokens with
  | nil => rfl
  | cons token rest ih =>
    rcases terminated_cons_iff.1 hterminated with ⟨rfl, hend⟩ | ⟨hkind, hrest⟩
    · simp [hend]
    · have hsome : rest ≠ [] := by
        rintro rfl
        exact hrest
      rw [List.filter_cons_of_pos (by simpa using hkind), ih hrest,
        List.dropLast_cons_of_ne_nil hsome]

end Reader

/-! ## Fewer tokens -/

namespace Token

variable {tokens : List Token}

/-- No tokens are won by scanning again. -/
theorem length_reread_le (tokens : List Token) :
    (reread none tokens).length ≤ tokens.length ∧
      ∀ pending, (reread (some pending) tokens).length ≤ tokens.length + 1 := by
  induction tokens with
  | nil => simp [reread]
  | cons token tokens ih =>
    obtain ⟨hnone, hsome⟩ := ih
    have hbegin : (reread none (token :: tokens)).length ≤ (token :: tokens).length := by
      rw [reread]
      split
      · exact hsome _
      · simpa using hnone
    refine ⟨hbegin, ?_⟩
    rintro ⟨number, afterDot⟩
    cases htakes : takes afterDot token.kind with
    | true =>
      rw [reread_of_takes htakes]
      exact (hsome _).trans (by simp)
    | false =>
      rw [reread_of_not_takes htakes]
      simpa using hbegin

/-- A number in front of a dot takes it. -/
theorem length_reread_of_dot {pending : Token × Bool}
    (hdot : ∃ token ∈ tokens.head?, token.kind = .dot) :
    (reread (some pending) tokens).length ≤ tokens.length := by
  obtain ⟨token, htoken, hkind⟩ := hdot
  obtain ⟨rest, rfl⟩ := List.head?_eq_some_iff.1 htoken
  rw [reread_of_takes (by simp [takes, hkind])]
  exact (length_reread_le rest).2 _

/-- Where a dot stands directly behind a number, tokens are lost. -/
theorem length_reread_lt (hdot : ¬ tokens.IsChain fun a b => ¬ DotBehindNumber a b) :
    (reread none tokens).length < tokens.length ∧
      ∀ pending, (reread (some pending) tokens).length ≤ tokens.length := by
  induction tokens with
  | nil => exact absurd .nil hdot
  | cons token tokens ih =>
    have hbegin : (reread none (token :: tokens)).length < (token :: tokens).length := by
      rw [List.isChain_cons, not_and_or] at hdot
      rw [reread, List.length_cons]
      split
      · rename_i hnumber
        rcases hdot with hhere | hlater
        · push Not at hhere
          obtain ⟨next, hnext, hbehind⟩ := hhere
          exact Nat.lt_succ_of_le (length_reread_of_dot ⟨next, hnext, hbehind.2⟩)
        · exact Nat.lt_succ_of_le ((ih hlater).2 _)
      · rename_i hother
        have hlater := hdot.resolve_left fun hhere =>
          hhere fun next _ hbehind => hother hbehind.1
        simpa using (ih hlater).1
    refine ⟨hbegin, ?_⟩
    rintro ⟨number, afterDot⟩
    cases htakes : takes afterDot token.kind with
    | true =>
      rw [reread_of_takes htakes]
      exact (length_reread_le tokens).2 _
    | false =>
      rw [reread_of_not_takes htakes]
      exact hbegin

/-- The words that are scanned are the words that were written exactly if no dot stands directly
behind a number. -/
theorem words_reread_eq_iff :
    words (reread none tokens) = words tokens ↔
      tokens.IsChain fun a b => ¬ DotBehindNumber a b := by
  constructor
  · intro hwords
    by_contra hdot
    have hlength := congrArg List.length hwords
    rw [words, words, List.length_map, List.length_map] at hlength
    exact absurd hlength (length_reread_lt hdot).1.ne
  · intro hchain
    rw [reread_eq_self hchain]

/-- The kind and the text of a token. -/
def content (token : Token) : TokenKind × String := (token.kind, token.text)

theorem map_content_eq_iff {others : List Token} :
    tokens.map content = others.map content ↔ words tokens = words others := by
  have hwords : ∀ list, words list =
      (list.map content).map fun pair => ⟨pair.1, pair.2, .start⟩ := by
    intro list
    simp [words, content, Token.relocate]
  have hcontent : ∀ list, list.map content = (words list).map content := by
    intro list
    simp [words, content, Function.comp_def]
  constructor
  · intro heq
    rw [hwords, hwords, heq]
  · intro heq
    rw [hcontent, heq, ← hcontent]

end Token

namespace Reader

open TokenKind

variable {text file keyword : String} {complete : List Machine} {draft : Draft} {name : Token}
  {before tokens type behind : List Token}

/-- The text of a type is scanned to the tokens that it was made from, exactly if no dot stood
directly behind a number. It is always scanned, whichever tokens of a text the type was read
from. -/
theorem scan_ofTokens_iff (hscan : Token.scan text = .ok (before ++ tokens))
    (hread : readType file (.within complete draft (.resourceType keyword name [] [])) tokens =
      some (type, behind)) :
    ∃ again, Token.scan (TypeText.ofTokens type) = .ok again ∧
      ((again.filter (·.kind ≠ endOfInput)).map Token.content = type.map Token.content ↔
        type.IsChain fun first second => ¬ Token.DotBehindNumber first second) := by
  obtain ⟨rfl, htype, -, -⟩ := readType_eq_some_iff.1 hread
  have hlexical : ∀ token ∈ type, Token.Lexical token := fun token htoken =>
    Token.lexical_of_scan hscan (by simp [htoken]) (Token.inType_of_typeRun htype token htoken)
  obtain ⟨again, hagain, hwords⟩ :=
    Token.scan_of_spells (Token.written_ofTokens hlexical Token.apart_nil).spells
  refine ⟨again, hagain, ?_⟩
  have hfront : Token.words again.dropLast = Token.words (Token.reread none type) := by
    rw [Token.words, List.map_dropLast, ← Token.words, hwords, List.dropLast_concat]
  rw [(terminated_of_scanFrom hagain).filter_words, Token.map_content_eq_iff, hfront,
    Token.words_reread_eq_iff]

/-- A type whose number loses its dot beside one that is scanned as it was. -/
theorem scan_of_tuple_and_dot :
    (∃ again, Token.scan "(x, 'y')" = .ok again ∧
      (again.filter (·.kind ≠ endOfInput)).map Token.content =
        [(leftParen, "("), (identifier, "x"), (comma, ","), (string, "'y'"), (rightParen, ")")]) ∧
    ∃ again, Token.scan "1.real" = .ok again ∧
      (again.filter (·.kind ≠ endOfInput)).map Token.content ≠
        [(number, "1"), (dot, "."), (identifier, "real")] := by
  let tuple : List Token := [⟨leftParen, "(", ⟨1, 1⟩⟩, ⟨identifier, "x", ⟨1, 2⟩⟩,
    ⟨comma, ",", ⟨1, 3⟩⟩, ⟨string, "'y'", ⟨1, 4⟩⟩, ⟨rightParen, ")", ⟨1, 7⟩⟩]
  let real : List Token := [⟨number, "1", ⟨1, 9⟩⟩, ⟨dot, ".", ⟨1, 11⟩⟩,
    ⟨identifier, "real", ⟨1, 12⟩⟩]
  let ending : List Token := [⟨rightBrace, "\x7d", ⟨1, 16⟩⟩, ⟨endOfInput, "", ⟨1, 17⟩⟩]
  let separator : Token := ⟨comma, ",", ⟨1, 8⟩⟩
  let start := State.within [] (.ofName separator) (.resourceType "" separator [] [])
  have hscan : Token.scan "(x,'y'),1 .real\x7d" =
      .ok ([] ++ (tuple ++ separator :: (real ++ ending))) := by decide +kernel
  have hscan' : Token.scan "(x,'y'),1 .real\x7d" =
      .ok ((tuple ++ [separator]) ++ (real ++ ending)) := by rw [hscan]; rfl
  have hfirst : readType "m.sm" start (tuple ++ separator :: (real ++ ending)) =
      some (tuple, separator :: (real ++ ending)) := rfl
  have hsecond : readType "m.sm" start (real ++ ending) = some (real, ending) := rfl
  obtain ⟨again, hagain, hsame⟩ := scan_ofTokens_iff hscan hfirst
  obtain ⟨other, hother, hdiffers⟩ := scan_ofTokens_iff hscan' hsecond
  have htexts : TypeText.ofTokens tuple = "(x, 'y')" ∧ TypeText.ofTokens real = "1.real" :=
    ⟨by decide +kernel, by decide +kernel⟩
  rw [htexts.1] at hagain
  rw [htexts.2] at hother
  refine ⟨⟨again, hagain, hsame.2 ?_⟩, other, hother, fun heq => ?_⟩
  · simp [tuple, Token.DotBehindNumber]
  · have hchain := hdiffers.1 heq
    simp [real, Token.DotBehindNumber] at hchain

end Reader

end FsmCompiler
