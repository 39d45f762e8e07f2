/-
# Places of tokens

Each token stands where its place says: in the line of that number, behind as many characters
as the column counts. Lines are those between line feeds, so a string or a comment that comes
before may go over several of them. The places of the tokens grow from one token to the next.
-/

import FsmCompiler.Proofs.Cutting
import FsmCompiler.Proofs.Lines

namespace FsmCompiler

/-! ## The order of places -/

namespace Source

/-- The place `p` comes before `q`: in a line before, or in the same line in a column before. -/
def Location.Before (p q : Location) : Prop :=
  p.line < q.line ∨ p.line = q.line ∧ p.column < q.column

theorem Location.Before.trans {p q r : Location} (hpq : p.Before q) (hqr : q.Before r) :
    p.Before r := by
  unfold Location.Before at *
  omega

theorem Location.not_before_self (p : Location) : ¬ p.Before p := by
  unfold Location.Before
  omega

variable {p : Position} {file : String}

theorem Position.before_next (p : Position) (c : Char) (file : String) :
    (p.inFile file).Before ((p.next c).inFile file) := by
  unfold Position.next
  split
  · left
    show (p.line : Int) < (p.line + 1 : Nat)
    omega
  · right
    refine ⟨rfl, ?_⟩
    show (p.column : Int) < (p.column + 1 : Nat)
    omega

/-- Reading goes on to places behind. -/
theorem Position.before_after {text : List Char} (hsome : text ≠ []) :
    (p.inFile file).Before ((p.after text).inFile file) := by
  induction text generalizing p with
  | nil => exact absurd rfl hsome
  | cons c text ih =>
    rw [Position.after_cons]
    have hnext := p.before_next c file
    cases text with
    | nil => exact hnext
    | cons d text => exact hnext.trans (ih (by simp))

end Source

namespace Token

open Source (Location Position)

variable {before text : List Char} {tokens : List Token} {token : Token} {file : String}

/-! ## Tokens in the text -/

/-- A token is cut from the text where its place says. -/
theorem Lexed.exists_split (hlexed : Lexed before text tokens) (htoken : token ∈ tokens) :
    ∃ front rest, text = front ++ token.text.toList ++ rest ∧
      token.pos = placeBehind (before ++ front) ∧
      (token.kind = .endOfInput ∨ Lexeme token.kind token.text.toList rest) := by
  induction hlexed with
  | @ends before gap _ =>
    rw [List.mem_singleton.1 htoken]
    exact ⟨gap, [], by simp, rfl, .inl rfl⟩
  | @token before gap lexeme rest kind tokens _ hlexeme _ ih =>
    rcases List.mem_cons.1 htoken with rfl | htoken
    · exact ⟨gap, rest, by simp, rfl, .inr (by simpa using hlexeme)⟩
    · obtain ⟨front, behind, htext, hpos, hkind⟩ := ih htoken
      exact ⟨gap ++ lexeme ++ front, behind, by simp [htext], by simp [hpos], hkind⟩

/-- The tokens of a text stand one behind the other. -/
theorem Lexed.pairwise_before (file : String) (hlexed : Lexed before text tokens) :
    tokens.Pairwise fun first second =>
      (first.pos.inFile file).Before (second.pos.inFile file) := by
  induction hlexed with
  | ends => exact List.pairwise_singleton ..
  | @token before gap lexeme rest kind tokens _ hlexeme hrest ih =>
    refine List.pairwise_cons.2 ⟨fun later hlater => ?_, ih⟩
    obtain ⟨front, behind, -, hpos, -⟩ := hrest.exists_split hlater
    have hsome : lexeme ++ front ≠ [] := by
      cases hlexeme <;> simp
    have hplace : placeBehind (before ++ gap ++ lexeme ++ front) =
        (placeBehind (before ++ gap)).after (lexeme ++ front) := by
      rw [after_placeBehind, ← List.append_assoc]
    rw [hpos, hplace]
    exact Position.before_after hsome

/-- Between the places of two tokens are just the tokens between them. -/
theorem mem_between {earlier between later : List Token} {first last : Token}
    (hpairwise : (earlier ++ first :: between ++ last :: later).Pairwise fun first second =>
      (first.pos.inFile file).Before (second.pos.inFile file))
    (htoken : token ∈ earlier ++ first :: between ++ last :: later)
    (hfirst : (first.pos.inFile file).Before (token.pos.inFile file))
    (hlast : (token.pos.inFile file).Before (last.pos.inFile file)) : token ∈ between := by
  have hfront : ∀ other ∈ earlier, (other.pos.inFile file).Before (first.pos.inFile file) := by
    intro other hother
    rw [List.append_assoc] at hpairwise
    exact (List.pairwise_append.1 hpairwise).2.2 other hother first (by simp)
  have hbehind : ∀ other ∈ later, (last.pos.inFile file).Before (other.pos.inFile file) :=
    (List.pairwise_cons.1 (List.pairwise_append.1 hpairwise).2.1).1
  rcases List.mem_append.1 htoken with hmem | hmem
  · rcases List.mem_append.1 hmem with hmem | hmem
    · exact absurd (hfirst.trans (hfront token hmem)) (Location.not_before_self _)
    · rcases List.mem_cons.1 hmem with rfl | hmem
      · exact absurd hfirst (Location.not_before_self _)
      · exact hmem
  · rcases List.mem_cons.1 hmem with rfl | hmem
    · exact absurd hlast (Location.not_before_self _)
    · exact absurd (hlast.trans (hbehind token hmem)) (Location.not_before_self _)

/-! ## Tokens in their lines -/

/-- At the place `loc` of the text stands `word`: in the line that the place counts, behind as
many characters as its column counts and before the characters `behind`. -/
def StandsAt (text : String) (loc : Location) (word behind : String) : Prop :=
  ∃ (index : Nat) (front : String), (Text.lines text)[index]? = some (front ++ word ++ behind) ∧
    loc.line = index + 1 ∧ loc.column = front.length + 1

/-- The text has a token of this kind and with these characters at the place. -/
def TokenAt (file text : String) (kind : TokenKind) (word : String) (loc : Location) : Prop :=
  ∃ tokens pos, scan text = .ok tokens ∧ ⟨kind, word, pos⟩ ∈ tokens ∧ loc = pos.inFile file

/-- The token at the place lies within one line, and what is behind it in the line does not
belong to it. -/
structure WordAt (file text : String) (kind : TokenKind) (word : String) (loc : Location) :
    Prop where
  token : TokenAt file text kind word loc
  line : ∃ behind, StandsAt text loc word behind ∧ Lexeme kind word.toList behind.toList

/-- Only strings go over the end of a line. -/
theorem Lexeme.newline_not_mem {kind : TokenKind} {used rest : List Char}
    (hlexeme : Lexeme kind used rest) (hkind : kind ≠ .string) : '\n' ∉ used := by
  have hblank := not_wordChar_of_isBlank (show isBlank '\n' = true from rfl)
  cases hlexeme with
  | word hstart hword =>
    rintro (_ | ⟨_, hmem⟩)
    · exact absurd (isWordStart_iff.2 hstart) (by decide)
    · exact hblank.1 (hword _ hmem)
  | number hstart _ hdigits =>
    rintro (_ | ⟨_, hmem⟩)
    · exact absurd hstart (by decide)
    · exact hblank.2 (hdigits _ hmem)
  | string => exact absurd rfl hkind
  | arrow => decide
  | punctuation hsign =>
    intro hmem
    rw [← List.mem_singleton.1 hmem] at hsign
    exact absurd hsign (by simp [TokenKind.ofPunctuation])

theorem Lexeme.eq_of_arrow {used rest : List Char} (hlexeme : Lexeme .arrow used rest) :
    used = ['=', '>'] := by
  cases hlexeme with
  | word _ _ _ hword => simp [WordKind, TokenKind.keywords] at hword
  | arrow => rfl
  | punctuation hsign =>
    unfold TokenKind.ofPunctuation at hsign
    split at hsign <;> cases hsign

/-- What is cut from a text behind `front` stands at the place behind `front`. -/
theorem standsAt_placeBehind (file : String) {text : String} {front word rest : List Char}
    (htext : text.toList = front ++ word ++ rest) (hline : '\n' ∉ word) :
    StandsAt text ((placeBehind front).inFile file) (String.ofList word)
      (String.ofList (rest.takeWhile (· != '\n'))) := by
  refine ⟨front.count '\n', String.ofList (front.reverse.takeWhile (· != '\n')).reverse, ?_, ?_, ?_⟩
  · have hinside : ∀ c ∈ word, (c != '\n') = true := by
      intro c hc
      exact bne_iff_ne.2 fun heq => hline (heq ▸ hc)
    rw [Text.lines, List.getElem?_map, htext, List.append_assoc, Text.getElem?_splitAt,
      List.takeWhile_append_of_pos hinside]
    simp [String.ofList_append, String.append_assoc]
  · simp [placeBehind, Position.inFile]
  · simp [placeBehind, Position.inFile]

/-- A token that is no string stands in its line. -/
theorem wordAt_of_mem (file : String) {text : String} (hscan : scan text = .ok tokens)
    (htoken : token ∈ tokens) (hend : token.kind ≠ .endOfInput) (hstring : token.kind ≠ .string) :
    WordAt file text token.kind token.text (token.pos.inFile file) := by
  obtain ⟨front, rest, htext, hpos, hlexeme⟩ := (lexed_of_scan hscan).exists_split htoken
  replace hlexeme := hlexeme.resolve_left hend
  have hstands := standsAt_placeBehind file htext (hlexeme.newline_not_mem hstring)
  rw [String.ofList_toList] at hstands
  refine ⟨⟨tokens, token.pos, hscan, htoken, rfl⟩, _, hpos ▸ hstands, ?_⟩
  have hhead : ∀ c ∈ (rest.takeWhile (· != '\n')).head?, c ∈ rest.head? := by
    intro c hc
    cases rest with
    | nil => exact hc
    | cons d rest => by_cases hd : d = '\n' <;> simp_all
  rw [String.toList_ofList]
  apply hlexeme.before
  · exact fun c hc hword => ⟨c, hhead c hc, hword⟩
  · exact fun c hc hnumeral => ⟨c, hhead c hc, hnumeral⟩

end Token

end FsmCompiler
