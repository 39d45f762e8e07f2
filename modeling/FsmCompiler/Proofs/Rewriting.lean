/-
# Layout and sugar

Texts may be laid out and written in many ways. Here it is said what may be done to a text that
declares machines: white space may be put between its tokens, a keyword may be exchanged for
its other form, and what stands for the same may be written for the same. Whatever is done, and
however often, the text still declares the same machines, but for the places of their
declarations; and those make no difference to what is accepted and to what it is compiled to.
-/

import FsmCompiler.Proofs.Padding
import FsmCompiler.Proofs.Sugar
import FsmCompiler.Proofs.Unplaced
import Mathlib.Data.List.Forall2
import Mathlib.Logic.Relation

namespace FsmCompiler.Reader

open Grammar Source Token

/-- One text is another one written differently at one place. -/
inductive Rewrite (file : String) : (text rewritten : List Char) → Prop
  /-- White space at the beginning. -/
  | first {padding text} (hpadding : Padding padding) : Rewrite file text (padding ++ text)
  /-- White space at the end. -/
  | last {padding text} (hpadding : Padding padding) : Rewrite file text (text ++ padding)
  /-- White space before a token. -/
  | before {padding front lexeme rest kind tokens} (hpadding : Padding padding)
      (hfront : Cut .start front (lexeme ++ rest) tokens) (hlexeme : Lexeme kind lexeme rest) :
      Rewrite file (front ++ (lexeme ++ rest)) (front ++ (padding ++ (lexeme ++ rest)))
  /-- White space behind a token. -/
  | behind {padding front lexeme rest kind tokens} (hpadding : Padding padding)
      (hfront : Cut .start front (lexeme ++ rest) tokens) (hlexeme : Lexeme kind lexeme rest) :
      Rewrite file (front ++ (lexeme ++ rest)) (front ++ (lexeme ++ padding ++ rest))
  /-- The keyword of the initial states in one of its two forms. -/
  | keyword {front old new rest kind tokens} (hfront : Cut .start front (old ++ rest) tokens)
      (hold : Lexeme kind old rest) (hkind : kind = .initialStates ∨ kind = .states)
      (hnew : new = "InitialStates".toList ∨ new = "States".toList) :
      Rewrite file (front ++ (old ++ rest)) (front ++ (new ++ rest))
  /-- Tokens that stand for the same. The text of the new ones is kept apart from the texts
  before and behind: the text before is cut into its tokens as it was, and the new one before
  the text behind. Line ends at its ends are enough for that (`Cut.before_line`). -/
  | sugar {front old new rest tokens oldTokens newTokens}
      (hfront : Cut .start front (old ++ rest) tokens)
      (hold : Cut (Position.start.after front) old rest oldTokens)
      (hapart : Cut .start front (new ++ rest) tokens)
      (hnew : Cut (Position.start.after front) new rest newTokens)
      (hsugar : Sugar file (words tokens) (words oldTokens) (words newTokens) ∨
        Sugar file (words tokens) (words newTokens) (words oldTokens)) :
      Rewrite file (front ++ (old ++ rest)) (front ++ (new ++ rest))

variable {file : String} {text rewritten old new rest : List Char} {kind : TokenKind}
  {spelled : List Token} {machines : List Machine}

/-! ## The keyword -/

/-- The keyword of the initial states has two forms. -/
theorem keyword_of_lexeme (hold : Lexeme kind old rest)
    (hkind : kind = .initialStates ∨ kind = .states) :
    (old = "InitialStates".toList ∨ old = "States".toList) ∧ ∀ d ∈ rest.head?, ¬ WordChar d := by
  have htext : ∀ word, String.ofList old = word → old = word.toList := by
    rintro _ rfl
    simp
  cases hold with
  | word _ _ hend hword =>
    refine ⟨?_, hend⟩
    rcases hword with hkeyword | ⟨rfl, -⟩
    · simp only [TokenKind.keywords, List.mem_cons, Prod.mk.injEq, List.not_mem_nil,
        or_false] at hkeyword
      rcases hkind with rfl | rfl <;> simp only [reduceCtorEq, and_false, and_true, false_or,
        or_false] at hkeyword
      · exact .inl (htext _ hkeyword)
      · exact .inr (htext _ hkeyword)
    · simp at hkind
  | number | string | arrow => simp at hkind
  | punctuation hpunctuation =>
    unfold TokenKind.ofPunctuation at hpunctuation
    split at hpunctuation <;> cases hpunctuation <;> simp at hkind

/-- The keyword is made of letters. -/
theorem letters_of_keyword (hnew : new = "InitialStates".toList ∨ new = "States".toList) :
    new ≠ [] ∧ ∀ d ∈ new, Text.isLetter d = true := by
  have hletters : new ≠ [] ∧ ∀ d ∈ new, d.toNat < 128 ∧ d.isAlpha = true := by
    rcases hnew with rfl | rfl <;> simp
  refine hletters.imp_right fun hletters d hd => ?_
  rw [Text.isLetter_of_ascii (hletters d hd).1]
  exact (hletters d hd).2

/-- Both forms are lexemes where no word goes on. -/
theorem exists_lexeme_keyword (hnew : new = "InitialStates".toList ∨ new = "States".toList)
    (hend : ∀ d ∈ rest.head?, ¬ WordChar d) :
    ∃ kind, (kind = .initialStates ∨ kind = .states) ∧ Lexeme kind new rest := by
  have hkind : ∃ kind, (kind = .initialStates ∨ kind = .states) ∧
      WordKind (String.ofList new) kind := by
    rcases hnew with rfl | rfl
    · exact ⟨.initialStates, .inl rfl, .inl (by simp [TokenKind.keywords])⟩
    · exact ⟨.states, .inr rfl, .inl (by simp [TokenKind.keywords])⟩
  obtain ⟨hsome, hletters⟩ := letters_of_keyword hnew
  obtain ⟨kind, hkind, hword⟩ := hkind
  obtain ⟨c, word, rfl⟩ := List.exists_cons_of_ne_nil hsome
  refine ⟨kind, hkind, .word (.inl (hletters c List.mem_cons_self)) ?_ hend hword⟩
  exact fun d hd => .inl (Text.isAlphanumeric_of_isLetter (hletters d (List.mem_cons_of_mem _ hd)))

/-- Before one form of the keyword, a text is cut as before the other. -/
theorem cut_before_keyword {pos : Position} {tokens : List Token}
    (hcut : Cut pos text (old ++ rest) tokens)
    (hold : old = "InitialStates".toList ∨ old = "States".toList)
    (hnew : new = "InitialStates".toList ∨ new = "States".toList) :
    Cut pos text (new ++ rest) tokens := by
  have hhead : ∀ {word : List Char}, word = "InitialStates".toList ∨ word = "States".toList →
      ∃ c inner, word = c :: inner ∧ c ≠ '\n' ∧ WordChar c ∧ ¬ NumeralChar c := by
    rintro word (rfl | rfl)
    · exact ⟨'I', "nitialStates".toList, by simp, by decide, .inl (by decide), by
        rw [← isNumberRest_iff]; decide⟩
    · exact ⟨'S', "tates".toList, by simp, by decide, .inl (by decide), by
        rw [← isNumberRest_iff]; decide⟩
  obtain ⟨c, inner, rfl, hline, hword, -⟩ := hhead hold
  obtain ⟨d, other, rfl, -, -, hnumeral⟩ := hhead hnew
  apply hcut.before
  · intro used hfiller
    cases hfiller with
    | blank hblank => exact .blank hblank
    | comment _ _ hend => simp [hline] at hend
  · intro kind used hlexeme
    refine hlexeme.before ?_ ?_ <;> rintro _ ⟨⟩ hgoes
    · exact ⟨c, rfl, hword⟩
    · exact absurd hgoes hnumeral

/-! ## One rewriting -/

/-- A rewriting exchanges words for words that stand for the same. -/
theorem Rewrite.spells (hrewrite : Rewrite file text rewritten) (hspells : Spells text [] spelled)
    (haccepts : Accepts file .start (spelled ++ [endAt .start]) machines) :
    ∃ respelled, Spells rewritten [] respelled ∧
      Accepts file .start (respelled ++ [endAt .start]) machines := by
  -- Replacing a stretch leaves its words, or puts in their place what stands for the same.
  have hreplace : ∀ {front old new rest : List Char} {tokens oldTokens newTokens : List Token},
      Spells (front ++ (old ++ rest)) [] spelled → Cut .start front (old ++ rest) tokens →
      Cut (Position.start.after front) old rest oldTokens →
      Cut .start front (new ++ rest) tokens →
      Cut (Position.start.after front) new rest newTokens →
      (words oldTokens = words newTokens ∨
        Sugar file (words tokens) (words oldTokens) (words newTokens) ∨
        Sugar file (words tokens) (words newTokens) (words oldTokens)) →
      ∃ respelled, Spells (front ++ (new ++ rest)) [] respelled ∧
        Accepts file .start (respelled ++ [endAt .start]) machines := by
    intro front old new rest tokens oldTokens newTokens hspells hfront hold hapart hnew hsame
    obtain ⟨back, rfl, hrespelled⟩ := spells_replace hspells hfront hold hapart hnew
    refine ⟨_, hrespelled, ?_⟩
    rw [List.append_assoc] at haccepts ⊢
    rcases hsame with hsame | hsugar | hsugar
    · rwa [← hsame]
    · exact (accepts_iff_of_sugar hsugar).1 haccepts
    · exact (accepts_iff_of_sugar hsugar).2 haccepts
  cases hrewrite with
  | @first padding _ hpadding =>
    have hpadded : Spells (padding ++ text) [] ([] ++ spelled) :=
      Spells.append hpadding.spells hspells
    exact ⟨spelled, hpadded, haccepts⟩
  | last hpadding =>
    obtain ⟨tokens, hcut, rfl⟩ := hspells .start
    exact ⟨words tokens, (hcut.append_padding hpadding).spells, haccepts⟩
  | @before padding front lexeme rest kind tokens hpadding hfront hlexeme =>
    have hspells : Spells (front ++ ([] ++ (lexeme ++ rest))) [] spelled := hspells
    exact hreplace hspells hfront .nil (hfront.before_padding hlexeme hpadding) hpadding.cut
      (.inl rfl)
  | behind hpadding hfront hlexeme =>
    have hlonger := hlexeme.before_padding hpadding
    refine hreplace hspells hfront hlexeme.cut ?_ (hlonger.cut.append hpadding.cut) (.inl rfl)
    rw [List.append_assoc]
    exact hfront.before_lexeme hlexeme
  | keyword hfront hold hkind hnew =>
    obtain ⟨hform, hend⟩ := keyword_of_lexeme hold hkind
    obtain ⟨other, hother, hlexeme⟩ := exists_lexeme_keyword hnew hend
    exact hreplace hspells hfront hold.cut (cut_before_keyword hfront hform hnew) hlexeme.cut
      (.inr (.inl (.keyword hkind hother)))
  | sugar hfront hold hapart hnew hsugar =>
    exact hreplace hspells hfront hold hapart hnew (.inr hsugar)

/-! ## All rewritings -/

/-- What is read from the words of a text is what is read from the text, all of it at one
place. -/
theorem run_words {tokens : List Token} :
    run file .start (words tokens) =
      relocateRun (fun _ => .start) (Option.map fun _ => Position.start.inFile file) []
        (run file .start tokens) := by
  have hplaces : ∀ p : Position, (some (p.inFile file)).map (fun _ => Position.start.inFile file) =
      some (Position.start.inFile file) := fun _ => rfl
  rw [← run_relocate hplaces]
  rfl

theorem exists_spelled_of_read {text : String} (hread : read file text = .ok machines) :
    ∃ spelled, Spells text.toList [] spelled ∧
      Accepts file .start (spelled ++ [endAt .start])
        (machines.map (·.relocate (Option.map fun _ => Position.start.inFile file))) := by
  obtain ⟨tokens, hscan, hread⟩ := read_eq_ok_iff.1 hread
  obtain ⟨spelled, hspells, hwords⟩ := spells_of_scan hscan
  refine ⟨spelled, hspells, ?_⟩
  have hterminated := terminated_of_scanFrom hscan
  have hfile := accepts_of_file ((readTokens_eq_ok_iff_of_terminated hterminated).1 hread)
  rw [← hwords, Accepts, run_words, hfile]
  rfl

theorem exists_read_of_spelled {text : String} (hspells : Spells text.toList [] spelled)
    (haccepts : Accepts file .start (spelled ++ [endAt .start]) machines) :
    ∃ placed, read file text = .ok placed ∧
      placed.map (·.relocate (Option.map fun _ => Position.start.inFile file)) = machines := by
  obtain ⟨tokens, hscan, hwords⟩ := scan_of_spells hspells
  rw [← hwords, Accepts, run_words] at haccepts
  cases hrun : run file .start tokens with
  | mk final found =>
    rw [hrun, relocateRun, Prod.mk.injEq, Option.map_eq_none_iff] at haccepts
    obtain ⟨hfinal, rfl⟩ := haccepts
    cases final with
    | between complete =>
      refine ⟨complete, read_eq_ok_iff.2 ⟨tokens, hscan, ?_⟩, State.between.inj hfinal⟩
      rw [readTokens, hrun]
      rfl
    | within => cases hfinal

/-- Layout and sugar never change the output. However often a text is rewritten, it declares
the same machines up to the places of their declarations; and machines that agree up to places
are accepted alike and compiled to the same text. -/
theorem rewriting_changes_places_only (file : String) :
    (∀ (text rewritten : String) (machines : List Machine),
      Relation.ReflTransGen (Rewrite file) text.toList rewritten.toList →
      read file text = .ok machines →
      ∃ again, read file rewritten = .ok again ∧
        again.map (·.unplaced) = machines.map (·.unplaced)) ∧
    ∀ machines again : List Machine, machines.map (·.unplaced) = again.map (·.unplaced) →
      List.Forall₂ (fun m m' => (m.validate = .ok () ↔ m'.validate = .ok ()) ∧
        ∀ source, ModuleText.ofModule (m.compile source) = ModuleText.ofModule (m'.compile source))
        machines again := by
  constructor
  · intro text rewritten machines hrewrites hread
    obtain ⟨spelled, hspells, haccepts⟩ := exists_spelled_of_read hread
    have hrespelled : ∃ respelled, Spells rewritten.toList [] respelled ∧
        Accepts file .start (respelled ++ [endAt .start])
          (machines.map (·.relocate (Option.map fun _ => Position.start.inFile file))) := by
      generalize rewritten.toList = final at hrewrites
      induction hrewrites with
      | refl => exact ⟨spelled, hspells, haccepts⟩
      | tail _ hrewrite ih =>
        obtain ⟨middle, hmiddle, haccepts⟩ := ih
        exact hrewrite.spells hmiddle haccepts
    obtain ⟨respelled, hspells, haccepts⟩ := hrespelled
    obtain ⟨again, hagain, hplaces⟩ := exists_read_of_spelled hspells haccepts
    refine ⟨again, hagain, ?_⟩
    have hunplaced := congrArg (List.map (·.unplaced)) hplaces
    simpa [Machine.unplaced, Machine.relocate_relocate, Function.comp_def] using hunplaced
  · intro machines again hsame
    have hunplaced : List.Forall₂ (· = ·) (machines.map (·.unplaced)) (again.map (·.unplaced)) := by
      rw [List.forall₂_eq_eq_eq, hsame]
    rw [List.forall₂_map_left_iff, List.forall₂_map_right_iff] at hunplaced
    exact hunplaced.imp fun m m' hsame =>
      ⟨Machine.validate_eq_ok_iff_of_unplaced hsame, Machine.text_eq_of_unplaced hsame⟩

/-- A line with two source states, and below a comment a line for each of them. -/
theorem two_lines_for_one :
    ∃ machines, read "m" "M \x7b\nGo \x7b\nA, B => C\n\x7d\n\x7d" = .ok machines ∧
      ∃ again, read "m" "# two\nM \x7b\nGo \x7b\nA => C B => C\n\x7d\n\x7d" = .ok again ∧
        again.map (·.unplaced) = machines.map (·.unplaced) ∧
        List.Forall₂ (fun m m' => (m.validate = .ok () ↔ m'.validate = .ok ()) ∧
          ∀ source, ModuleText.ofModule (m.compile source) =
            ModuleText.ofModule (m'.compile source)) machines again := by
  obtain ⟨hread, hfront, hold, hnew⟩ :
      read "m" "M \x7b\nGo \x7b\nA, B => C\n\x7d\n\x7d" = .ok
          [⟨"M", [⟨⟨"Go", some ⟨"m", 2, 1⟩⟩, ⟨"A", some ⟨"m", 3, 1⟩⟩, ⟨"C", some ⟨"m", 3, 9⟩⟩,
              some ⟨"m", 3, 6⟩⟩,
            ⟨⟨"Go", some ⟨"m", 2, 1⟩⟩, ⟨"B", some ⟨"m", 3, 4⟩⟩, ⟨"C", some ⟨"m", 3, 9⟩⟩,
              some ⟨"m", 3, 6⟩⟩], [], [], [], some ⟨"m", 1, 1⟩⟩] ∧
        Cut .start "M \x7b\nGo \x7b".toList []
          [⟨.identifier, "M", ⟨1, 1⟩⟩, ⟨.leftBrace, "\x7b", ⟨1, 3⟩⟩, ⟨.identifier, "Go", ⟨2, 1⟩⟩,
            ⟨.leftBrace, "\x7b", ⟨2, 4⟩⟩] ∧
        Cut ⟨2, 5⟩ "\nA, B => C".toList []
          [⟨.identifier, "A", ⟨3, 1⟩⟩, ⟨.comma, ",", ⟨3, 2⟩⟩, ⟨.identifier, "B", ⟨3, 4⟩⟩,
            ⟨.arrow, "=>", ⟨3, 6⟩⟩, ⟨.identifier, "C", ⟨3, 9⟩⟩] ∧
        Cut ⟨2, 5⟩ "\nA => C B => C".toList []
          [⟨.identifier, "A", ⟨3, 1⟩⟩, ⟨.arrow, "=>", ⟨3, 3⟩⟩, ⟨.identifier, "C", ⟨3, 6⟩⟩,
            ⟨.identifier, "B", ⟨3, 8⟩⟩, ⟨.arrow, "=>", ⟨3, 10⟩⟩, ⟨.identifier, "C", ⟨3, 13⟩⟩] :=
    ⟨by decide +kernel, cut_of_scanFrom (by decide +kernel), cut_of_scanFrom (by decide +kernel),
      cut_of_scanFrom (by decide +kernel)⟩
  let name (text : String) : Token := ⟨.identifier, text, .start⟩
  let opening : Token := ⟨.leftBrace, "\x7b", .start⟩
  have hfirst : BeforeLine "m" ([name "M", opening] ++ [name "Go", opening]) :=
    .first (.first rfl rfl) rfl rfl
  have hsources : SourceList [name "A", ⟨.comma, ",", .start⟩, name "B"] [name "A", name "B"] :=
    .cons rfl rfl (.one rfl)
  let arrow : Token := ⟨.arrow, "=>", .start⟩
  have hsplit : Sugar "m" ([name "M", opening] ++ [name "Go", opening])
      ([name "A", ⟨.comma, ",", .start⟩, name "B"] ++ [arrow, name "C"])
      ([name "A", name "B"].flatMap fun source => [source, arrow, name "C"]) :=
    .splitLine hfirst hsources rfl rfl
  have hline : Rewrite "m" "M \x7b\nGo \x7b\nA, B => C\n\x7d\n\x7d".toList
      "M \x7b\nGo \x7b\nA => C B => C\n\x7d\n\x7d".toList := by
    have hreplaced : Rewrite "m"
        ("M \x7b\nGo \x7b".toList ++ ("\nA, B => C".toList ++ "\n\x7d\n\x7d".toList))
        ("M \x7b\nGo \x7b".toList ++ ("\nA => C B => C".toList ++ "\n\x7d\n\x7d".toList)) :=
      .sugar hfront.before_line hold.before_line hfront.before_line hnew.before_line (.inl hsplit)
    simpa using hreplaced
  have hcomment : Rewrite "m" "M \x7b\nGo \x7b\nA => C B => C\n\x7d\n\x7d".toList
      "# two\nM \x7b\nGo \x7b\nA => C B => C\n\x7d\n\x7d".toList := by
    have hpadding : Padding (['#'] ++ " two".toList ++ ['\n']) :=
      .comment (.inl rfl) (by decide) .nil
    exact .first hpadding
  obtain ⟨hkeeps, hplaces⟩ := rewriting_changes_places_only "m"
  obtain ⟨again, hagain, hsame⟩ := hkeeps _ _ _ (.tail (.single hline) hcomment) hread
  exact ⟨_, hread, again, hagain, hsame, hplaces _ _ hsame.symm⟩

end FsmCompiler.Reader
