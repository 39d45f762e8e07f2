/-
# Parameters of the dispatch function

The dispatch function of a machine that was read from a text has one parameter for each
resource, in order. No type goes on behind its parameter: it is an expression of its own in
which commas stand inside brackets, so reading it ends where it ends.
-/

import FsmCompiler.Proofs.ExpressionSpan
import FsmCompiler.Proofs.TypeCut
import FsmCompiler.Target.Signature

namespace FsmCompiler.Target

open Reading (isWord)

/-! ## Where a type ends -/

theorem Level.depth_entered (l : Level) : l.entered.depth = l.depth := by
  unfold Level.entered
  split <;> rfl

/-- What a level and a type know of open brackets agrees behind a symbol. -/
theorem depth_of_behindSymbol {l l' : Level} {text : String} {depth : Nat}
    (hstep : l.behindSymbol text = some l')
    (hdepth : depthBehind l.depth (.symbol text) = some depth) : l'.depth = depth := by
  unfold Level.behindSymbol at hstep
  simp only [depthBehind] at hdepth
  split at hstep
  · rename_i hopening
    rw [if_pos hopening] at hdepth
    cases hstep
    exact Option.some.inj hdepth
  rename_i hopening
  rw [if_neg hopening] at hdepth
  split at hstep
  · rename_i hclosing
    rw [if_pos hclosing] at hdepth
    split at hstep
    · cases hstep
    · rename_i hinside
      rw [if_neg hinside] at hdepth
      cases hstep
      exact Option.some.inj hdepth
  rename_i hclosing
  rw [if_neg hclosing] at hdepth
  have hsame : l.depth = depth := by
    split at hdepth
    · cases hdepth
    · exact Option.some.inj hdepth
  rw [← hsame]
  repeat' split at hstep
  all_goals cases hstep
  all_goals first | rfl | exact l.depth_entered

/-- What a level and a type know of open brackets agrees behind a lexeme. -/
theorem depth_of_step {l l' : Level} {lexeme : Lexeme} {depth : Nat}
    (hstep : l.step lexeme = some l') (hdepth : depthBehind l.depth lexeme = some depth) :
    l'.depth = depth := by
  cases lexeme with
  | symbol text => exact depth_of_behindSymbol hstep hdepth
  | name text =>
    cases hdepth
    simp only [Level.step] at hstep
    split at hstep <;> cases hstep
    · exact l.depth_entered
    · rfl
  | lineEnd => cases hdepth
  | number | quoted | template | templateEnd =>
    cases hdepth
    cases hstep
    rfl

/-- Lexemes of a type behind lexemes that lead from one level to another. -/
theorem depthBehind_of_walk {l l' : Level} {used rest : List Lexeme} {depth : Nat}
    (hwalk : l.walk used = some l')
    (hdepth : (used ++ rest).foldlM depthBehind l.depth = some depth) :
    rest.foldlM depthBehind l'.depth = some depth := by
  induction used generalizing l with
  | nil =>
    cases hwalk
    exact hdepth
  | cons lexeme used ih =>
    rw [Level.walk_cons] at hwalk
    obtain ⟨next, hstep, hlater⟩ := Option.bind_eq_some_iff.1 hwalk
    rw [List.cons_append, List.foldlM_cons] at hdepth
    obtain ⟨d, hd, hrest⟩ := Option.bind_eq_some_iff.1 hdepth
    rw [← depth_of_step hstep hd] at hrest
    exact ih hlater hrest

/-- Lexemes of a whole type: brackets match, commas stand inside them, and the parameters of
every anonymous function end. -/
structure WholeType (type : List Lexeme) : Prop where
  walk : Level.outside.walk type = some Level.outside
  depth : type.foldlM depthBehind 0 = some 0

/-- Lexemes that follow the type of a parameter. -/
def EndsParam (lexeme : Lexeme) : Prop := lexeme = .symbol "," ∨ lexeme = .symbol ")"

theorem EndsParam.step {lexeme : Lexeme} (hends : EndsParam lexeme) :
    Level.outside.step lexeme = none := by
  rcases hends with rfl | rfl <;> rfl

theorem EndsParam.depth {lexeme : Lexeme} (hends : EndsParam lexeme) :
    depthBehind 0 lexeme = none := by
  rcases hends with rfl | rfl <;> rfl

/-- Behind what an expression consumes of a type, the type does not go on with a lexeme that
may follow a type. -/
theorem not_endsParam_of_walk {used rest : List Lexeme} {lexeme : Lexeme}
    (hwalk : Level.outside.walk used = some Level.outside)
    (hdepth : (used ++ lexeme :: rest).foldlM depthBehind 0 = some 0) :
    depthBehind 0 lexeme ≠ none := by
  intro hnone
  have hrest : (lexeme :: rest).foldlM depthBehind Level.outside.depth = some 0 :=
    depthBehind_of_walk hwalk hdepth
  rw [List.foldlM_cons, show Level.outside.depth = 0 from rfl, hnone] at hrest
  cases hrest

/-- A type ends where it ends. What an expression consumes before a comma or a bracket is
the type that stands there. -/
theorem eq_of_wholeType {type used rest behind : List Lexeme} {x y : Lexeme}
    (htype : WholeType type) (hwalk : Level.outside.walk used = some Level.outside)
    (hsplit : type ++ y :: behind = used ++ x :: rest) (hx : EndsParam x) (hy : EndsParam y) :
    used = type ∧ x :: rest = y :: behind := by
  rcases List.append_eq_append_iff.1 hsplit with ⟨more, hused, hmore⟩ | ⟨more, htype', hmore⟩
  · cases more with
    | nil => exact ⟨by simpa using hused, by simpa using hmore.symm⟩
    | cons z more =>
      obtain rfl := (List.cons.inj hmore).1
      rw [hused, Level.walk_append, htype.walk, Option.bind_some, Level.walk_cons, hy.step] at hwalk
      cases hwalk
  · cases more with
    | nil => exact ⟨by simpa using htype'.symm, by simpa using hmore⟩
    | cons z more =>
      obtain rfl := (List.cons.inj hmore).1
      have hdepth := htype.depth
      rw [htype'] at hdepth
      exact absurd hx.depth (not_endsParam_of_walk hwalk hdepth)

theorem accept?_of_not_isWord {text : String} {lexemes : List Lexeme}
    (hnot : ∀ lexeme ∈ lexemes.head?, isWord text lexeme = false) :
    Reading.accept? text lexemes = some (false, lexemes) := by
  cases lexemes with
  | nil => rfl
  | cons lexeme rest => rw [accept?_cons, hnot lexeme rfl, if_neg (by decide)]

/-- The lexemes of a type that is an expression are those of a whole type. -/
theorem wholeType_of_isExpression {text : String} {type : List Lexeme} (hcut : cut text = some type)
    (hexpression : isExpression text = true) (hdepth : type.foldlM depthBehind 0 = some 0) :
    WholeType type := by
  refine ⟨?_, hdepth⟩
  unfold isExpression at hexpression
  rw [hcut] at hexpression
  simp only at hexpression
  split at hexpression
  · rename_i items rest hread
    obtain ⟨⟨first, left⟩, hfirst, hlater⟩ := Option.bind_eq_some_iff.1 hread
    obtain ⟨used, rfl, hwalk⟩ := walk_of_expression hfirst
    cases left with
    | nil =>
      rw [List.append_nil]
      exact hwalk .outside
    | cons lexeme left =>
      have hnone := depthBehind_of_walk (hwalk .outside) hdepth
      rw [List.foldlM_cons] at hnone
      obtain ⟨d, hd, -⟩ := Option.bind_eq_some_iff.1 hnone
      have hcomma : isWord "," lexeme = false := by
        refine Bool.eq_false_iff.2 fun hword => ?_
        obtain rfl := eq_symbol_of_isWord hword (by decide)
        cases hd
      have haccept : Reading.accept? "," (lexeme :: left) = some (false, lexeme :: left) :=
        accept?_of_not_isWord (by simpa using hcomma)
      obtain ⟨⟨found, left'⟩, hfound, hlater⟩ := Option.bind_eq_some_iff.1 hlater
      cases haccept.symm.trans hfound
      cases hlater
      simp only [List.all_cons, Bool.and_eq_true, beq_iff_eq] at hexpression
      rw [hexpression.1] at hd
      cases hd
  · cases hexpression

/-! ## Reading parameters -/

/-- The lexemes behind the first parameter: further parameters with their types, and the
closing parenthesis. -/
inductive ParamLexemes : List Resource → List Lexeme → Prop
  | nil : ParamLexemes [] [.symbol ")"]
  | cons {resource resources type later} (htype : WholeType type)
      (hlater : ParamLexemes resources later) :
      ParamLexemes (resource :: resources)
        (.symbol "," :: .name resource.name :: .symbol ":" :: type ++ later)

theorem accept?_symbol {text : String} {rest : List Lexeme} :
    Reading.accept? text (.symbol text :: rest) = some (true, rest) := by
  rw [accept?_cons, if_pos (isWord_iff.2 (.inl rfl))]

theorem accept?_other {text : String} {lexeme : Lexeme} {rest : List Lexeme}
    (hlexeme : isWord text lexeme = false) :
    Reading.accept? text (lexeme :: rest) = some (false, lexeme :: rest) := by
  rw [accept?_cons, hlexeme, if_neg (by decide)]

theorem isWord_name {text name : String} (hfree : Naming.isReserved text = false) :
    isWord text (.name name) = false := by
  simp [isWord, hfree]

theorem eq_of_identifier {text name : String} {lexemes rest : List Lexeme}
    (hread : Reading.identifier (.name text :: lexemes) = some (name, rest)) :
    name = Text.compatible text ∧ rest = lexemes := by
  change (if Naming.isReserved text = true then failure
    else Reading.skip >>= fun _ => pure (Text.compatible text) : Reading String)
      (.name text :: lexemes) = some (name, rest) at hread
  split at hread
  · cases hread
  · cases hread
    exact ⟨rfl, rfl⟩

theorem exists_of_bind {x : Reading α} {f : α → Reading β} {lexemes rest : List Lexeme} {b : β}
    (hread : (x >>= f) lexemes = some (b, rest)) :
    ∃ a left, x lexemes = some (a, left) ∧ f a left = some (b, rest) := by
  obtain ⟨⟨a, left⟩, hx, hf⟩ := Option.bind_eq_some_iff.1 hread
  exact ⟨a, left, hx, hf⟩

theorem exists_of_accept? {text : String} {lexemes rest : List Lexeme}
    (hfree : Naming.isReserved text = false)
    (hread : Reading.accept? text lexemes = some (true, rest)) :
    lexemes = .symbol text :: rest := by
  cases lexemes with
  | nil => cases hread
  | cons lexeme later =>
    rw [accept?_cons] at hread
    split at hread
    · rename_i hword
      cases hread
      rw [eq_symbol_of_isWord hword hfree]
    · cases hread

theorem eq_of_accept? {text : String} {lexemes rest : List Lexeme}
    (hread : Reading.accept? text lexemes = some (false, rest)) : rest = lexemes := by
  cases lexemes with
  | nil =>
    cases hread
    rfl
  | cons lexeme later =>
    rw [accept?_cons] at hread
    split at hread <;> cases hread
    rfl

theorem exists_of_expect {text : String} {lexemes rest : List Lexeme} {u : Unit}
    (hfree : Naming.isReserved text = false)
    (hread : Reading.expect text lexemes = some (u, rest)) : lexemes = .symbol text :: rest := by
  obtain ⟨found, left, hfound, hread⟩ := exists_of_bind hread
  cases found with
  | true =>
    cases hread
    exact exists_of_accept? hfree hfound
  | false => cases hread

/-- What is read before a comma or a bracket is one parameter. -/
theorem names_of_param {fuel count : Nat} {first : String} {type behind rest : List Lexeme}
    {y : Lexeme} {names : List String} (htype : WholeType type) (hy : EndsParam y)
    (hread : Reading.params fuel (count + 1)
      (.name first :: .symbol ":" :: (type ++ y :: behind)) = some (names, rest)) :
    (y = .symbol ")" ∧ names = [Text.compatible first]) ∨
      ∃ later, y = .symbol "," ∧ names = Text.compatible first :: later ∧
        Reading.params fuel count behind = some (later, rest) := by
  unfold Reading.params at hread
  obtain ⟨closed, left, hclosed, hread⟩ := exists_of_bind hread
  cases hclosed.symm.trans (accept?_other (isWord_name (by decide)))
  obtain ⟨name, left, hname, hread⟩ := exists_of_bind hread
  obtain ⟨rfl, rfl⟩ := eq_of_identifier hname
  split at hread
  · obtain ⟨_, _, hfailure, -⟩ := exists_of_bind hread
    cases hfailure
  obtain ⟨typed, left, htyped, hread⟩ := exists_of_bind hread
  cases htyped.symm.trans accept?_symbol
  obtain ⟨e, left, hexpression, hread⟩ := exists_of_bind hread
  obtain ⟨used, hsplit, hwalk⟩ := walk_of_expression hexpression
  split at hread
  · obtain ⟨_, _, hfailure, -⟩ := exists_of_bind hread
    cases hfailure
  obtain ⟨closed, left', hclosed, hend⟩ := exists_of_bind hread
  -- What stands behind the type ends the parameter, so the expression was the whole type.
  cases closed with
  | true =>
    cases hend
    obtain rfl := exists_of_accept? (by decide) hclosed
    obtain ⟨-, hmore⟩ := eq_of_wholeType htype (hwalk .outside) hsplit (.inr rfl) hy
    exact .inl ⟨(List.cons.inj hmore).1.symm, rfl⟩
  | false =>
    obtain rfl := eq_of_accept? hclosed
    rw [if_neg (by decide)] at hend
    obtain ⟨_, left, hcomma, hparams⟩ := exists_of_bind hend
    obtain ⟨later, last, hlater, hdone⟩ := exists_of_bind hparams
    obtain rfl := exists_of_expect (by decide) hcomma
    obtain ⟨-, hmore⟩ := eq_of_wholeType htype (hwalk .outside) hsplit (.inl rfl) hy
    cases hdone
    cases hmore
    exact .inr ⟨later, rfl, rfl, hlater⟩

/-- Reading the parameters gives their names, one for each resource behind the first. -/
theorem names_of_params {fuel count : Nat} {first : String} {resources : List Resource}
    {type later rest : List Lexeme} {names : List String} (htype : WholeType type)
    (hlater : ParamLexemes resources later)
    (hread : Reading.params fuel count (.name first :: .symbol ":" :: type ++ later) =
      some (names, rest)) :
    names = Text.compatible first :: resources.map fun r => Text.compatible r.name := by
  induction hlater generalizing count first type names with
  | nil =>
    cases count with
    | zero => cases hread
    | succ count =>
      rcases names_of_param htype (.inr rfl) hread with ⟨-, rfl⟩ | ⟨_, hcomma, -⟩
      · rfl
      · exact absurd hcomma (by decide)
  | cons htype' hlater ih =>
    cases count with
    | zero => cases hread
    | succ count =>
      rcases names_of_param htype (.inl rfl) hread with ⟨hclosing, -⟩ | ⟨later, -, rfl, hlater⟩
      · exact absurd hclosing (by decide)
      · rw [ih htype' hlater, List.map_cons]

/-! ## Cutting parameters -/

variable {closers : List Char} {fuel : Nat} {rest : List Char} {lexemes : List Lexeme}

theorem cut_blank (hcut : cutWithin fuel closers false (' ' :: rest) = some lexemes) :
    cutWithin fuel closers false rest = some lexemes := by
  cases fuel with
  | zero => cases hcut
  | succ fuel =>
    rw [cutWithin_gap] at hcut ⊢
    exact hcut

/-- A piece of a text without letters before a quote, and the rest. -/
theorem exists_of_cut {c : Char} (hgap : isGap c = false) (hplain : c ∉ ['#', '\n', '\\'])
    (hmarks : marksBeforeQuote? (c :: rest) = if isQuote c then some [] else none)
    (hcut : cutWithin fuel closers false (c :: rest) = some lexemes) :
    ∃ fuel lexeme next after later, cutPiece closers c rest = some (lexeme, next, after) ∧
      cutWithin fuel next false after = some later ∧ lexemes = lexeme :: later := by
  cases fuel with
  | zero => cases hcut
  | succ fuel =>
    rw [cutWithin_cons hgap hplain hmarks] at hcut
    obtain ⟨⟨lexeme, next, after⟩, hpiece, hcons⟩ := Option.bind_eq_some_iff.1 hcut
    obtain ⟨later, hlater, rfl⟩ := Option.map_eq_some_iff.1 hcons
    exact ⟨fuel, lexeme, next, after, later, hpiece, hlater, rfl⟩

theorem marksBeforeQuote?_of_symbol {c : Char} (hc : c.isAlpha = false)
    (hquote : isQuote c = false) :
    marksBeforeQuote? (c :: rest) = none := by
  rw [marksBeforeQuote?_eq, List.dropWhile_cons_of_neg (by simp [hc]), List.head?_cons,
    Option.any_some, hquote, if_neg (by simp)]

/-- Brackets and punctuation that stand between parameters. -/
theorem exists_of_symbol {c : Char} (hc : c ∈ ['(', ')', ',', ':'])
    (hsingle : cutSymbol c rest = (String.singleton c, rest))
    (hcut : cutWithin fuel closers false (c :: rest) = some lexemes) :
    ∃ fuel next later, bracketsAfter closers c = some next ∧
      cutWithin fuel next false rest = some later ∧
      lexemes = .symbol (String.singleton c) :: later := by
  have hclass : ∀ c ∈ ['(', ')', ',', ':'], isGap c = false ∧ c ∉ ['#', '\n', '\\'] ∧
      c.isAlpha = false ∧ isQuote c = false ∧ mayBeginName c = false ∧ c.isDigit = false ∧
      c ≠ '.' := by
    simp only [List.forall_mem_cons, List.not_mem_nil, false_implies, implies_true]
    decide
  obtain ⟨hgap, hplain, halpha, hquote, hname, hdigit, hpoint⟩ := hclass c hc
  have hmarks : marksBeforeQuote? (c :: rest) = if isQuote c then some [] else none := by
    rw [marksBeforeQuote?_of_symbol halpha hquote, hquote, if_neg (by decide)]
  obtain ⟨fuel, lexeme, next, after, later, hpiece, hlater, rfl⟩ :=
    exists_of_cut hgap hplain hmarks hcut
  rw [cutPiece, hquote, hname, hdigit, if_neg (by decide), if_neg (by decide), if_neg (by decide),
    if_neg fun h => hpoint h.1, hsingle] at hpiece
  obtain ⟨next', hnext, hpiece⟩ := Option.map_eq_some_iff.1 hpiece
  cases hpiece
  exact ⟨fuel, next, later, hnext, hlater, rfl⟩

theorem mayBeginName_of_isIdentifierStart {c : Char} (hc : Text.isIdentifierStart c = true) :
    mayBeginName c = true := by
  unfold Text.isIdentifierStart at hc
  split at hc
  · simp only [mayBeginName, Bool.or_eq_true, beq_iff_eq, decide_eq_true_eq] at hc ⊢
    exact .inl hc
  · rename_i hlarge
    simp [mayBeginName, Nat.le_of_not_lt hlarge]

theorem mayContinueName_of_isIdentifierContinue {c : Char}
    (hc : Text.isIdentifierContinue c = true) : mayContinueName c = true := by
  unfold Text.isIdentifierContinue at hc
  split at hc
  · simp only [Char.isAlphanum, Bool.or_eq_true, beq_iff_eq] at hc
    simp only [mayContinueName, mayBeginName, Bool.or_eq_true, beq_iff_eq, decide_eq_true_eq]
    rcases hc with (hc | hc) | hc
    · exact .inl (.inl (.inl hc))
    · exact .inr hc
    · exact .inl (.inl (.inr hc))
  · rename_i hlarge
    exact mayContinueName_of_large hlarge

/-- No quote follows a name before punctuation. -/
theorem no_quote_of_name {word : List Char} {stop : Char} (hstop : stop ∈ [':', ',', ')'])
    (hword : ∀ c ∈ word, mayContinueName c = true) :
    ((word ++ stop :: rest).dropWhile Char.isAlpha).head?.any isQuote = false := by
  have hclass : ∀ c ∈ [':', ',', ')'], c.isAlpha = false ∧ isQuote c = false := by
    simp only [List.forall_mem_cons, List.not_mem_nil, false_implies, implies_true]
    decide
  induction word with
  | nil =>
    rw [List.nil_append, List.dropWhile_cons_of_neg (by simp [hclass stop hstop])]
    exact (hclass stop hstop).2
  | cons c word ih =>
    rw [List.cons_append, List.dropWhile_cons]
    split
    · exact ih fun d hd => hword d (List.mem_cons_of_mem _ hd)
    · exact not_isQuote_of_word (hword c List.mem_cons_self)

/-- A name before punctuation. -/
theorem exists_of_name {name : String} {stop : Char} (hname : Text.isIdentifier name = true)
    (hstop : stop ∈ [':', ',', ')'])
    (hcut : cutWithin fuel closers false (name.toList ++ stop :: rest) = some lexemes) :
    ∃ fuel later, cutWithin fuel closers false (stop :: rest) = some later ∧
      lexemes = .name name :: later := by
  have hstops : ∀ c ∈ [':', ',', ')'], mayContinueName c = false := by
    simp only [List.forall_mem_cons, List.not_mem_nil, false_implies, implies_true]
    decide
  unfold Text.isIdentifier at hname
  cases hchars : name.toList with
  | nil => rw [hchars] at hname; cases hname
  | cons c word =>
    rw [hchars] at hname hcut
    rw [List.cons_append] at hcut
    simp only [Text.isIdentifierText, Bool.and_eq_true, List.all_eq_true] at hname
    have hbegin := mayBeginName_of_isIdentifierStart hname.1
    have hword : ∀ d ∈ word, mayContinueName d = true := fun d hd =>
      mayContinueName_of_isIdentifierContinue (hname.2 d hd)
    have hfirst : mayContinueName c = true := by simp [mayContinueName, hbegin]
    have hquote := not_isQuote_of_word hfirst
    have hgap : isGap c = false := by
      refine Bool.eq_false_iff.2 fun hgap => ?_
      simp only [isGap, Bool.or_eq_true, beq_iff_eq] at hgap
      rcases hgap with (rfl | rfl) | rfl <;> cases hfirst
    have hplain : c ∉ ['#', '\n', '\\'] := by
      intro hbreak
      simp only [List.mem_cons, List.not_mem_nil, or_false] at hbreak
      rcases hbreak with rfl | rfl | rfl <;> cases hfirst
    have hmarks : marksBeforeQuote? (c :: (word ++ stop :: rest)) =
        if isQuote c then some [] else none := by
      rw [marksBeforeQuote?_eq, ← List.cons_append,
        no_quote_of_name hstop (by simpa using ⟨hfirst, hword⟩), hquote, if_neg (by simp),
        if_neg (by decide)]
    obtain ⟨fuel, lexeme, next, after, later, hpiece, hlater, rfl⟩ :=
      exists_of_cut hgap hplain hmarks hcut
    have htake : (word ++ stop :: rest).takeWhile mayContinueName = word := by
      rw [List.takeWhile_append_of_pos hword,
        List.takeWhile_cons_of_neg (by simp [hstops stop hstop]), List.append_nil]
    have hdrop : (word ++ stop :: rest).dropWhile mayContinueName = stop :: rest := by
      rw [List.dropWhile_append_of_pos hword,
        List.dropWhile_cons_of_neg (by simp [hstops stop hstop])]
    rw [cutPiece, hquote, if_neg (by decide), if_pos hbegin] at hpiece
    simp only [htake, hdrop, ← hchars, String.ofList_toList] at hpiece
    split at hpiece
    · cases hpiece
      exact ⟨fuel, later, hlater, rfl⟩
    · cases hpiece

/-- A line that begins with a type is indented if a blank stands before the type. -/
theorem lineStart_of_typeChars (indented : Bool) {depth : Nat} {afterWord : Bool}
    {text : List Char} (htext : TypeChars depth afterWord text) :
    ∃ now, (now = false → indented = false) ∧
      lineStart indented false text = some (now, text.dropWhile isGap) := by
  induction text generalizing afterWord indented with
  | nil => exact ⟨indented, id, by rw [lineStart, Bool.or_false]; rfl⟩
  | cons c rest ih =>
    by_cases hgap : isGap c = true
    · obtain ⟨rfl, hrest⟩ := htext.eq_blank hgap
      obtain ⟨now, hnow, hstart⟩ := ih true hrest
      refine ⟨now, fun h => absurd (hnow h) (by decide), ?_⟩
      rw [List.dropWhile_cons_of_pos hgap, ← hstart]
      rfl
    · have hescape := htext.no_break
      simp only [List.mem_cons, List.not_mem_nil, or_false, not_or] at hescape
      have hfeed : c ≠ '\x0c' := by
        rintro rfl
        exact hgap rfl
      refine ⟨indented, id, ?_⟩
      rw [List.dropWhile_cons_of_neg hgap, lineStart, if_neg hfeed, if_neg hgap, Bool.or_false]
      exact hescape.2.2

/-- A type is cut at the start of a line as within one. -/
theorem cutWithin_of_fresh {depth : Nat} {afterWord : Bool} {text : List Char}
    (htext : TypeChars depth afterWord text)
    (hcut : cutWithin fuel closers true text = some lexemes) :
    cutWithin fuel closers false text = some lexemes := by
  cases fuel with
  | zero => cases hcut
  | succ fuel =>
    obtain ⟨now, -, hstart⟩ := lineStart_of_typeChars false htext
    rw [cutWithin] at hcut ⊢
    simp only [if_true, hstart, Bool.false_eq_true, if_false] at hcut ⊢
    obtain ⟨w, -, hshape⟩ := htext.dropGap (p := isGap) fun _ h => h
    -- An indented line holds nothing, and a type holds no comment and no end of a line.
    cases hrest : text.dropWhile isGap with
    | nil =>
      cases now with
      | false => simpa [hrest] using hcut
      | true => simp [hrest] at hcut
    | cons c rest =>
      rw [hrest] at hcut hshape
      have hplain := hshape.no_break
      simp only [List.mem_cons, List.not_mem_nil, or_false, not_or] at hplain
      cases now with
      | false => simpa [hplain.1, hplain.2.1] using hcut
      | true => simp [hplain.1, hplain.2.1] at hcut

/-- A type that a machine file declares, and that is an expression. -/
structure DeclaredType (text : String) : Prop where
  shape : TypeChars 0 false text.toList
  expression : isExpression text = true

/-- A declared type before a comma or a bracket is cut into the lexemes of a whole type. -/
theorem DeclaredType.exists_wholeType {text : String} {behind : List Char}
    (htype : DeclaredType text) (hbehind : Stops behind)
    (hcut : cutWithin fuel [')'] false (Text.uniformLines text.toList ++ behind) = some lexemes) :
    ∃ type fuel later, WholeType type ∧ cutWithin fuel [')'] false behind = some later ∧
      lexemes = type ++ later := by
  obtain ⟨type, halone⟩ : ∃ type, cut text = some type := by
    have hexpression := htype.expression
    unfold isExpression at hexpression
    split at hexpression
    · cases hexpression
    · exact ⟨_, ‹_›⟩
  have hshape : TypeChars ([] : List Char).length false _ := htype.shape.uniform
  obtain ⟨hdepth, fuel, later, hlater, rfl⟩ := cutWithin_append hshape hbehind
    (cutWithin_of_fresh hshape halone) hcut
  exact ⟨type, fuel, later, wholeType_of_isExpression halone htype.expression hdepth, hlater, rfl⟩

/-- The characters behind the first parameter, with uniform line ends. -/
def paramChars : List Resource → List Char
  | [] => [')']
  | r :: rest =>
    ',' :: ' ' :: (r.name.toList ++
      ':' :: ' ' :: (Text.uniformLines r.type.toList ++ paramChars rest))

theorem exists_paramChars (resources : List Resource) :
    ∃ c rest, paramChars resources = c :: rest ∧ (c = ',' ∨ c = ')') := by
  cases resources with
  | nil => exact ⟨_, _, rfl, .inr rfl⟩
  | cons => exact ⟨_, _, rfl, .inl rfl⟩

theorem stops_paramChars (resources : List Resource) : Stops (paramChars resources) := by
  obtain ⟨c, rest, hchars, hc⟩ := exists_paramChars resources
  rw [hchars]
  rintro d hd
  cases hd
  exact hc

/-- A colon before a blank is a symbol of its own. -/
theorem cutSymbol_colon : cutSymbol ':' (' ' :: rest) = (":", ' ' :: rest) := by
  rcases cutSymbol_cases ':' (' ' :: rest) with hsingle | ⟨s, hs, word, later, hword, hrest, -⟩
  · exact hsingle
  · have hcolons : ∀ s ∈ longSymbols, s.toList.head? = some ':' → s.toList = [':', '='] := by
      decide
    have hall := hcolons s hs (by rw [hword]; rfl)
    rw [hall] at hword
    cases hword
    cases hrest

/-- The parameters behind the first are cut into their lexemes. The induction is on the
resources. -/
theorem paramLexemes_of_cut {resources : List Resource}
    (hresources : ∀ r ∈ resources, Text.isIdentifier r.name = true ∧ DeclaredType r.type)
    (hcut : cutWithin fuel [')'] false (paramChars resources) = some lexemes) :
    ParamLexemes resources lexemes := by
  induction resources generalizing fuel lexemes with
  | nil =>
    obtain ⟨fuel, next, later, hnext, hlater, rfl⟩ :=
      exists_of_symbol (by decide) (cutSymbol_of_single (by decide)) hcut
    cases hnext
    cases fuel with
    | zero => cases hlater
    | succ fuel =>
      cases hlater
      exact .nil
  | cons r resources ih =>
    obtain ⟨hname, htype⟩ := hresources r List.mem_cons_self
    obtain ⟨fuel, next, later, hnext, hcomma, rfl⟩ :=
      exists_of_symbol (by decide) (cutSymbol_of_single (by decide)) hcut
    cases hnext
    obtain ⟨fuel, later, hcolon, rfl⟩ := exists_of_name hname (by decide) (cut_blank hcomma)
    obtain ⟨fuel, next, later, hnext, hblank, rfl⟩ :=
      exists_of_symbol (by decide) cutSymbol_colon hcolon
    cases hnext
    obtain ⟨type, fuel, later, hwhole, hlater, rfl⟩ :=
      htype.exists_wholeType (stops_paramChars resources) (cut_blank hblank)
    exact .cons hwhole (ih (fun r hr => hresources r (List.mem_cons_of_mem _ hr)) hlater)

/-! ## The signature -/

/-- Texts behind a first one, each behind a comma and a blank. -/
theorem toList_commaList (text : String) (texts : List String) :
    (Text.commaList (text :: texts)).toList =
      text.toList ++ texts.flatMap fun t => ',' :: ' ' :: t.toList := by
  induction texts generalizing text with
  | nil => simp [Text.commaList]
  | cons t texts ih =>
    have hcons :
        Text.commaList (text :: t :: texts) = text ++ ", " ++ Text.commaList (t :: texts) :=
      String.intercalate_cons_cons
    rw [hcons, String.toList_append, String.toList_append, ih, List.flatMap_cons]
    simp

/-- The text of a parameter behind a comma. -/
def paramText (r : Resource) : List Char :=
  ',' :: ' ' :: (r.name.toList ++ ':' :: ' ' :: r.type.toList)

/-- Resources as one text behind a comma, if there are any. -/
theorem flatMap_params (resources : List Resource) :
    (if resources.isEmpty then [] else [ModuleText.params resources]).flatMap
        (fun t => ',' :: ' ' :: t.toList) = resources.flatMap paramText := by
  have hparam : ∀ r : Resource, s!"{r.name}: {r.type}".toList =
      r.name.toList ++ ':' :: ' ' :: r.type.toList := by
    intro r
    change (r.name ++ ": " ++ r.type).toList = _
    rw [String.toList_append, String.toList_append, List.append_assoc]
    rfl
  cases resources with
  | nil => rfl
  | cons r rest =>
    rw [List.isEmpty_cons, if_neg (by decide), List.flatMap_singleton, ModuleText.params,
      List.map_cons, toList_commaList, hparam, List.flatMap_map, List.flatMap_cons]
    simp only [hparam]
    rfl

/-- The text of the parameters: the variant, and one for each resource. -/
theorem toList_dispatchParams (code : CompiledModule) :
    (ModuleText.dispatchParams code).toList = "variant: _Variant".toList ++
      (code.guardResources ++ code.actionResources).flatMap paramText := by
  unfold ModuleText.dispatchParams
  simp only [List.cons_append]
  rw [toList_commaList, List.flatMap_append, flatMap_params, flatMap_params, List.flatMap_append]
  rfl

theorem uniformLines_of_not_mem {text : List Char} (hreturn : '\r' ∉ text) :
    Text.uniformLines text = text := by
  induction text with
  | nil => rfl
  | cons c text ih =>
    rw [List.mem_cons, not_or] at hreturn
    rw [uniformLines_cons (Ne.symm hreturn.1), ih hreturn.2]

theorem not_mem_of_isIdentifier {name : String} (hname : Text.isIdentifier name = true) :
    '\r' ∉ name.toList := by
  have hchars : ∀ c ∈ name.toList, mayContinueName c = true := by
    unfold Text.isIdentifier at hname
    cases hchars : name.toList with
    | nil => simp
    | cons c word =>
      rw [hchars] at hname
      simp only [Text.isIdentifierText, Bool.and_eq_true, List.all_eq_true] at hname
      simp only [List.mem_cons, forall_eq_or_imp]
      refine ⟨?_, fun d hd => mayContinueName_of_isIdentifierContinue (hname.2 d hd)⟩
      simp [mayContinueName, mayBeginName_of_isIdentifierStart hname.1]
  exact fun hreturn => absurd (hchars _ hreturn) (by decide)

theorem uniformLines_paramText {resources : List Resource}
    (hnames : ∀ r ∈ resources, Text.isIdentifier r.name = true) :
    Text.uniformLines (resources.flatMap paramText ++ [')']) = paramChars resources := by
  induction resources with
  | nil => rfl
  | cons r resources ih =>
    have hhead : (resources.flatMap paramText ++ [')']).head? ≠ some '\n' := by
      cases resources <;> simp [paramText]
    have hname := uniformLines_of_not_mem (not_mem_of_isIdentifier (hnames r List.mem_cons_self))
    have hrest := ih fun r hr => hnames r (List.mem_cons_of_mem _ hr)
    rw [List.flatMap_cons, List.append_assoc, paramText]
    simp only [List.cons_append, List.append_assoc]
    rw [uniformLines_cons (by decide), uniformLines_cons (by decide),
      uniformLines_append (by simp), hname, uniformLines_cons (by decide),
      uniformLines_cons (by decide), uniformLines_append hhead, hrest, paramChars]

/-- The first parenthesis is cut at the start of the text as within a line. -/
theorem cutWithin_of_paren :
    cutWithin fuel closers true ('(' :: rest) = cutWithin fuel closers false ('(' :: rest) := by
  cases fuel with
  | zero => rfl
  | succ fuel =>
    rw [cutWithin, cutWithin]
    rfl

/-- The parameters are the resources. The signature of the dispatch function has one
parameter for each resource behind the variant. -/
theorem names_of_signature {code : CompiledModule} {signature : Signature}
    (hresources : ∀ r ∈ code.guardResources ++ code.actionResources,
      Text.isIdentifier r.name = true ∧ DeclaredType r.type)
    (hsignature : Signature.ofText (ModuleText.dispatchParams code) = some signature) :
    signature.names = Text.compatible ModuleText.variantParam ::
        (code.guardResources ++ code.actionResources).map (fun r => Text.compatible r.name) ∧
      signature.names.Nodup := by
  obtain ⟨lexemes, hcut, hsignature⟩ := Option.bind_eq_some_iff.1 hsignature
  obtain ⟨⟨names, left⟩, hread, hsignature⟩ := Option.bind_eq_some_iff.1 hsignature
  have hnames : names.Nodup ∧ signature.names = names := by
    obtain ⟨_, hguard, hsignature⟩ := Option.bind_eq_some_iff.1 hsignature
    unfold guard at hguard
    split at hguard
    · rename_i hboth
      cases hsignature
      exact ⟨hboth.2, rfl⟩
    · cases hguard
  have hchars : Text.uniformLines s!"({ModuleText.dispatchParams code})".toList =
      '(' :: ("variant".toList ++ ':' :: ' ' :: ("_Variant".toList ++
        paramChars (code.guardResources ++ code.actionResources))) := by
    have hparen : ")".toList = [')'] := rfl
    change Text.uniformLines ("(" ++ ModuleText.dispatchParams code ++ ")").toList = _
    rw [String.toList_append, String.toList_append, toList_dispatchParams, hparen,
      List.append_assoc, List.append_assoc, ← List.append_assoc, uniformLines_append,
      uniformLines_of_not_mem,
      uniformLines_paramText fun r hr => (hresources r hr).1]
    · rfl
    · decide
    · cases code.guardResources ++ code.actionResources <;> simp [paramText]
  unfold cut at hcut
  simp only [hchars] at hcut
  rw [cutWithin_of_paren] at hcut
  obtain ⟨fuel, next, later, hnext, hvariant, rfl⟩ :=
    exists_of_symbol (by decide) (cutSymbol_of_single (by decide)) hcut
  cases hnext
  obtain ⟨fuel, later, hcolon, rfl⟩ := exists_of_name (by decide +kernel) (by decide) hvariant
  obtain ⟨fuel, next, later, hnext, hblank, rfl⟩ :=
    exists_of_symbol (by decide) cutSymbol_colon hcolon
  cases hnext
  obtain ⟨c, rest, hparams, hc⟩ := exists_paramChars (code.guardResources ++ code.actionResources)
  have htype := cut_blank hblank
  rw [hparams] at htype
  obtain ⟨fuel, later, hlater, rfl⟩ := exists_of_name (by decide +kernel)
    (by rcases hc with rfl | rfl <;> decide) htype
  rw [← hparams] at hlater
  have hlexemes := paramLexemes_of_cut hresources hlater
  have htype : WholeType [.name "_Variant"] := ⟨rfl, rfl⟩
  rw [hnames.2]
  exact ⟨names_of_params htype hlexemes hread, hnames.1⟩

end FsmCompiler.Target
