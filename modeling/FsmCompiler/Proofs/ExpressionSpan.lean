/-
# How far an expression reaches

A reader of expressions consumes lexemes in which brackets match, and in which commas
stand only inside brackets or between the parameters of an anonymous function. So an
expression ends, at the latest, where a bracket around it closes or a comma follows.
-/

import FsmCompiler.Target.Expression

namespace FsmCompiler.Target

/-! ## Levels -/

/-- Where a lexeme stands: inside how many brackets and, outside of all brackets, behind how
many anonymous functions whose parameters are still being read. -/
structure Level where
  depth : Nat
  functions : Nat
  deriving DecidableEq, Repr

namespace Level

/-- The level outside of everything. -/
def outside : Level := ⟨0, 0⟩

/-- The level inside one more bracket. -/
def deeper (l : Level) : Level := { l with depth := l.depth + 1 }

/-- The level behind the word that begins an anonymous function. Inside brackets it is not
told apart. -/
def entered (l : Level) : Level :=
  if l.depth = 0 then { l with functions := l.functions + 1 } else l

/-- The level behind a symbol, if the symbol may stand here. -/
def behindSymbol (l : Level) (text : String) : Option Level :=
  if text ∈ ["(", "[", "\x7b"] then some l.deeper
  else if text ∈ [")", "]", "\x7d"] then
    if l.depth = 0 then none else some { l with depth := l.depth - 1 }
  else if text ∈ [",", ":"] ∧ l.depth = 0 then
    if l.functions = 0 then none
    else if text = "," then some l
    else some { l with functions := l.functions - 1 }
  else if text = "lambda" then some l.entered
  else some l

/-- The level behind a lexeme, if the lexeme may stand here. -/
def step (l : Level) : Lexeme → Option Level
  | .symbol text => l.behindSymbol text
  | .name text => if text = "lambda" then some l.entered else some l
  | _ => some l

/-- The level behind lexemes, if each of them may stand where it does. -/
def walk (l : Level) (lexemes : List Lexeme) : Option Level := lexemes.foldlM step l

@[simp] theorem walk_nil (l : Level) : l.walk [] = some l := rfl

theorem walk_cons (l : Level) (lexeme : Lexeme) (rest : List Lexeme) :
    l.walk (lexeme :: rest) = (l.step lexeme).bind fun l => l.walk rest := rfl

theorem walk_append (l : Level) (first rest : List Lexeme) :
    l.walk (first ++ rest) = (l.walk first).bind fun l => l.walk rest :=
  List.foldlM_append

end Level

open Reading

/-! ## Spans -/

/-- What a reader consumes of the given lexemes leads from one level to another. Which
levels these are depends on where the reader starts. -/
def SpansOn (lexemes : List Lexeme) (before behind : Level → Level) (x : Reading α) : Prop :=
  ∀ ⦃a rest⦄, x lexemes = some (a, rest) →
    ∃ used, lexemes = used ++ rest ∧ ∀ l, (before l).walk used = some (behind l)

/-- The same, whatever the lexemes are. -/
def Spans (before behind : Level → Level) (x : Reading α) : Prop :=
  ∀ ⦃lexemes⦄, SpansOn lexemes before behind x

/-- The same, where the next lexeme is known. -/
def SpansAt (next : Option Lexeme) (before behind : Level → Level) (x : Reading α) : Prop :=
  ∀ ⦃lexemes⦄, lexemes.head? = next → SpansOn lexemes before behind x

/-- A reader that ends at the level where it starts. -/
def Flat (x : Reading α) : Prop := Spans id id x

variable {before middle behind : Level → Level} {x : Reading α} {y : α → Reading β}

theorem Flat.spans (hx : Flat x) (f : Level → Level) : Spans f f x := by
  intro lexemes a rest hread
  obtain ⟨used, hused, hwalk⟩ := hx hread
  exact ⟨used, hused, fun l => hwalk (f l)⟩

theorem Spans.on (hx : Spans before behind x) (lexemes : List Lexeme) :
    SpansOn lexemes before behind x :=
  fun _ _ hread => hx hread

theorem Spans.at (hx : Spans before behind x) (next : Option Lexeme) :
    SpansAt next before behind x :=
  fun lexemes _ => hx.on lexemes

theorem Spans.pure (a : α) (f : Level → Level) : Spans f f (Pure.pure a : Reading α) := by
  intro lexemes b rest hread
  cases hread
  exact ⟨[], rfl, fun _ => rfl⟩

theorem Flat.pure (a : α) : Flat (Pure.pure a : Reading α) := Spans.pure a id

theorem Spans.failure : Spans before behind (failure : Reading α) := by
  intro lexemes a rest hread
  cases hread

theorem Spans.failure_bind : Spans before behind ((Alternative.failure : Reading α) >>= y) := by
  intro lexemes b rest hread
  cases hread

theorem Spans.bind (hx : Spans before middle x) (hy : ∀ a, Spans middle behind (y a)) :
    Spans before behind (x >>= y) := by
  intro lexemes b rest hread
  obtain ⟨⟨a, left⟩, hfirst, hrest⟩ := Option.bind_eq_some_iff.1 hread
  obtain ⟨used, rfl, hwalk⟩ := hx hfirst
  obtain ⟨later, rfl, hlater⟩ := hy a hrest
  refine ⟨used ++ later, (List.append_assoc _ _ _).symm, fun l => ?_⟩
  rw [Level.walk_append, hwalk, Option.bind_some, hlater]

theorem Spans.ite {c : Prop} [Decidable c] {x' : Reading α} (hyes : Spans before behind x)
    (hno : Spans before behind x') : Spans before behind (if c then x else x') := by
  split
  · exact hyes
  · exact hno

/-- A flat reader may stand before any other. -/
theorem Flat.then (hx : Flat x) (hy : ∀ a, Spans before behind (y a)) :
    Spans before behind (x >>= y) :=
  (hx.spans before).bind hy

theorem Flat.map (f : α → β) (hx : Flat x) : Flat (f <$> x) := by
  rw [map_eq_pure_bind]
  exact hx.then fun a => .pure (f a) _

/-- What follows a look at the next lexeme knows it. -/
theorem Spans.peek {y : Option Lexeme → Reading β}
    (hy : ∀ next, SpansAt next before behind (y next)) :
    Spans before behind (Reading.peek >>= y) := by
  intro lexemes b rest hread
  exact hy lexemes.head? rfl hread

/-- What follows a look at all lexemes knows them. -/
theorem Spans.get {y : List Lexeme → Reading β}
    (hy : ∀ lexemes, SpansOn lexemes before behind (y lexemes)) :
    Spans before behind (MonadState.get >>= y) := by
  intro lexemes b rest hread
  exact hy lexemes hread

/-- Skipping a lexeme leads to the level behind it. -/
theorem SpansOn.skip {lexeme : Lexeme} {tail : List Lexeme} {y : Unit → Reading β}
    (hstep : ∀ l, (before l).step lexeme = some (middle l))
    (hy : SpansOn tail middle behind (y ())) :
    SpansOn (lexeme :: tail) before behind (Reading.skip >>= y) := by
  intro b rest hread
  obtain ⟨used, rfl, hwalk⟩ := hy hread
  refine ⟨lexeme :: used, rfl, fun l => ?_⟩
  rw [Level.walk_cons, hstep, Option.bind_some, hwalk]

theorem SpansAt.skip {lexeme : Lexeme} {y : Unit → Reading β}
    (hstep : ∀ l, (before l).step lexeme = some (middle l)) (hy : Spans middle behind (y ())) :
    SpansAt (some lexeme) before behind (Reading.skip >>= y) := by
  intro lexemes hhead
  obtain ⟨tail, rfl⟩ := List.head?_eq_some_iff.1 hhead
  exact .skip hstep (hy.on tail)

/-! ## Words -/

/-- Words that stand at any level and change none. -/
def isNeutral (text : String) : Bool :=
  !(["(", "[", "\x7b", ")", "]", "\x7d", ",", ":", "lambda"].contains text)

theorem isWord_iff {text : String} {lexeme : Lexeme} :
    isWord text lexeme = true ↔
      lexeme = .symbol text ∨ lexeme = .name text ∧ Naming.isReserved text = true := by
  simp [isWord]

theorem step_of_neutral {text : String} {lexeme : Lexeme} (hneutral : isNeutral text = true)
    (hword : isWord text lexeme = true) (l : Level) : l.step lexeme = some l := by
  simp only [isNeutral, List.contains_eq_mem, List.mem_cons, List.not_mem_nil, or_false,
    Bool.not_eq_true', decide_eq_false_iff_not, not_or] at hneutral
  rcases isWord_iff.1 hword with rfl | ⟨rfl, -⟩
  · simp [Level.step, Level.behindSymbol, hneutral]
  · simp [Level.step, hneutral]

theorem accept?_cons (text : String) (lexeme : Lexeme) (tail : List Lexeme) :
    accept? text (lexeme :: tail) =
      if isWord text lexeme then some (true, tail) else some (false, lexeme :: tail) := by
  have hat : at? text (lexeme :: tail) = some (isWord text lexeme, lexeme :: tail) := rfl
  unfold accept?
  cases hword : isWord text lexeme <;> simp only [bind, StateT.bind, hat, hword] <;> rfl

/-- Where a word is accepted, the reader goes on at the level behind it. -/
theorem Spans.accept {text : String} {y : Bool → Reading β}
    (hstep : ∀ l lexeme, isWord text lexeme = true → (before l).step lexeme = some (middle l))
    (hyes : Spans middle behind (y true)) (hno : Spans before behind (y false)) :
    Spans before behind (accept? text >>= y) := by
  intro lexemes b rest hread
  obtain ⟨⟨found, left⟩, hfound, hcontinue⟩ := Option.bind_eq_some_iff.1 hread
  cases lexemes with
  | nil =>
    cases hfound
    exact hno hcontinue
  | cons lexeme tail =>
    rw [accept?_cons] at hfound
    split at hfound
    · rename_i hword
      cases hfound
      obtain ⟨used, rfl, hwalk⟩ := hyes hcontinue
      refine ⟨lexeme :: used, rfl, fun l => ?_⟩
      rw [Level.walk_cons, hstep l lexeme hword, Option.bind_some, hwalk]
    · cases hfound
      exact hno hcontinue

theorem Spans.acceptNeutral {text : String} {y : Bool → Reading β}
    (hneutral : isNeutral text = true) (hy : ∀ found, Spans before behind (y found)) :
    Spans before behind (accept? text >>= y) :=
  .accept (fun l _ hword => step_of_neutral hneutral hword (before l)) (hy true) (hy false)

theorem Spans.expect {text : String}
    (hstep : ∀ l lexeme, isWord text lexeme = true → (before l).step lexeme = some (behind l)) :
    Spans before behind (Reading.expect text) := by
  unfold Reading.expect
  exact .accept hstep (.pure _ _) .failure

/-- Brackets and punctuation are symbols. -/
theorem eq_symbol_of_isWord {text : String} {lexeme : Lexeme} (hword : isWord text lexeme = true)
    (hfree : Naming.isReserved text = false) : lexeme = .symbol text := by
  rcases isWord_iff.1 hword with rfl | ⟨-, hreserved⟩
  · rfl
  · rw [hfree] at hreserved
    cases hreserved

theorem step_closing {text : String} {lexeme : Lexeme} (hclosing : text ∈ [")", "]", "\x7d"])
    (hword : isWord text lexeme = true) (l : Level) : l.deeper.step lexeme = some l := by
  have hfree : ∀ text ∈ [")", "]", "\x7d"], Naming.isReserved text = false := by decide
  have hopening : ∀ text ∈ [")", "]", "\x7d"], text ∉ ["(", "[", "\x7b"] := by decide
  rw [eq_symbol_of_isWord hword (hfree text hclosing)]
  simp [Level.step, Level.behindSymbol, hopening text hclosing, hclosing, Level.deeper]

theorem step_inside {text : String} {lexeme : Lexeme} (hinner : text ∈ [",", ":"])
    (hword : isWord text lexeme = true) (l : Level) : l.deeper.step lexeme = some l.deeper := by
  have hfree : ∀ text ∈ [",", ":"], Naming.isReserved text = false := by decide
  rw [eq_symbol_of_isWord hword (hfree text hinner)]
  simp only [List.mem_cons, List.not_mem_nil, or_false] at hinner
  rcases hinner with rfl | rfl <;> simp [Level.step, Level.behindSymbol, Level.deeper]

theorem step_lambda {lexeme : Lexeme} (hword : isWord "lambda" lexeme = true) (l : Level) :
    l.step lexeme = some l.entered := by
  rcases isWord_iff.1 hword with rfl | ⟨rfl, -⟩ <;> simp [Level.step, Level.behindSymbol]

theorem step_comma_entered {lexeme : Lexeme} (hword : isWord "," lexeme = true) (l : Level) :
    l.entered.step lexeme = some l.entered := by
  have hsymbol := eq_symbol_of_isWord hword (by decide)
  subst hsymbol
  by_cases hdepth : l.depth = 0 <;> simp [Level.step, Level.behindSymbol, Level.entered, hdepth]

theorem step_colon_entered {lexeme : Lexeme} (hword : isWord ":" lexeme = true) (l : Level) :
    l.entered.step lexeme = some l := by
  have hsymbol := eq_symbol_of_isWord hword (by decide)
  subst hsymbol
  obtain ⟨depth, functions⟩ := l
  by_cases hdepth : depth = 0 <;> simp [Level.step, Level.behindSymbol, Level.entered, hdepth]

/-! ## Small readers -/

theorem flat_at (text : String) : Flat (at? text) := by
  intro lexemes a rest hread
  cases hread
  exact ⟨[], rfl, fun _ => rfl⟩

/-- Where a word is next, the reader knows it. -/
theorem Spans.lookAt {text : String} {y : Bool → Reading β}
    (hyes : ∀ lexeme tail, isWord text lexeme = true →
      SpansOn (lexeme :: tail) before behind (y true))
    (hno : Spans before behind (y false)) : Spans before behind (at? text >>= y) := by
  intro lexemes b rest hread
  cases lexemes with
  | nil => exact hno hread
  | cons lexeme tail =>
    have hread : y (isWord text lexeme) (lexeme :: tail) = some (b, rest) := hread
    cases hword : isWord text lexeme with
    | false =>
      rw [hword] at hread
      exact hno hread
    | true =>
      rw [hword] at hread
      exact hyes lexeme tail hword hread

theorem flat_atStarOrAssignment : Flat atStarOrAssignment := by
  intro lexemes a rest hread
  unfold atStarOrAssignment at hread
  split at hread <;> cases hread <;> exact ⟨[], rfl, fun _ => rfl⟩

theorem flat_accept {text : String} (hneutral : isNeutral text = true) : Flat (accept? text) := by
  have haccept : Spans id id (accept? text >>= Pure.pure) :=
    .acceptNeutral hneutral fun found => Flat.pure found
  rwa [bind_pure] at haccept

theorem flat_expect {text : String} (hneutral : isNeutral text = true) :
    Flat (Reading.expect text) :=
  .expect fun l _ hword => step_of_neutral hneutral hword l

theorem step_name {text : String} (hname : Naming.isReserved text = false) (l : Level) :
    l.step (.name text) = some l := by
  refine if_neg ?_
  rintro rfl
  exact absurd hname (by decide)

theorem flat_identifier : Flat identifier := by
  refine .peek fun next => ?_
  split
  · rename_i text
    split
    · exact Spans.failure.at _
    · rename_i hname
      exact .skip (fun l => step_name (by simpa using hname) l) (.pure _ _)
  · exact Spans.failure.at _

theorem flat_operator {symbols : List String} (hneutral : symbols.all isNeutral = true) :
    Flat (operator? symbols) := by
  refine .peek fun next => ?_
  split
  · rename_i lexeme
    split
    · rename_i hfound
      obtain ⟨text, htext, hword⟩ := List.any_eq_true.1 hfound
      exact .skip (fun l => step_of_neutral (List.all_eq_true.1 hneutral text htext) hword l)
        (.pure _ _)
    · exact (Flat.pure _).at _
  · exact (Flat.pure _).at _

theorem flat_comparison : Flat comparison? := by
  refine (flat_operator (by decide)).then fun found => ?_
  split
  · exact .pure _ _
  · refine .acceptNeutral (by decide) fun found => ?_
    split
    · exact (flat_expect (by decide)).then fun _ => .pure _ _
    · refine .acceptNeutral (by decide) fun found => ?_
      split
      · exact (flat_accept (by decide)).then fun _ => .pure _ _
      · exact .pure _ _

theorem flat_chain {operator : Reading Bool} {operand : Reading Expr} (fuel : Nat)
    (hoperator : Flat operator) (hoperand : Flat operand) :
    Flat (chain fuel operator operand) := by
  have hmore : ∀ fuel parts, Flat (chain.more operator operand fuel parts) := by
    intro fuel
    induction fuel with
    | zero => exact fun parts => .pure _
    | succ fuel ih =>
      intro parts
      refine hoperator.then fun found => ?_
      split
      · exact hoperand.then fun part => ih _
      · exact .pure _ _
  refine hoperand.then fun first => (hmore fuel [first]).then fun parts => ?_
  split <;> exact .pure _ _

/-- Items lead to where their closing lexeme leads. -/
theorem spans_itemsUntil {closer : String} {item : Reading α} (fuel : Nat)
    (hitem : Spans before before item)
    (hcomma : ∀ l lexeme, isWord "," lexeme = true → (before l).step lexeme = some (before l))
    (hcloser : ∀ l lexeme, isWord closer lexeme = true → (before l).step lexeme = some (behind l)) :
    Spans before behind (itemsUntil fuel closer item) := by
  induction fuel with
  | zero => exact .failure
  | succ fuel ih =>
    unfold itemsUntil
    refine hitem.bind fun first => .accept hcloser (.pure _ _) ?_
    refine (Spans.expect hcomma).bind fun _ => .accept hcloser (.pure _ _) ?_
    exact ih.bind fun _ => .pure _ _

/-! ## Expressions -/

/-- What the readers of the grammar consume, with so much fuel. A reader that closes a
bracket starts inside it, and one that reads the parameters of an anonymous function starts
behind the word that begins it. -/
structure SpansWithin (fuel : Nat) : Prop where
  expression : Flat (expression fuel)
  disjunction : Flat (disjunction fuel)
  inversion : Flat (inversion fuel)
  binary : ∀ levels, levels.all (·.all isNeutral) = true → Flat (binary fuel levels)
  factor : Flat (factor fuel)
  primary : Flat (primary fuel)
  trailers : ∀ base, Flat (trailers fuel base)
  atom : Flat (atom fuel)
  quotedTexts : ∀ bytes, Flat (quotedTexts bytes fuel)
  templateFields : Flat (templateFields fuel)
  parenthesized : Spans Level.deeper id (parenthesized fuel)
  bracketed : ∀ closer ∈ [")", "]", "\x7d"], ∀ first,
    Spans Level.deeper id (bracketed fuel closer first)
  braced : Spans Level.deeper id (braced fuel)
  pair : Spans Level.deeper Level.deeper (pair fuel)
  clauses : ∀ results targets ranges conditions,
    Spans Level.deeper Level.deeper (clauses fuel results targets ranges conditions)
  conditionList : Flat (conditionList fuel)
  targetList : Spans Level.deeper Level.deeper (targetList fuel)
  moreTargets : Spans Level.deeper Level.deeper (moreTargets fuel)
  target : Flat (target fuel)
  starredItem : Flat (starredItem fuel)
  named : Flat (named fuel)
  slice : Spans Level.deeper Level.deeper (slice fuel)
  bound : Flat (bound fuel)
  call : Spans Level.deeper id (call fuel)
  moreArguments : ∀ stage, Spans Level.deeper id (moreArguments fuel stage)
  argument : ∀ stage, Flat (argument fuel stage)
  yielded : Spans Level.deeper Level.deeper (yielded fuel)
  yieldedItems : Spans Level.deeper Level.deeper (yieldedItems fuel)
  anonymous : Spans Level.entered id (anonymous fuel)
  param : Flat (param fuel)

theorem spansWithin_zero : SpansWithin 0 := by
  constructor
  case trailers => exact fun base => .pure base
  all_goals
    intros
    exact .failure

variable {fuel : Nat}

namespace SpansWithin

theorem expression_succ (ih : SpansWithin fuel) : Flat (Reading.expression (fuel + 1)) := by
  unfold Reading.expression
  refine .accept (fun l lexeme hword => step_lambda hword l) ih.anonymous ?_
  refine ih.disjunction.then fun value => .acceptNeutral (by decide) fun found => ?_
  split
  · refine ih.disjunction.then fun condition => (flat_expect (by decide)).then fun _ => ?_
    exact ih.expression.then fun other => .pure _ _
  · exact .pure _ _

theorem disjunction_succ (ih : SpansWithin fuel) : Flat (Reading.disjunction (fuel + 1)) := by
  unfold Reading.disjunction
  exact flat_chain _ (flat_operator (by decide))
    (flat_chain _ (flat_operator (by decide)) ih.inversion)

theorem inversion_succ (ih : SpansWithin fuel) : Flat (Reading.inversion (fuel + 1)) := by
  unfold Reading.inversion
  refine .acceptNeutral (by decide) fun found => ?_
  split
  · exact ih.inversion.then fun value => .pure _ _
  · exact flat_chain _ flat_comparison (ih.binary _ (by decide))

theorem binary_succ (ih : SpansWithin fuel) (levels : List (List String))
    (hneutral : levels.all (·.all isNeutral) = true) :
    Flat (Reading.binary (fuel + 1) levels) := by
  unfold Reading.binary
  cases levels with
  | nil => exact ih.factor
  | cons level levels =>
    rw [List.all_cons, Bool.and_eq_true] at hneutral
    exact flat_chain _ (flat_operator hneutral.1) (ih.binary levels hneutral.2)

theorem factor_succ (ih : SpansWithin fuel) : Flat (Reading.factor (fuel + 1)) := by
  have hpower : ∀ base, Flat (do
      if ← accept? "**" then return Expr.compound [base, ← Reading.factor fuel]
      else return base) := by
    intro base
    refine .acceptNeutral (by decide) fun found => ?_
    split
    · exact ih.factor.then fun exponent => .pure _ _
    · exact .pure _ _
  unfold Reading.factor
  refine (flat_operator (by decide)).then fun found => ?_
  split
  · exact ih.factor.then fun value => .pure _ _
  · refine .acceptNeutral (by decide) fun found => ?_
    split
    · exact (ih.primary.map Expr.await).then hpower
    · exact ih.primary.then hpower

theorem primary_succ (ih : SpansWithin fuel) : Flat (Reading.primary (fuel + 1)) := by
  unfold Reading.primary
  exact ih.atom.then ih.trailers

theorem step_opening {text : String} {lexeme : Lexeme} (hopening : text ∈ ["(", "[", "\x7b"])
    (hword : isWord text lexeme = true) (l : Level) : l.step lexeme = some l.deeper := by
  have hfree : ∀ text ∈ ["(", "[", "\x7b"], Naming.isReserved text = false := by decide
  rw [eq_symbol_of_isWord hword (hfree text hopening)]
  exact if_pos hopening

theorem trailers_succ (ih : SpansWithin fuel) (base : Expr) :
    Flat (Reading.trailers (fuel + 1) base) := by
  unfold Reading.trailers
  refine .acceptNeutral (by decide) fun found => ?_
  split
  · exact flat_identifier.then fun _ => ih.trailers _
  · refine .accept (fun l lexeme hword => step_opening (by decide) hword l) ?_ ?_
    · have hitems : Spans Level.deeper id (itemsUntil fuel "]" (Reading.slice fuel)) :=
        spans_itemsUntil fuel ih.slice (fun l lexeme hword => step_inside (by decide) hword l)
          (fun l lexeme hword => step_closing (by decide) hword l)
      exact hitems.bind fun items => ih.trailers _
    · refine .accept (fun l lexeme hword => step_opening (by decide) hword l) ?_ (.pure _ _)
      exact ih.call.bind fun args => ih.trailers _

theorem quotedTexts_succ (ih : SpansWithin fuel) (bytes : Bool) :
    Flat (Reading.quotedTexts bytes (fuel + 1)) := by
  unfold Reading.quotedTexts
  refine .peek fun next => ?_
  split
  · split
    · exact Spans.failure.at _
    · exact .skip (fun l => rfl) (ih.quotedTexts _)
  · split
    · exact Spans.failure.at _
    · refine .skip (fun l => rfl) ?_
      exact ih.templateFields.then fun fields => (ih.quotedTexts _).then fun later => .pure _ _
  · exact (Flat.pure _).at _

theorem templateFields_succ (ih : SpansWithin fuel) :
    Flat (Reading.templateFields (fuel + 1)) := by
  unfold Reading.templateFields
  refine .peek fun next => ?_
  split
  · exact .skip (fun l => rfl) (.pure _ _)
  · refine Spans.at ?_ _
    refine (Spans.expect fun l lexeme hword => step_opening (by decide) hword l).bind fun _ => ?_
    exact ih.parenthesized.bind fun field => ih.templateFields.then fun later => .pure _ _

/-- Items up to a closing bracket, read inside it. -/
theorem spans_itemsUntil_closing (fuel : Nat) {closer : String} {item : Reading Expr}
    (hitem : Spans Level.deeper Level.deeper item) (hcloser : closer ∈ [")", "]", "\x7d"]) :
    Spans Level.deeper id (itemsUntil fuel closer item) :=
  spans_itemsUntil fuel hitem (fun l _ hword => step_inside (by decide) hword l)
    (fun l _ hword => step_closing hcloser hword l)

/-- A closing bracket that has to come next. -/
theorem spans_expect_closing {closer : String} (hcloser : closer ∈ [")", "]", "\x7d"]) :
    Spans Level.deeper id (Reading.expect closer) :=
  .expect fun l _ hword => step_closing hcloser hword l

/-- A closing bracket that may come next ends what stands inside. -/
theorem spans_accept_closing {closer : String} {y : Bool → Reading β}
    (hcloser : closer ∈ [")", "]", "\x7d"]) (hyes : Flat (y true))
    (hno : Spans Level.deeper id (y false)) :
    Spans Level.deeper id (accept? closer >>= y) :=
  .accept (fun l _ hword => step_closing hcloser hword l) hyes hno

/-- A comma or a colon inside a bracket changes nothing. -/
theorem spans_accept_inside {text : String} {behind : Level → Level} {y : Bool → Reading β}
    (hinner : text ∈ [",", ":"]) (hy : ∀ found, Spans Level.deeper behind (y found)) :
    Spans Level.deeper behind (accept? text >>= y) :=
  .accept (fun l _ hword => step_inside hinner hword l) (hy true) (hy false)

theorem bracketed_succ (ih : SpansWithin fuel) {closer : String}
    (hcloser : closer ∈ [")", "]", "\x7d"]) (first : Expr) :
    Spans Level.deeper id (Reading.bracketed (fuel + 1) closer first) := by
  unfold Reading.bracketed
  refine spans_accept_closing hcloser (.pure _) (spans_accept_inside (by decide) fun found => ?_)
  split
  · refine spans_accept_closing hcloser (.pure _) ?_
    have hitems := spans_itemsUntil_closing fuel (ih.starredItem.spans _) hcloser
    exact hitems.bind fun items => .pure _ _
  · split
    · exact .failure
    · exact (ih.clauses _ _ _ _).bind fun value =>
        (spans_expect_closing hcloser).bind fun _ => .pure _ _

theorem parenthesized_succ (ih : SpansWithin fuel) :
    Spans Level.deeper id (Reading.parenthesized (fuel + 1)) := by
  unfold Reading.parenthesized
  refine spans_accept_closing (by decide) (.pure _) (.acceptNeutral (by decide) fun found => ?_)
  split
  · exact ih.yielded.bind fun value => (spans_expect_closing (by decide)).bind fun _ => .pure _ _
  · refine (ih.starredItem.spans _).bind fun first => spans_accept_closing (by decide) ?_ ?_
    · rw [if_pos rfl]
      split
      · exact .failure_bind
      · exact .pure _
    · exact ih.bracketed _ (by decide) first

theorem atom_succ (ih : SpansWithin fuel) : Flat (Reading.atom (fuel + 1)) := by
  unfold Reading.atom
  refine .peek fun next => ?_
  split
  · exact .skip (fun l => rfl) (.pure _ _)
  · refine .skip (fun l => rfl) ((ih.quotedTexts _).then fun parts => ?_)
    split <;> exact .pure _ _
  · refine .skip (fun l => rfl) (ih.templateFields.then fun inside => ?_)
    exact (ih.quotedTexts _).then fun later => .pure _ _
  · split
    · rename_i text hconstant
      have hlambda : ∀ text ∈ ["True", "False", "None"], text ≠ "lambda" := by decide
      exact .skip (fun l => if_neg (hlambda text hconstant)) (.pure _ _)
    · exact Spans.at (flat_identifier.then fun _ => .pure _ _) _
  · exact .skip (fun l => rfl) (.pure _ _)
  · exact .skip (fun l => rfl) ih.parenthesized
  · refine .skip (fun l => rfl) (spans_accept_closing (by decide) (.pure _) ?_)
    exact (ih.starredItem.spans _).bind fun first => ih.bracketed _ (by decide) first
  · exact .skip (fun l => rfl) ih.braced
  · exact Spans.failure.at _

theorem braced_succ (ih : SpansWithin fuel) :
    Spans Level.deeper id (Reading.braced (fuel + 1)) := by
  have hpairs : Spans Level.deeper id (itemsUntil fuel "\x7d" (Reading.pair fuel)) :=
    spans_itemsUntil_closing fuel ih.pair (by decide)
  have hkey : ∀ (finish : Expr → Reading Expr), (∀ display, Spans id id (finish display)) →
      ∀ (first : Expr) (isKey : Bool), Spans Level.deeper id (do
      if isKey then
        let value ← Reading.expression fuel
        if ← accept? "\x7d" then return Expr.compound [first, value]
        if ← accept? "," then
          if ← accept? "\x7d" then return .compound [first, value]
          let found ← itemsUntil fuel "\x7d" (Reading.pair fuel)
          return .compound (first :: value :: found.1)
        let all ← Reading.clauses fuel [first, value] [] [] []
        Reading.expect "\x7d"
        return all
      finish (← Reading.bracketed fuel "\x7d" first)) := by
    intro finish hfinish first isKey
    split
    · refine (ih.expression.spans _).bind fun value => spans_accept_closing (by decide) (.pure _) ?_
      refine spans_accept_inside (by decide) fun found => ?_
      split
      · refine spans_accept_closing (by decide) (.pure _) ?_
        exact hpairs.bind fun items => .pure _ _
      · exact (ih.clauses _ _ _ _).bind fun all =>
          (spans_expect_closing (by decide)).bind fun _ => .pure _ _
    · exact (ih.bracketed _ (by decide) first).bind hfinish
  unfold Reading.braced
  refine spans_accept_closing (by decide) (.pure _) ((flat_at _).then fun found => ?_)
  split
  · exact hpairs.bind fun items => .pure _ _
  · refine flat_atStarOrAssignment.then fun cannotBeKey => ?_
    refine (ih.starredItem.spans _).bind fun first => ?_
    split
    · refine (Spans.pure _ _).bind (hkey _ (fun display => ?_) first)
      split <;> exact .pure _ _
    · refine spans_accept_inside (by decide) (hkey _ (fun display => ?_) first)
      split <;> exact .pure _ _

theorem pair_succ (ih : SpansWithin fuel) :
    Spans Level.deeper Level.deeper (Reading.pair (fuel + 1)) := by
  unfold Reading.pair
  refine .acceptNeutral (by decide) fun found => ?_
  split
  · exact (ih.binary _ (by decide)).spans _
  · refine (ih.expression.spans _).bind fun key => ?_
    refine (Spans.expect fun l _ hword => step_inside (by decide) hword l).bind fun _ => ?_
    exact (ih.expression.spans _).bind fun value => .pure _ _

theorem clauses_succ (ih : SpansWithin fuel) (results targets ranges conditions : List Expr) :
    Spans Level.deeper Level.deeper
      (Reading.clauses (fuel + 1) results targets ranges conditions) := by
  unfold Reading.clauses
  refine .acceptNeutral (by decide) fun _ => (flat_expect (by decide)).then fun _ => ?_
  refine ih.targetList.bind fun target => (flat_expect (by decide)).then fun _ => ?_
  refine ih.disjunction.then fun range => ih.conditionList.then fun more => ?_
  refine (flat_at _).then fun _ => (flat_at _).then fun _ => .ite ?_ (.pure _ _)
  exact ih.clauses _ _ _ _

theorem conditionList_succ (ih : SpansWithin fuel) :
    Flat (Reading.conditionList (fuel + 1)) := by
  unfold Reading.conditionList
  refine .acceptNeutral (by decide) fun found => ?_
  split
  · exact ih.disjunction.then fun condition => ih.conditionList.then fun later => .pure _ _
  · exact .pure _ _

theorem targetList_succ (ih : SpansWithin fuel) :
    Spans Level.deeper Level.deeper (Reading.targetList (fuel + 1)) := by
  unfold Reading.targetList
  refine ih.target.then fun first => (flat_at _).then fun found => ?_
  split
  · exact .pure _ _
  · exact ih.moreTargets.bind fun later => .pure _ _

theorem moreTargets_succ (ih : SpansWithin fuel) :
    Spans Level.deeper Level.deeper (Reading.moreTargets (fuel + 1)) := by
  unfold Reading.moreTargets
  refine spans_accept_inside (by decide) fun found => ?_
  split
  · refine (flat_at _).then fun ended => ?_
    split
    · exact .pure _ _
    · exact ih.target.then fun next => ih.moreTargets.bind fun later => .pure _ _
  · exact .pure _ _

theorem target_succ (ih : SpansWithin fuel) : Flat (Reading.target (fuel + 1)) := by
  unfold Reading.target
  refine .acceptNeutral (by decide) fun star => ih.primary.then fun value => ?_
  exact .ite .failure_bind (.pure _ _)

theorem starredItem_succ (ih : SpansWithin fuel) : Flat (Reading.starredItem (fuel + 1)) := by
  unfold Reading.starredItem
  refine .acceptNeutral (by decide) fun star => ?_
  split
  · exact (ih.binary _ (by decide)).then fun value => .pure _ _
  · exact ih.named

theorem named_succ (ih : SpansWithin fuel) : Flat (Reading.named (fuel + 1)) := by
  unfold Reading.named
  refine .get fun lexemes => ?_
  split
  · rename_i text tail
    by_cases hreserved : Naming.isReserved text = true
    · rw [if_pos hreserved]
      exact Spans.on .failure_bind _
    · rw [if_neg hreserved]
      have hname : Naming.isReserved text = false := by simpa using hreserved
      refine .skip (fun l => step_name hname l) (.skip (fun l => rfl) ?_)
      exact Spans.on (ih.expression.then fun value => .pure _ _) _
  · exact ih.expression.on _

theorem slice_succ (ih : SpansWithin fuel) :
    Spans Level.deeper Level.deeper (Reading.slice (fuel + 1)) := by
  have hbounds : ∀ (lower : List Expr) (isBound : Bool), Spans Level.deeper Level.deeper (do
      if isBound then
        let upper ← Reading.bound fuel
        let step ← if ← accept? ":" then Reading.bound fuel else pure []
        return Expr.compound (lower ++ upper ++ step)
      else return .compound lower) := by
    intro lower isBound
    split
    · refine ih.bound.then fun upper => spans_accept_inside (by decide) fun found => ?_
      split
      · exact ih.bound.then fun step => .pure _ _
      · exact (Flat.pure _).then fun step => .pure _ _
    · exact .pure _ _
  have hlower : ∀ (cannotBeBound : Bool) (lower : List Expr), Spans Level.deeper Level.deeper (do
      let isBound ← if cannotBeBound then pure false else accept? ":"
      if isBound then
        let upper ← Reading.bound fuel
        let step ← if ← accept? ":" then Reading.bound fuel else pure []
        return Expr.compound (lower ++ upper ++ step)
      else return .compound lower) := by
    intro cannotBeBound lower
    refine .ite ?_ ?_
    · exact (Flat.pure _).then (hbounds lower)
    · exact spans_accept_inside (by decide) (hbounds lower)
  unfold Reading.slice
  refine .acceptNeutral (by decide) fun star => .ite ?_ ?_
  · exact ih.expression.then fun value => .pure _ _
  · refine flat_atStarOrAssignment.then fun cannotBeBound => (flat_at _).then fun _ => .ite ?_ ?_
    · exact (Flat.pure _).then (hlower cannotBeBound)
    · exact ih.named.then fun lower => (Flat.pure _).then (hlower cannotBeBound)

theorem bound_succ (ih : SpansWithin fuel) : Flat (Reading.bound (fuel + 1)) := by
  unfold Reading.bound
  refine (flat_at _).then fun _ => (flat_at _).then fun _ => (flat_at _).then fun _ => ?_
  exact .ite (.pure _ _) (ih.expression.then fun value => .pure _ _)

theorem call_succ (ih : SpansWithin fuel) : Spans Level.deeper id (Reading.call (fuel + 1)) := by
  unfold Reading.call
  refine spans_accept_closing (by decide) (.pure _) ?_
  refine ((ih.argument _).spans _).bind fun argument => ?_
  have hmore : Spans Level.deeper id (do
      return argument.1 :: (← Reading.moreArguments fuel argument.2)) :=
    (ih.moreArguments _).bind fun later => .pure _ _
  refine .ite ?_ hmore
  refine (flat_at _).then fun _ => (flat_at _).then fun _ => .ite ?_ hmore
  refine (ih.clauses _ _ _ _).bind fun generator => ?_
  exact (spans_expect_closing (by decide)).bind fun _ => .pure _ _

theorem moreArguments_succ (ih : SpansWithin fuel) (stage : CallStage) :
    Spans Level.deeper id (Reading.moreArguments (fuel + 1) stage) := by
  unfold Reading.moreArguments
  refine spans_accept_closing (by decide) (.pure _) ?_
  refine (Spans.expect fun l _ hword => step_inside (by decide) hword l).bind fun _ => ?_
  refine spans_accept_closing (by decide) (.pure _) ?_
  refine ((ih.argument stage).spans _).bind fun argument => ?_
  exact (ih.moreArguments argument.2).bind fun later => .pure _ _

theorem argument_succ (ih : SpansWithin fuel) (stage : CallStage) :
    Flat (Reading.argument (fuel + 1) stage) := by
  unfold Reading.argument
  refine .acceptNeutral (by decide) fun found => .ite ?_ ?_
  · exact ih.expression.then fun value => .pure _ _
  · refine .lookAt (fun star tail hstar => ?_) (.get fun lexemes => ?_)
    · rw [if_pos rfl]
      by_cases hmapping : stage = .mapping
      · rw [if_pos hmapping]
        exact Spans.on .failure_bind _
      · rw [if_neg hmapping]
        exact .skip (fun l => step_of_neutral (by decide) hstar l)
          (Spans.on (ih.expression.then fun value => .pure _ _) _)
    · split
      · rename_i text tail
        by_cases hreserved : Naming.isReserved text = true
        · rw [if_pos hreserved]
          exact Spans.on .failure_bind _
        · rw [if_neg hreserved]
          have hname : Naming.isReserved text = false := by simpa using hreserved
          refine .skip (fun l => step_name hname l) (.skip (fun l => rfl) ?_)
          exact Spans.on (ih.expression.then fun value => .pure _ _) _
      · refine Spans.on (.ite .failure_bind ?_) _
        exact ih.named.then fun value => .pure _ _

theorem yielded_succ (ih : SpansWithin fuel) :
    Spans Level.deeper Level.deeper (Reading.yielded (fuel + 1)) := by
  unfold Reading.yielded
  refine .acceptNeutral (by decide) fun found => .ite ?_ ?_
  · exact ih.expression.then fun value => .pure _ _
  · refine (flat_at _).then fun ended => .ite (.pure _ _) ?_
    exact ih.yieldedItems.bind fun items => .pure _ _

theorem yieldedItems_succ (ih : SpansWithin fuel) :
    Spans Level.deeper Level.deeper (Reading.yieldedItems (fuel + 1)) := by
  have hmore : ∀ item : Expr, Spans Level.deeper Level.deeper (do
      if ← accept? "," then
        if ← at? ")" then return [item]
        return item :: (← Reading.yieldedItems fuel)
      else return [item]) := by
    intro item
    refine spans_accept_inside (by decide) fun found => .ite ?_ (.pure _ _)
    refine (flat_at _).then fun ended => .ite (.pure _ _) ?_
    exact ih.yieldedItems.bind fun later => .pure _ _
  unfold Reading.yieldedItems
  refine .acceptNeutral (by decide) fun star => .ite ?_ ?_
  · exact ((ih.binary _ (by decide)).map _).then hmore
  · exact ih.expression.then hmore

theorem anonymous_succ (ih : SpansWithin fuel) :
    Spans Level.entered id (Reading.anonymous (fuel + 1)) := by
  have hbody : ∀ (default? : Param → Option Expr) (params : List Param), Flat (do
      if !paramsFit false false false false false params then failure
      let body ← Reading.expression fuel
      let defaults := params.filterMap default?
      return Expr.function (params.filterMap Param.name?) defaults body) := by
    intro default? params
    exact .ite .failure_bind (ih.expression.then fun body => .pure _ _)
  have hparams := spans_itemsUntil fuel (ih.param.spans Level.entered)
    (fun l _ hword => step_comma_entered hword l) (fun l _ hword => step_colon_entered hword l)
  unfold Reading.anonymous
  refine .accept (fun l _ hword => step_colon_entered hword l) ?_ ?_
  · exact (Flat.pure _).then (hbody _)
  · exact hparams.bind fun params => (Flat.pure _).then (hbody _)

theorem param_succ (ih : SpansWithin fuel) : Flat (Reading.param (fuel + 1)) := by
  unfold Reading.param
  refine .acceptNeutral (by decide) fun found => .ite (.pure _ _) ?_
  refine .acceptNeutral (by decide) fun found => .ite ?_ ?_
  · exact flat_identifier.then fun name => .pure _ _
  · refine .acceptNeutral (by decide) fun found => .ite ?_ ?_
    · refine (flat_at _).then fun _ => (flat_at _).then fun _ => .ite (.pure _ _) ?_
      exact flat_identifier.then fun name => .pure _ _
    · refine flat_identifier.then fun name => .acceptNeutral (by decide) fun found => ?_
      exact .ite (ih.expression.then fun value => .pure _ _) (.pure _ _)

end SpansWithin

/-- The readers of the grammar consume what they should. The induction is on the fuel, which
falls with every call. -/
theorem spansWithin (fuel : Nat) : SpansWithin fuel := by
  induction fuel with
  | zero => exact spansWithin_zero
  | succ fuel ih =>
    exact {
      expression := ih.expression_succ
      disjunction := ih.disjunction_succ
      inversion := ih.inversion_succ
      binary := ih.binary_succ
      factor := ih.factor_succ
      primary := ih.primary_succ
      trailers := ih.trailers_succ
      atom := ih.atom_succ
      quotedTexts := ih.quotedTexts_succ
      templateFields := ih.templateFields_succ
      parenthesized := ih.parenthesized_succ
      bracketed := fun _ hcloser => ih.bracketed_succ hcloser
      braced := ih.braced_succ
      pair := ih.pair_succ
      clauses := ih.clauses_succ
      conditionList := ih.conditionList_succ
      targetList := ih.targetList_succ
      moreTargets := ih.moreTargets_succ
      target := ih.target_succ
      starredItem := ih.starredItem_succ
      named := ih.named_succ
      slice := ih.slice_succ
      bound := ih.bound_succ
      call := ih.call_succ
      moreArguments := ih.moreArguments_succ
      argument := ih.argument_succ
      yielded := ih.yielded_succ
      yieldedItems := ih.yieldedItems_succ
      anonymous := ih.anonymous_succ
      param := ih.param_succ }

/-- Expressions are balanced. In what an expression consumes, brackets match, and a comma
outside of brackets stands between the parameters of an anonymous function. -/
theorem walk_of_expression {fuel : Nat} {lexemes rest : List Lexeme} {e : Expr}
    (hread : Reading.expression fuel lexemes = some (e, rest)) :
    ∃ used, lexemes = used ++ rest ∧ ∀ l : Level, l.walk used = some l :=
  (spansWithin fuel).expression hread

end FsmCompiler.Target
