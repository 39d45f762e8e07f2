/-
# Expressions of the target language

Whether a text is an expression of the language that machines are compiled to.
The grammar is read by recursive descent. Of an expression we keep only the
shape that later questions need: what may be assigned to, which names a function
binds and a target mentions, and where it yields, awaits or assigns.
-/

import FsmCompiler.Machine.Naming
import FsmCompiler.Target.Lexeme
import FsmCompiler.Text.Compatible

namespace FsmCompiler.Target

/-- The shape of an expression. -/
inductive Expr
  | name (text : String)
  | constant
  /-- An attribute or an entry of a value: a value that may be assigned to. -/
  | member (parts : List Expr)
  /-- A tuple or a list. -/
  | sequence (items : List Expr)
  | starred (item : Expr)
  /-- Any operator, call or display. -/
  | compound (parts : List Expr)
  | function (params : List String) (defaults : List Expr) (body : Expr)
  /-- A comprehension: its results, the targets of its clauses, what they range
  over, and their conditions. -/
  | comprehension (results targets ranges conditions : List Expr)
  | yield (value : List Expr)
  | await (value : Expr)
  | assign (name : String) (value : Expr)
  deriving Repr, Inhabited

namespace Expr

mutual

/-- Whether the clause of a comprehension may assign to the expression. -/
def isTarget : Expr → Bool
  | name _ => true
  | member _ => true
  | sequence items => areTargets items
  | _ => false

/-- Whether all items may be assigned to; a star may stand before an item. -/
def areTargets : List Expr → Bool
  | [] => true
  | starred item :: rest => isTarget item && areTargets rest
  | item :: rest => isTarget item && areTargets rest

end

mutual

/-- The names that the expression mentions in its own scope. Of a function these
are the names in its defaults, of a comprehension those in its first range. -/
def mentioned : Expr → List String
  | name text => [text]
  | constant => []
  | member parts | sequence parts | compound parts => allMentioned parts
  | starred item => mentioned item
  | function _ defaults _ => allMentioned defaults
  | comprehension _ _ ranges _ => firstMentioned ranges
  | yield value => allMentioned value
  | await value => mentioned value
  | assign target value => target :: mentioned value

/-- The names that some expression of a list mentions. -/
def allMentioned : List Expr → List String
  | [] => []
  | item :: rest => mentioned item ++ allMentioned rest

/-- The names that the first expression of a list mentions. -/
def firstMentioned : List Expr → List String
  | [] => []
  | first :: _ => mentioned first

end

/-- The scope that an expression stands in: that of a type, that of a
comprehension (with the names that its targets mention, and those of the
comprehensions around it), or the body of a function. -/
inductive Scope
  | type
  | comprehension (targetNames : List String)
  | function
  deriving DecidableEq, Repr

/-- Where an expression stands: its scope, and whether it is part of what some
comprehension ranges over. -/
structure Place where
  scope : Scope
  isRange : Bool
  deriving DecidableEq, Repr

mutual

/-- Whether the type of a parameter may hold the expression: it must not yield,
await or assign in the scope of the type itself, no comprehension yields, and
none assigns to a name of its targets. In what a comprehension ranges over there
is no assignment at all. -/
def fits (place : Place) : Expr → Bool
  | name _ | constant => true
  | member parts | sequence parts | compound parts => allFit place parts
  | starred item => fits place item
  | function params defaults body =>
    params.Nodup && allFit place defaults && fits { place with scope := .function } body
  | comprehension results targets ranges conditions =>
    let outer := match place.scope with
      | .comprehension targetNames => targetNames
      | _ => []
    let inside : Place := { place with scope := .comprehension (allMentioned targets ++ outer) }
    rangesFit place inside ranges && allFit inside targets &&
      allFit inside results && allFit inside conditions
  | yield value => place.scope = .function && allFit place value
  | await value => place.scope ≠ .type && fits place value
  | assign target value =>
    !place.isRange && fits place value &&
      match place.scope with
      | .type => false
      | .comprehension targetNames => !targetNames.contains target
      | .function => true

/-- Whether all expressions fit. -/
def allFit (place : Place) : List Expr → Bool
  | [] => true
  | e :: rest => fits place e && allFit place rest

/-- Whether what a comprehension ranges over fits. The first range belongs to the
place around the comprehension. -/
def rangesFit (place inside : Place) : List Expr → Bool
  | [] => true
  | first :: rest =>
    fits { place with isRange := true } first && allFit { inside with isRange := true } rest

end

end Expr

/-! ## Reading -/

/-- A reader consumes lexemes from the front, or fails. -/
abbrev Reading := StateT (List Lexeme) Option

namespace Reading

/-- The next lexeme, not consumed. -/
def peek : Reading (Option Lexeme) := fun lexemes => some (lexemes.head?, lexemes)

/-- Consume one lexeme. -/
def skip : Reading Unit := fun lexemes => some ((), lexemes.tail)

/-- Whether `lexeme` is the operator, punctuation or reserved word `text`. -/
def isWord (text : String) (lexeme : Lexeme) : Bool :=
  lexeme == .symbol text || (lexeme == .name text && Naming.isReserved text)

/-- Whether the next lexeme is `text`. -/
def at? (text : String) : Reading Bool :=
  fun lexemes => some (lexemes.head?.any (isWord text), lexemes)

/-- Whether a star or an assignment without parentheses comes next. Neither can be the key of a
mapping or the bound of a slice. -/
def atStarOrAssignment : Reading Bool :=
  fun lexemes =>
    match lexemes with
    | .symbol "*" :: _ | .name _ :: .symbol ":=" :: _ => some (true, lexemes)
    | _ => some (false, lexemes)

/-- Consume `text` if it is next. -/
def accept? (text : String) : Reading Bool := do
  if ← at? text then skip; return true
  else return false

/-- Consume `text`, or fail. -/
def expect (text : String) : Reading Unit := do
  unless ← accept? text do failure

/-- Consume a name that is not reserved. Its compatible form is the name that it
is. -/
def identifier : Reading String := do
  match ← peek with
  | some (.name text) =>
    if Naming.isReserved text then failure else skip; return Text.compatible text
  | _ => failure

/-- Consume one of the operators `symbols` if it is next. -/
def operator? (symbols : List String) : Reading Bool := do
  match ← peek with
  | some lexeme => if symbols.any (isWord · lexeme) then skip; return true else return false
  | none => return false

/-- Consume a comparison operator if it is next. -/
def comparison? : Reading Bool := do
  if ← operator? ["==", "!=", "<=", "<", ">=", ">", "in"] then return true
  if ← accept? "not" then expect "in"; return true
  if ← accept? "is" then
    let _ ← accept? "not"
    return true
  return false

/-- Operands separated by operators; at most `fuel` operators are read. -/
def chain (fuel : Nat) (operator : Reading Bool) (operand : Reading Expr) : Reading Expr := do
  let first ← operand
  let rec more : Nat → List Expr → Reading (List Expr)
    | 0, parts => return parts
    | fuel + 1, parts => do
      if ← operator then more fuel (parts ++ [← operand]) else return parts
  match ← more fuel [first] with
  | [only] => return only
  | parts => return .compound parts

/-- Items separated by commas, a last comma allowed, up to `closer`, which is
consumed; at most `fuel` items are read. The answer says whether a comma ends
them. -/
def itemsUntil (fuel : Nat) (closer : String) (item : Reading α) : Reading (List α × Bool) := do
  match fuel with
  | 0 => failure
  | fuel + 1 =>
    let first ← item
    if ← accept? closer then return ([first], false)
    expect ","
    if ← accept? closer then return ([first], true)
    let (rest, comma) ← itemsUntil fuel closer item
    return (first :: rest, comma)

/-- The operators that bind closer than comparison, loosest first. -/
def binaryOperators : List (List String) :=
  [["|"], ["^"], ["&"], ["<<", ">>"], ["+", "-"], ["*", "/", "//", "%", "@"]]

/-- A parameter of an anonymous function. -/
inductive Param
  | plain (name : String) (value : Option Expr)
  | slash
  | star (name : Option String)
  | doubleStar (name : String)

/-- Whether parameters come in an allowed order: a slash once, behind a parameter
and before any star; one star, with a parameter behind it if it has no name; two
stars last; and before a star no parameter without a default behind one with. -/
def paramsFit (started slash star needsName default : Bool) : List Param → Bool
  | [] => !needsName
  | .plain _ value :: rest =>
    (star || value.isSome || !default) &&
      paramsFit true slash star false (default || (!star && value.isSome)) rest
  | .slash :: rest => started && !slash && !star && paramsFit true true star needsName default rest
  | .star name :: rest => !star && paramsFit true slash true name.isNone default rest
  | .doubleStar _ :: rest => !needsName && rest.isEmpty

/-- The names that parameters bind. -/
def Param.name? : Param → Option String
  | plain name _ | doubleStar name => some name
  | slash => none
  | star name => name

/-- The arguments of a call seen so far: positional ones only, some by name, or
some from a mapping. -/
inductive CallStage
  | positional
  | byName
  | mapping
  deriving DecidableEq

mutual

/-- An expression; conditional expressions and functions included. -/
def expression : Nat → Reading Expr
  | 0 => failure
  | fuel + 1 => do
    if ← accept? "lambda" then anonymous fuel
    else
      let value ← disjunction fuel
      if ← accept? "if" then
        let condition ← disjunction fuel
        expect "else"
        let other ← expression fuel
        return .compound [value, condition, other]
      else return value

/-- Alternatives joined by `or`. -/
def disjunction : Nat → Reading Expr
  | 0 => failure
  | fuel + 1 =>
    chain fuel (operator? ["or"]) (chain fuel (operator? ["and"]) (inversion fuel))

/-- A negation or a comparison. -/
def inversion : Nat → Reading Expr
  | 0 => failure
  | fuel + 1 => do
    if ← accept? "not" then return .compound [← inversion fuel]
    else chain fuel comparison? (binary fuel binaryOperators)

/-- Operands of the operators in `levels`. -/
def binary : Nat → List (List String) → Reading Expr
  | 0, _ => failure
  | fuel + 1, [] => factor fuel
  | fuel + 1, level :: levels => chain fuel (operator? level) (binary fuel levels)

/-- A sign, or a power. -/
def factor : Nat → Reading Expr
  | 0 => failure
  | fuel + 1 => do
    if ← operator? ["+", "-", "~"] then return .compound [← factor fuel]
    else
      let base ← if ← accept? "await" then Expr.await <$> primary fuel else primary fuel
      if ← accept? "**" then return .compound [base, ← factor fuel] else return base

/-- A value with attributes, entries and calls behind it. -/
def primary : Nat → Reading Expr
  | 0 => failure
  | fuel + 1 => do trailers fuel (← atom fuel)

/-- Attributes, entries and calls behind `base`. -/
def trailers : Nat → Expr → Reading Expr
  | 0, base => return base
  | fuel + 1, base => do
    if ← accept? "." then
      let _ ← identifier
      trailers fuel (.member [base])
    else if ← accept? "[" then
      let (items, _) ← itemsUntil fuel "]" (slice fuel)
      trailers fuel (.member (base :: items))
    else if ← accept? "(" then
      let args ← call fuel
      trailers fuel (.compound (base :: args))
    else return base

/-- A name, a constant, or a display in brackets. -/
def atom : Nat → Reading Expr
  | 0 => failure
  | fuel + 1 => do
    match ← peek with
    | some (.number _) => skip; return .constant
    | some (.quoted bytes _) =>
      skip
      match ← quotedTexts bytes fuel with
      | [] => return .constant
      | parts => return .compound parts
    | some .template =>
      skip
      let inside ← templateFields fuel
      return .compound (inside ++ (← quotedTexts false fuel))
    | some (.name text) =>
      if text ∈ ["True", "False", "None"] then skip; return .constant
      else return .name (← identifier)
    | some (.symbol "...") => skip; return .constant
    | some (.symbol "(") => skip; parenthesized fuel
    | some (.symbol "[") =>
      skip
      if ← accept? "]" then return .sequence []
      let first ← starredItem fuel
      bracketed fuel "]" first
    | some (.symbol "\x7b") => skip; braced fuel
    | _ => failure

/-- Further quoted texts in a row, which make up one text. Bytes and characters do
not mix. -/
def quotedTexts (bytes : Bool) : Nat → Reading (List Expr)
  | 0 => failure
  | fuel + 1 => do
    match ← peek with
    | some (.quoted other _) =>
      if bytes != other then failure
      skip
      quotedTexts bytes fuel
    | some .template =>
      if bytes then failure
      skip
      let inside ← templateFields fuel
      return inside ++ (← quotedTexts bytes fuel)
    | _ => return []

/-- The expressions of a template, up to its end. -/
def templateFields : Nat → Reading (List Expr)
  | 0 => failure
  | fuel + 1 => do
    match ← peek with
    | some .templateEnd => skip; return []
    | _ =>
      expect "("
      let field ← parenthesized fuel
      return field :: (← templateFields fuel)

/-- What stands behind an opening parenthesis: a tuple, a generator or a group. -/
def parenthesized : Nat → Reading Expr
  | 0 => failure
  | fuel + 1 => do
    if ← accept? ")" then return .sequence []
    if ← accept? "yield" then
      let value ← yielded fuel
      expect ")"
      return value
    let first ← starredItem fuel
    if ← accept? ")" then
      match first with
      | .starred _ => failure
      | group => return group
    bracketed fuel ")" first

/-- The rest of a display or comprehension that begins with `first`. -/
def bracketed : Nat → String → Expr → Reading Expr
  | 0, _, _ => failure
  | fuel + 1, closer, first => do
    if ← accept? closer then return .sequence [first]
    if ← accept? "," then
      if ← accept? closer then return .sequence [first]
      let (items, _) ← itemsUntil fuel closer (starredItem fuel)
      return .sequence (first :: items)
    match first with
    | .starred _ => failure
    | result =>
      let value ← clauses fuel [result] [] [] []
      expect closer
      return value

/-- What stands behind an opening brace: a mapping or a set. -/
def braced : Nat → Reading Expr
  | 0 => failure
  | fuel + 1 => do
    if ← accept? "\x7d" then return .compound []
    if (← at? "**") then
      let (items, _) ← itemsUntil fuel "\x7d" (pair fuel)
      return .compound items
    let cannotBeKey ← atStarOrAssignment
    let first ← starredItem fuel
    let isKey ← if cannotBeKey then pure false else accept? ":"
    if isKey then
      let value ← expression fuel
      if ← accept? "\x7d" then return .compound [first, value]
      if ← accept? "," then
        if ← accept? "\x7d" then return .compound [first, value]
        let (items, _) ← itemsUntil fuel "\x7d" (pair fuel)
        return .compound (first :: value :: items)
      let all ← clauses fuel [first, value] [] [] []
      expect "\x7d"
      return all
    match ← bracketed fuel "\x7d" first with
    | .sequence items => return .compound items
    | other => return other

/-- An entry of a mapping. -/
def pair : Nat → Reading Expr
  | 0 => failure
  | fuel + 1 => do
    if ← accept? "**" then binary fuel binaryOperators
    else
      let key ← expression fuel
      expect ":"
      return .compound [key, ← expression fuel]

/-- The clauses of a comprehension; there is at least one. -/
def clauses : Nat → (results targets ranges conditions : List Expr) → Reading Expr
  | 0, _, _, _, _ => failure
  | fuel + 1, results, targets, ranges, conditions => do
    let _ ← accept? "async"
    expect "for"
    let target ← targetList fuel
    expect "in"
    let range ← disjunction fuel
    let more ← conditionList fuel
    let targets := targets ++ [target]
    let ranges := ranges ++ [range]
    let conditions := conditions ++ more
    if (← at? "for") || (← at? "async") then clauses fuel results targets ranges conditions
    else return .comprehension results targets ranges conditions

/-- The conditions of a clause. -/
def conditionList : Nat → Reading (List Expr)
  | 0 => failure
  | fuel + 1 => do
    if ← accept? "if" then
      let condition ← disjunction fuel
      return condition :: (← conditionList fuel)
    else return []

/-- What the clause of a comprehension assigns to. -/
def targetList : Nat → Reading Expr
  | 0 => failure
  | fuel + 1 => do
    let first ← target fuel
    if ← at? "in" then return first
    else return .sequence (first :: (← moreTargets fuel))

/-- Further targets, each behind a comma; a last comma is allowed. -/
def moreTargets : Nat → Reading (List Expr)
  | 0 => failure
  | fuel + 1 => do
    if ← accept? "," then
      if ← at? "in" then return []
      let next ← target fuel
      return next :: (← moreTargets fuel)
    else return []

/-- One target, perhaps with a star. -/
def target : Nat → Reading Expr
  | 0 => failure
  | fuel + 1 => do
    let star ← accept? "*"
    let value ← primary fuel
    if !value.isTarget then failure
    return if star then .starred value else value

/-- An item of a display: an expression, an assignment, or a starred value. -/
def starredItem : Nat → Reading Expr
  | 0 => failure
  | fuel + 1 => do
    if ← accept? "*" then return .starred (← binary fuel binaryOperators)
    else named fuel

/-- An expression, or an assignment within one. -/
def named : Nat → Reading Expr
  | 0 => failure
  | fuel + 1 => do
    match ← get with
    | .name text :: .symbol ":=" :: _ =>
      if Naming.isReserved text then failure
      skip; skip
      return .assign (Text.compatible text) (← expression fuel)
    | _ => expression fuel

/-- An index, a slice, or a starred index. -/
def slice : Nat → Reading Expr
  | 0 => failure
  | fuel + 1 => do
    if ← accept? "*" then return .starred (← expression fuel)
    else
      let cannotBeBound ← atStarOrAssignment
      let lower ← if ← at? ":" then pure [] else pure [← named fuel]
      let isBound ← if cannotBeBound then pure false else accept? ":"
      if isBound then
        let upper ← bound fuel
        let step ← if ← accept? ":" then bound fuel else pure []
        return .compound (lower ++ upper ++ step)
      else return .compound lower

/-- A bound of a slice, which may be missing. -/
def bound : Nat → Reading (List Expr)
  | 0 => failure
  | fuel + 1 => do
    if (← at? ":") || (← at? ",") || (← at? "]") then return []
    else return [← expression fuel]

/-- The arguments of a call up to the closing parenthesis, which is consumed. A
generator may stand without parentheses of its own if it is alone. -/
def call : Nat → Reading (List Expr)
  | 0 => failure
  | fuel + 1 => do
    if ← accept? ")" then return []
    let (value, stage) ← argument fuel .positional
    if stage = .positional && !value matches .starred _ then
      if (← at? "for") || (← at? "async") then
        let generator ← clauses fuel [value] [] [] []
        expect ")"
        return [generator]
    return value :: (← moreArguments fuel stage)

/-- Further arguments, each behind a comma, up to the closing parenthesis; a last
comma is allowed. -/
def moreArguments : Nat → CallStage → Reading (List Expr)
  | 0, _ => failure
  | fuel + 1, stage => do
    if ← accept? ")" then return []
    expect ","
    if ← accept? ")" then return []
    let (value, next) ← argument fuel stage
    return value :: (← moreArguments fuel next)

/-- One argument, and which kinds of arguments have been seen then. -/
def argument : Nat → CallStage → Reading (Expr × CallStage)
  | 0, _ => failure
  | fuel + 1, stage => do
    if ← accept? "**" then return (.compound [← expression fuel], .mapping)
    if ← at? "*" then
      if stage = .mapping then failure
      skip
      return (.starred (← expression fuel), stage)
    match ← get with
    | .name text :: .symbol "=" :: _ =>
      if Naming.isReserved text then failure
      skip; skip
      let value ← expression fuel
      return (.compound [value], if stage = .mapping then .mapping else .byName)
    | _ =>
      if stage ≠ .positional then failure
      return (← named fuel, .positional)

/-- What stands behind `yield`. -/
def yielded : Nat → Reading Expr
  | 0 => failure
  | fuel + 1 => do
    if ← accept? "from" then return .yield [← expression fuel]
    if ← at? ")" then return .yield []
    return .yield (← yieldedItems fuel)

/-- What is yielded: values separated by commas. -/
def yieldedItems : Nat → Reading (List Expr)
  | 0 => failure
  | fuel + 1 => do
    let item ← if ← accept? "*" then Expr.starred <$> binary fuel binaryOperators
      else expression fuel
    if ← accept? "," then
      if ← at? ")" then return [item]
      return item :: (← yieldedItems fuel)
    else return [item]

/-- The parameters and the body of an anonymous function. -/
def anonymous : Nat → Reading Expr
  | 0 => failure
  | fuel + 1 => do
    let params ← if ← accept? ":" then pure [] else do
      let (params, _) ← itemsUntil fuel ":" (param fuel)
      pure params
    if !paramsFit false false false false false params then failure
    let body ← expression fuel
    let defaults := params.filterMap fun
      | .plain _ value => value
      | _ => none
    return .function (params.filterMap Param.name?) defaults body

/-- One parameter of an anonymous function. -/
def param : Nat → Reading Param
  | 0 => failure
  | fuel + 1 => do
    if ← accept? "/" then return .slash
    if ← accept? "**" then return .doubleStar (← identifier)
    if ← accept? "*" then
      if (← at? ",") || (← at? ":") then return .star none
      return .star (some (← identifier))
    let name ← identifier
    if ← accept? "=" then return .plain name (some (← expression fuel))
    return .plain name none

end

/-- A bound on the depth of reading: each lexeme passes a fixed number of levels
of the grammar. -/
def fuelFor (lexemes : List Lexeme) : Nat := 40 * (lexemes.length + 2)

/-- Expressions separated by commas, the last of which may be followed by one. -/
def expressionList (fuel : Nat) : Nat → Reading (List Expr)
  | 0 => failure
  | count + 1 => do
    let first ← expression fuel
    if ← accept? "," then
      match ← peek with
      | none | some .lineEnd => return [first]
      | _ => return first :: (← expressionList fuel count)
    else return [first]

end Reading

/-- Whether the text is an expression, or several separated by commas, on one
logical line. -/
def isExpression (text : String) : Bool :=
  match cut text with
  | none => false
  | some lexemes =>
    match (Reading.expressionList (Reading.fuelFor lexemes) (lexemes.length + 1)).run lexemes with
    | some (_, rest) => rest.all (· == .lineEnd)
    | none => false

end FsmCompiler.Target
