/-
# Lexemes of the target language

Types of resources are written as expressions of the language that machines are
compiled to. This module cuts such a text into names, numbers, quoted texts,
operators and line ends, or finds that it cannot be cut: numbers and escapes
have their spelling rules, brackets have to match and may nest 200 deep, and a
first line must not be indented.
-/

import FsmCompiler.Target.Template
import FsmCompiler.Text.Identifier
import FsmCompiler.Text.Line

namespace FsmCompiler.Target

/-- The lexemes of an expression. A quoted text keeps what stands between its
quotes, decoded, and whether it denotes bytes. Behind the lexeme of a template
come its expressions, each in parentheses, and the template's end. Of a number it
is only known whether it has too many digits to be written out. -/
inductive Lexeme
  | name (text : String)
  | number (tooLong : Bool)
  | quoted (bytes : Bool) (value : List Char)
  | template
  | templateEnd
  | symbol (text : String)
  | lineEnd
  deriving DecidableEq, Repr

/-- How many digits a whole number may have. -/
def maxDigits : Nat := 4300

/-- Whether a name may begin with `c`, as far as cutting goes: what stands
beyond ASCII counts as part of a name and is checked afterwards. -/
def mayBeginName (c : Char) : Bool := c.isAlpha || c == '_' || 128 ≤ c.toNat

/-- Whether a name may go on with `c`, as far as cutting goes. -/
def mayContinueName (c : Char) : Bool := mayBeginName c || c.isDigit

/-! ## Numbers -/

/-- What follows a run of digits with single underscores between them. -/
def skipDigits (isDigit : Char → Bool) : List Char → Option (List Char)
  | '_' :: c :: rest => if isDigit c then skipDigits isDigit rest else none
  | ['_'] => none
  | c :: rest => if isDigit c then skipDigits isDigit rest else some (c :: rest)
  | [] => some []

/-- The words that may follow a number without a blank, after their first
letter. -/
def wordsAfterNumber : List (Char × List Char) :=
  [('a', "nd".toList), ('e', "lse".toList), ('f', "or".toList), ('o', "r".toList),
    ('n', "ot".toList)]

/-- Whether a number may end before `text`. No name may follow directly, but for
a few words that may follow a value. -/
def numberMayEnd : List Char → Bool
  | [] => true
  | 'i' :: c :: _ => c == 'f' || c == 'n' || c == 's'
  | c :: rest =>
    match wordsAfterNumber.lookup c with
    | some word =>
      word.isPrefixOf rest && !(rest.drop word.length).head?.any mayContinueName
    | none => !mayContinueName c

/-- `rest`, if a number may end before it. -/
def endNumber (rest : List Char) : Option (List Char) :=
  if numberMayEnd rest then some rest else none

/-- What follows the imaginary unit, or the end of a number without one. -/
def skipUnit : List Char → Option (List Char)
  | 'j' :: rest | 'J' :: rest => endNumber rest
  | rest => endNumber rest

/-- What follows the exponent and the imaginary unit of a number. -/
def skipExponent (text : List Char) : Option (List Char) :=
  match text with
  | e :: rest =>
    if e = 'e' ∨ e = 'E' then
      match rest with
      | c :: digits =>
        if c = '+' ∨ c = '-' then
          if digits.head?.any Char.isDigit then (skipDigits Char.isDigit digits).bind skipUnit
          else none
        else if c.isDigit then (skipDigits Char.isDigit rest).bind skipUnit
        else endNumber text
      | [] => endNumber text
    else skipUnit text
  | [] => skipUnit text

/-- What follows the digits behind the point of a number. -/
def skipFraction (text : List Char) : Option (List Char) :=
  if text.head?.any Char.isDigit then (skipDigits Char.isDigit text).bind skipExponent
  else skipExponent text

/-- What follows the digits of a whole number, if it goes on as a fraction. -/
def skipRest? : List Char → Option (Option (List Char))
  | '.' :: rest => some (skipFraction rest)
  | c :: rest =>
    if c = 'e' ∨ c = 'E' ∨ c = 'j' ∨ c = 'J' then some (skipExponent (c :: rest)) else none
  | [] => none

/-- The letters that announce a base, in lower case. -/
def bases : List (Char × Nat) := [('x', 16), ('o', 8), ('b', 2)]

/-- Whether a number has too many digits to be written out in base ten. Those that
are given in base ten never have. -/
def isTooLong : List Char → Bool
  | '0' :: letter :: digits =>
    match bases.lookup letter.toLower with
    | some base =>
      maxDigits < 4 * digits.length &&
        Nat.pow 10 maxDigits ≤ Text.numberIn base (digits.filter (· != '_'))
    | none => false
  | _ => false

/-- What follows a number in a base other than ten. -/
def skipBased (isDigit : Char → Bool) (text : List Char) : Option (List Char) :=
  let digits := match text with
    | '_' :: rest => rest
    | _ => text
  if digits.head?.any isDigit then (skipDigits isDigit digits).bind endNumber else none

/-- What follows a number that begins with a digit. A whole number has no leading
zeros, unless it is zero, and not too many digits. -/
def skipNumber (text : List Char) : Option (List Char) := do
  match text with
  | '0' :: c :: rest =>
    if let some base := bases.lookup c.toLower then
      return ← skipBased (Text.isDigitIn base) rest
  | _ => pure ()
  let rest ← skipDigits Char.isDigit text
  match skipRest? rest with
  | some after => after
  | none =>
    let digits := (text.take (text.length - rest.length)).filter (· != '_')
    if text.head? = some '0' ∧ digits.any (· != '0') then none
    else if maxDigits < digits.length ∧ text.head? ≠ some '0' then none
    else endNumber rest

/-! ## Quoted texts -/

/-- What stands between quotes, and what follows them. A backslash keeps the
character behind it. A text in single quotes ends in its line. -/
def quotedBody (long : Bool) (quote : Char) : List Char → Option (List Char × List Char)
  | [] => none
  | '\\' :: c :: rest =>
    (quotedBody long quote rest).map fun (body, rest) => ('\\' :: c :: body, rest)
  | c :: rest =>
    if c = quote then
      if long then
        match rest with
        | c₂ :: c₃ :: after =>
          if c₂ = quote ∧ c₃ = quote then some ([], after)
          else (quotedBody long quote rest).map fun (body, rest) => (c :: body, rest)
        | _ => none
      else some ([], rest)
    else if c = '\n' ∧ !long then none
    else (quotedBody long quote rest).map fun (body, rest) => (c :: body, rest)

/-- The letters that may stand before a quote, in lower case. -/
def quoteMarks : List (List Char) :=
  ["", "b", "u", "r", "f", "br", "rb", "fr", "rf"].map String.toList

/-- The letters before a quote at the head of `text`, in lower case, if a quoted
text begins there. -/
def marksBeforeQuote? (text : List Char) : Option (List Char) :=
  let marks := (text.takeWhile Char.isAlpha).map Char.toLower
  if marks ∈ quoteMarks ∧ (text.drop marks.length).head?.any (fun c => c == '"' || c == '\'')
  then some marks else none

/-- What stands between the quotes at the head of a text, and what follows them. -/
def cutQuotes : List Char → Option (List Char × List Char)
  | q₁ :: q₂ :: q₃ :: rest =>
    if q₁ = q₂ ∧ q₂ = q₃ then quotedBody true q₁ rest else quotedBody false q₁ (q₂ :: q₃ :: rest)
  | q₁ :: rest => quotedBody false q₁ rest
  | [] => none

/-- The lexeme of a quoted text with the letters `marks` before it, and the
expressions that it holds. -/
def quotedLexeme (marks body : List Char) : Option (Lexeme × List (List Char)) := do
  let raw := marks.contains 'r'
  let bytes := marks.contains 'b'
  if marks.contains 'f' then
    let fields ← Template.expressions raw body
    if fields.any Template.isBlank then none
    return (.template, fields)
  if bytes ∧ body.any (fun c => 128 ≤ c.toNat) then none
  let value ← if raw then some body else decode bytes body
  return (.quoted bytes value, [])

/-! ## Cutting a text -/

/-- The operators and punctuation of more than one character. -/
def longSymbols : List String :=
  ["**=", "//=", ">>=", "<<=", "...", "!=", "%=", "&=", "**", "*=", "+=", "-=", "->", "//",
    "/=", ":=", "<<", "<=", "<>", "==", ">=", ">>", "@=", "^=", "|="]

/-- The operator or punctuation at the head of a text: the longest there is. -/
def cutSymbol (c : Char) (rest : List Char) : String × List Char :=
  match longSymbols.find? (·.toList.isPrefixOf (c :: rest)) with
  | some symbol => (symbol, (c :: rest).drop symbol.length)
  | none => (String.singleton c, rest)

/-- Whether `c` separates lexemes within a line. -/
def isGap (c : Char) : Bool := c == ' ' || c == '\t' || c == '\x0c'

/-- What follows the gap at the start of a line, and whether the gap indents the
line. A form feed starts the line anew. A backslash at the end of the line leads
on to the next, and what has been indented before stays so. -/
def lineStart (indented continued : Bool) : List Char → Option (Bool × List Char)
  | [] => some (indented || continued, [])
  | '\\' :: rest =>
    match rest with
    | '\n' :: c :: rest => lineStart indented (continued || indented) (c :: rest)
    | _ => none
  | c :: rest =>
    if c = '\x0c' then lineStart false continued rest
    else if isGap c then lineStart true continued rest
    else some (indented || continued, c :: rest)

/-- The lexemes of a text, of which at most `fuel` pieces are cut. `closers` are
the closing brackets due, and `fresh` says that no lexeme stands before in the
line. In an indented line nothing but a comment may stand, and blanks at the end of
the text indent a line as well. -/
def cutWithin (fuel : Nat) (closers : List Char) (fresh : Bool) (text : List Char) :
    Option (List Lexeme) :=
  match fuel with
  | 0 => none
  | fuel + 1 => do
    let (indented, text) ←
      if fresh then lineStart false false text else some (false, text.dropWhile isGap)
    match text with
    | [] => if closers.isEmpty && !indented then some [] else none
    | '#' :: rest => cutWithin fuel closers fresh (rest.dropWhile (· != '\n'))
    | '\n' :: rest =>
      if fresh || !closers.isEmpty then cutWithin fuel closers fresh rest
      else return .lineEnd :: (← cutWithin fuel closers true rest)
    | c :: rest =>
      if indented then none
      else if c = '\\' then
        match rest with
        | '\n' :: c :: rest => cutWithin fuel closers false (c :: rest)
        | _ => none
      else
        match marksBeforeQuote? (c :: rest) with
        | some marks =>
          let (body, rest) ← cutQuotes ((c :: rest).drop marks.length)
          let (lexeme, fields) ← quotedLexeme marks body
          let inside ← fields.mapM fun field => cutWithin fuel [] true ('(' :: field ++ [')'])
          let ending := if lexeme = .template then [.templateEnd] else []
          return lexeme :: inside.flatten ++ ending ++ (← cutWithin fuel closers false rest)
        | none =>
          if mayBeginName c then
            let name := String.ofList (c :: rest.takeWhile mayContinueName)
            guard (Text.isIdentifier name)
            return .name name :: (← cutWithin fuel closers false (rest.dropWhile mayContinueName))
          else if c.isDigit then
            let after ← skipNumber (c :: rest)
            let digits := (c :: rest).take (rest.length + 1 - after.length)
            return .number (isTooLong digits) :: (← cutWithin fuel closers false after)
          else if c = '.' ∧ rest.head?.any Char.isDigit then
            let rest ← skipFraction rest
            return .number false :: (← cutWithin fuel closers false rest)
          else
            let closers ← bracketsAfter closers c
            let (symbol, rest) := cutSymbol c rest
            return .symbol symbol :: (← cutWithin fuel closers false rest)

/-- The lexemes of a text. -/
def cut (text : String) : Option (List Lexeme) :=
  let text := Text.uniformLines text.toList
  cutWithin (text.length + 1) [] true text

end FsmCompiler.Target
