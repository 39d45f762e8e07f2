/-
# Templates

A template is a quoted text with fields: expressions in braces, each of which may
be followed by an equals sign, a conversion and a format. A format may have fields
of its own, whose formats have none. A brace of the text itself is doubled. Here
the expressions of a template are found; whether they are well formed is for the
reader of expressions to say.
-/

import FsmCompiler.Target.Bracket
import FsmCompiler.Target.Escape

namespace FsmCompiler.Target.Template

/-- Whether `c` is a brace. -/
def isBrace (c : Char) : Bool := c == '{' || c == '}'

/-- The text before the next field or the end of a format, and what follows. In a
format braces are not doubled. A raw text has no escapes; `named` says that the
name of an escape is being read, whose braces do not count. -/
def literal (raw inFormat : Bool) : (named : Bool) → List Char → Option (List Char × List Char)
  | _, [] => some ([], [])
  | true, c :: rest =>
    (literal raw inFormat (c != '}') rest).map fun (text, rest) => (c :: text, rest)
  | false, '\\' :: 'N' :: '{' :: rest =>
    if raw then
      (literal raw inFormat false ('N' :: '{' :: rest)).map fun (text, rest) =>
        ('\\' :: text, rest)
    else (literal raw inFormat true rest).map fun (text, rest) =>
      ('\\' :: 'N' :: '{' :: text, rest)
  | false, '\\' :: c :: rest =>
    if raw || isBrace c then
      (literal raw inFormat false (c :: rest)).map fun (text, rest) => ('\\' :: text, rest)
    else (literal raw inFormat false rest).map fun (text, rest) => ('\\' :: c :: text, rest)
  | false, [c] => if isBrace c then lone c [] else some ([c], [])
  | false, c :: d :: rest =>
    if !isBrace c then
      (literal raw inFormat false (d :: rest)).map fun (text, rest) => (c :: text, rest)
    else if c = d ∧ !inFormat then
      (literal raw inFormat false rest).map fun (text, rest) => (c :: text, rest)
    else lone c (d :: rest)
where
  /-- A brace that is not doubled begins a field or ends a format. -/
  lone (c : Char) (rest : List Char) : Option (List Char × List Char) :=
    if c = '}' ∧ !inFormat then none else some ([], c :: rest)

/-- The expression at the head of a field, and what follows it. It ends before a
brace, a colon, an exclamation mark or an equals sign outside all quotes and
brackets that is not part of a comparison. `skip` characters are taken as they
are, `quote` is the quote that is open and whether it is tripled, and `closers`
are the closing brackets due. Backslashes and number signs are not allowed. -/
def expression (skip : Nat) (quote : Option (Char × Bool)) (closers : List Char) :
    List Char → Option (List Char × List Char)
  | [] => none
  | c :: rest =>
    let go (skip : Nat) (quote : Option (Char × Bool)) (closers : List Char) :=
      (expression skip quote closers rest).map fun (text, rest) => (c :: text, rest)
    if c = '\\' then none
    else match skip, quote with
    | skip + 1, _ => go skip quote closers
    | 0, some (due, tripled) =>
      if c ≠ due then go 0 quote closers
      else if !tripled then go 0 none closers
      else if rest.take 2 = [c, c] then go 2 none closers
      else go 0 quote closers
    | 0, none =>
      if c = '\'' ∨ c = '"' then
        if rest.take 2 = [c, c] then go 2 (some (c, true)) closers
        else go 0 (some (c, false)) closers
      else if c = '#' then none
      else if closers.isEmpty ∧ c ∈ ['!', '=', '<', '>', ':', '}'] then
        if c ∈ ['!', '=', '<', '>'] ∧ rest.head? = some '=' then go 1 none closers
        else if c = '<' ∨ c = '>' then go 0 none closers
        else some ([], c :: rest)
      else (bracketsAfter closers c).bind fun closers => go 0 none closers

/-- Whether `c` may stand behind the equals sign of a field. -/
def isGap (c : Char) : Bool := c == ' ' || ('\t' ≤ c && c ≤ '\r')

/-- What follows the equals sign of a field, if it has one. -/
def skipEquals : List Char → List Char
  | '=' :: rest => rest.dropWhile isGap
  | text => text

/-- What follows the conversion of a field, if it has one. -/
def skipConversion : List Char → Option (List Char)
  | '!' :: c :: rest => if c ∈ ['s', 'r', 'a'] then some rest else none
  | ['!'] => none
  | text => some text

/-- The expressions of a text, or of a format `depth` levels inside, and what
follows it; at most `fuel` fields are read. -/
def expressionsWithin (raw : Bool) : (fuel depth : Nat) → List Char →
    Option (List (List Char) × List Char)
  | 0, _, _ => none
  | fuel + 1, depth, text => do
    let (text, rest) ← literal raw (0 < depth) false text
    if !raw ∧ (decode false text).isNone then none
    match rest with
    | '{' :: rest =>
      if 2 ≤ depth then none
      let (field, rest) ← expression 0 none [] rest
      let rest ← skipConversion (skipEquals rest)
      let (inner, rest) ← match rest with
        | ':' :: rest => expressionsWithin raw fuel (depth + 1) rest
        | rest => some ([], rest)
      match rest with
      | '}' :: rest =>
        let (later, rest) ← expressionsWithin raw fuel depth rest
        return (field :: inner ++ later, rest)
      | _ => none
    | rest => return ([], rest)

/-- The expressions of a template, if its braces are in order. -/
def expressions (raw : Bool) (text : List Char) : Option (List (List Char)) :=
  (expressionsWithin raw (text.length + 1) 0 text).map (·.1)

/-- Whether an expression has only blanks. -/
def isBlank (text : List Char) : Bool :=
  text.all fun c => c == ' ' || c == '\t' || c == '\n' || c == '\x0c'

end FsmCompiler.Target.Template
