/-
# Quoted texts in TOML

Texts in apostrophes hold their characters as they are; texts in double quotes
hold escapes. Three quotes on each side make a text that may span lines: a line
end directly behind the opening quotes is dropped, and up to two more quotes may
stand directly before the closing ones.
-/

import FsmCompiler.Text.Hexadecimal

namespace FsmCompiler.Toml

/-- Whether `c` is a blank within a line. -/
def isBlank (c : Char) : Bool := c == ' ' || c == '\t'

/-- Whether a character must not be written as it is: control characters, but
tabs, and line ends where the text may span lines. -/
def isBarred (long : Bool) (c : Char) : Bool :=
  (c.toNat < 32 || c.toNat == 127) && c != '\t' && !(long && c == '\n')

/-- What stands before the closing apostrophe, and what follows. -/
def plainBody : List Char → Option (List Char × List Char)
  | [] => none
  | c :: rest =>
    if c = '\'' then some ([], rest)
    else if isBarred false c then none
    else (plainBody rest).map fun (body, rest) => (c :: body, rest)

/-- What stands before three closing apostrophes, and what follows. -/
def longPlainBody : List Char → Option (List Char × List Char)
  | [] => none
  | '\'' :: '\'' :: '\'' :: rest => some ([], rest)
  | c :: rest =>
    if isBarred true c then none
    else (longPlainBody rest).map fun (body, rest) => (c :: body, rest)

/-- The escapes of one letter. -/
def letterEscapes : List (Char × Char) :=
  [('b', '\x08'), ('t', '\t'), ('n', '\n'), ('f', '\x0c'), ('r', '\r'), ('"', '"'),
    ('\\', '\\')]

/-- The character with the code point in the next `width` digits, and what
follows. -/
def codePoint (width : Nat) (text : List Char) : Option (List Char × List Char) := do
  let digits := text.take width
  let code := Text.numberIn 16 digits
  guard (digits.length = width ∧ digits.all (Text.isDigitIn 16) ∧ code.isValidChar)
  return ([Char.ofNat code], text.drop width)

/-- What an escape stands for, given what is behind its backslash, and what
follows. In a long text, a backslash at the end of a line joins the lines. -/
def escape (long : Bool) : List Char → Option (List Char × List Char)
  | [] => none
  | c :: rest =>
    if long ∧ (isBlank c ∨ c = '\n') then
      match (c :: rest).dropWhile isBlank with
      | '\n' :: rest => some ([], rest.dropWhile fun c => isBlank c || c == '\n')
      | [] => some ([], [])
      | _ => none
    else if c = 'u' then codePoint 4 rest
    else if c = 'U' then codePoint 8 rest
    else (letterEscapes.lookup c).map fun value => ([value], rest)

/-- What stands before the closing double quotes, and what follows; at most
`fuel` pieces are read. -/
def escapedBody (long : Bool) (fuel : Nat) (text : List Char) :
    Option (List Char × List Char) :=
  match fuel, text with
  | 0, _ | _, [] => none
  | fuel + 1, '\\' :: rest => do
    let (value, rest) ← escape long rest
    let (body, rest) ← escapedBody long fuel rest
    return (value ++ body, rest)
  | fuel + 1, c :: rest =>
    if c = '"' ∧ !long then some ([], rest)
    else if c = '"' ∧ ['"', '"'].isPrefixOf rest then some ([], rest.drop 2)
    else if isBarred long c then none
    else (escapedBody long fuel rest).map fun (body, rest) => (c :: body, rest)

/-- Up to two more quotes that belong to a long text. -/
def moreQuotes (quote : Char) (read : List Char × List Char) : List Char × List Char :=
  let more := (read.2.take 2).takeWhile (· == quote)
  (read.1 ++ more, read.2.drop more.length)

/-- The text without a line end at its head. -/
def dropLineEnd : List Char → List Char
  | '\n' :: rest => rest
  | text => text

/-- The text quoted in one line at the head of `text`, and what follows. -/
def shortQuoted : List Char → Option (String × List Char)
  | '\'' :: rest => (plainBody rest).map fun (body, rest) => (String.ofList body, rest)
  | '"' :: rest =>
    (escapedBody false rest.length rest).map fun (body, rest) => (String.ofList body, rest)
  | _ => none

/-- The text quoted at the head of `text`, and what follows. -/
def quoted (text : List Char) : Option (String × List Char) :=
  let long (read : Option (List Char × List Char)) (quote : Char) :=
    (read.map (moreQuotes quote)).map fun (body, rest) => (String.ofList body, rest)
  match text with
  | '\'' :: '\'' :: '\'' :: rest => long (longPlainBody (dropLineEnd rest)) '\''
  | '"' :: '"' :: '"' :: rest => long (escapedBody true rest.length (dropLineEnd rest)) '"'
  | _ => shortQuoted text

end FsmCompiler.Toml
