/-
# Tokens of the machine language

A machine is written with words, numbers, quoted strings, brackets and a little
punctuation. Four words are keywords: they open the blocks that are no events.
-/

import FsmCompiler.Source.Location
import FsmCompiler.Text.Quoted

namespace FsmCompiler

/-- The kinds of tokens. -/
inductive TokenKind
  | identifier
  | number
  | string
  | guardResources
  | actionResources
  | initialStates
  | states
  | leftBrace
  | rightBrace
  | leftBracket
  | rightBracket
  | leftParen
  | rightParen
  | arrow
  | colon
  | comma
  | semicolon
  | dot
  | pipe
  | endOfInput
  deriving DecidableEq, Repr

namespace TokenKind

/-- The text that every token of this kind has, or the name of the kind where
the texts differ. -/
def symbol : TokenKind → String
  | identifier => "IDENTIFIER"
  | number => "NUMBER"
  | string => "STRING"
  | guardResources => "GuardResources"
  | actionResources => "ActionResources"
  | initialStates => "InitialStates"
  | states => "States"
  | leftBrace => "\x7b"
  | rightBrace => "\x7d"
  | leftBracket => "["
  | rightBracket => "]"
  | leftParen => "("
  | rightParen => ")"
  | arrow => "=>"
  | colon => ":"
  | comma => ","
  | semicolon => ";"
  | dot => "."
  | pipe => "|"
  | endOfInput => "EOF"

/-- The kind as a message names it where a token of this kind was due. -/
def description : TokenKind → String
  | identifier => "identifier"
  | number => "number"
  | string => "string"
  | endOfInput => "end of input"
  | kind => s!"'{kind.symbol}'"

/-- The keywords, each with the kind of its tokens. -/
def keywords : List (String × TokenKind) :=
  [("GuardResources", guardResources), ("ActionResources", actionResources),
    ("InitialStates", initialStates), ("States", states)]

/-- The kind of a word: one of the keywords, or an identifier. -/
def ofWord (word : String) : TokenKind :=
  (keywords.lookup word).getD identifier

/-- The kind of a token that is a single character. -/
def ofPunctuation : Char → Option TokenKind
  | '{' => some leftBrace
  | '}' => some rightBrace
  | '[' => some leftBracket
  | ']' => some rightBracket
  | '(' => some leftParen
  | ')' => some rightParen
  | ':' => some colon
  | ',' => some comma
  | ';' => some semicolon
  | '.' => some dot
  | '|' => some pipe
  | _ => none

/-- The closing bracket that belongs to an opening one. -/
def closer? : TokenKind → Option TokenKind
  | leftBracket => some rightBracket
  | leftParen => some rightParen
  | _ => none

/-- Whether tokens of this kind are words, numbers or strings: two of them in a
row need a blank between them. -/
def isWord : TokenKind → Bool
  | identifier | number | string => true
  | _ => false

/-- Whether tokens of this kind may stand in a type annotation. -/
def inType : TokenKind → Bool
  | identifier | number | string | leftBracket | rightBracket | leftParen | rightParen
  | comma | dot | pipe => true
  | _ => false

end TokenKind

/-- A token: its kind, the text it was read from, and where that text starts. -/
structure Token where
  kind : TokenKind
  text : String
  pos : Source.Position
  deriving DecidableEq, Repr

namespace Token

/-- The token as a message names it where another one was due. -/
def description (token : Token) : String :=
  match token.kind with
  | .endOfInput => "end of input"
  | .identifier => s!"identifier '{token.text}'"
  | _ => s!"'{token.text}'"

/-- The text of the token, or words for the end of the input. -/
def textOrEnd (token : Token) : String :=
  if token.text = "" then "end of input" else token.text

/-- The token with its kind, its quoted text and its place. -/
def shown (token : Token) : String :=
  s!"Token({token.kind.symbol}, {Text.quoted token.text}, " ++
    s!"{token.pos.line}:{token.pos.column})"

end Token

end FsmCompiler
