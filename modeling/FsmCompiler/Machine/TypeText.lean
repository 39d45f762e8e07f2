/-
# Type annotations

The text of a resource's type, written again from its tokens: a blank follows a
comma, blanks surround a pipe, and a blank keeps two words apart. Nothing else
separates the tokens.
-/

import FsmCompiler.Token

namespace FsmCompiler.TypeText

/-- The text of `token` behind a word (or behind something else). -/
def tokenText (afterWord : Bool) (token : Token) : String :=
  match token.kind with
  | .comma => ", "
  | .pipe => " | "
  | kind => if afterWord && kind.isWord then " " ++ token.text else token.text

/-- The texts of tokens that stand behind a word (or behind something else). -/
def textsFrom (afterWord : Bool) : List Token → List String
  | [] => []
  | token :: rest => tokenText afterWord token :: textsFrom token.kind.isWord rest

/-- `text` without the blanks at its two ends. -/
def trim (text : String) : String :=
  let isBlank : Char → Bool := (· == ' ')
  String.ofList ((text.toList.dropWhile isBlank).reverse.dropWhile isBlank).reverse

/-- The text of an annotation. -/
def ofTokens (tokens : List Token) : String :=
  trim (String.join (textsFrom false tokens))

end FsmCompiler.TypeText
