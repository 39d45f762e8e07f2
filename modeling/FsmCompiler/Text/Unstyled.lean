/-
# Texts without styling

A sequence that would style text on a terminal begins with the escape character
and an opening bracket, may go on with digits, semicolons and question marks, and
ends with a letter. A text that goes elsewhere is written without such sequences.
-/

namespace FsmCompiler.Text

/-- The character that begins a styling sequence. -/
def escapeChar : Char := '\x1b'

/-- Whether `c` may stand between the bracket and the letter of a sequence. -/
def isStyleParameter (c : Char) : Bool := c.isDigit || c == ';' || c == '?'

/-- What is left of a text behind `held`, which is the part of a sequence read so far,
the last character first. Held characters stay if they turn out to begin none. -/
def unstyledFrom (held : List Char) : List Char → List Char
  | [] => held.reverse
  | c :: rest =>
    if c = escapeChar then held.reverse ++ unstyledFrom [c] rest
    else
      match held with
      | [] => c :: unstyledFrom [] rest
      | [_] =>
        if c = '[' then unstyledFrom (c :: held) rest
        else held.reverse ++ c :: unstyledFrom [] rest
      | _ =>
        if isStyleParameter c then unstyledFrom (c :: held) rest
        else if c.isAlpha then unstyledFrom [] rest
        else held.reverse ++ c :: unstyledFrom [] rest

/-- The text without styling sequences. -/
def unstyled (text : String) : String := String.ofList (unstyledFrom [] text.toList)

end FsmCompiler.Text
