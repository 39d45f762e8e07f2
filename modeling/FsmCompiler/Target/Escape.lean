/-
# Escapes in quoted texts

In a quoted text a backslash and what follows it stand for one character, given
by a letter, by its code in octal or hexadecimal digits, or by its name. An escape
that is not known stands for itself.
-/

import FsmCompiler.Text.CharacterName

namespace FsmCompiler.Target

open Text (isDigitIn numberIn)

/-- The character of an escape with `width` hexadecimal digits, and what follows. -/
def hexEscape (width : Nat) (text : List Char) : Option (Char × List Char) :=
  let digits := text.take width
  if digits.length = width ∧ digits.all (isDigitIn 16) ∧ numberIn 16 digits < 0x110000 then
    some (Char.ofNat (numberIn 16 digits), text.drop width)
  else none

/-- The escapes of one letter. -/
def letterEscapes : List (Char × Char) :=
  [('\\', '\\'), ('\'', '\''), ('"', '"'), ('a', '\x07'), ('b', '\x08'), ('f', '\x0c'),
    ('n', '\n'), ('r', '\r'), ('t', '\t'), ('v', '\x0b')]

/-- The character of an escape by name, and what follows. The name stands in
braces. -/
def namedEscape : List Char → Option (Char × List Char)
  | '{' :: rest => do
    let name := rest.takeWhile (· != '}')
    guard (name.length < rest.length)
    let code ← Text.CharacterName.find? name
    return (Char.ofNat code, rest.drop (name.length + 1))
  | _ => none

/-- The text with its escapes replaced by what they stand for; at most `fuel`
characters are read. An escape that is not known stands for itself. -/
def decodeWithin (bytes : Bool) (fuel : Nat) (text : List Char) : Option (List Char) :=
  match fuel, text with
  | _, [] | 0, _ => some []
  | fuel + 1, '\\' :: c :: rest =>
    if c = '\n' then decodeWithin bytes fuel rest
    else match letterEscapes.lookup c with
      | some value => (decodeWithin bytes fuel rest).map (value :: ·)
      | none =>
        let width := if c = 'x' then 2 else if bytes then 0
          else if c = 'u' then 4 else if c = 'U' then 8 else 0
        if 0 < width then
          (hexEscape width rest).bind fun (value, rest) =>
            (decodeWithin bytes fuel rest).map (value :: ·)
        else if isDigitIn 8 c then
          let digits := (c :: rest).take 3 |>.takeWhile (isDigitIn 8)
          (decodeWithin bytes fuel ((c :: rest).drop digits.length)).map
            (Char.ofNat (numberIn 8 digits) :: ·)
        else if c = 'N' ∧ !bytes then
          (namedEscape rest).bind fun (value, rest) =>
            (decodeWithin bytes fuel rest).map (value :: ·)
        else (decodeWithin bytes fuel rest).map fun value => '\\' :: c :: value
  | fuel + 1, c :: rest => (decodeWithin bytes fuel rest).map (c :: ·)

/-- The text with its escapes replaced by what they stand for. -/
def decode (bytes : Bool) (text : List Char) : Option (List Char) :=
  decodeWithin bytes text.length text

end FsmCompiler.Target
