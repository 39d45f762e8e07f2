/-
# From text to tokens

A text is cut into pieces: single blanks, comments and lexemes. Each piece is as
long as its class allows, and the tokens are the lexemes with the positions at
which they start, followed by one token for the end of the text.

Nothing is lost or invented: a piece and what follows it make up the text it was
cut from (`Piece.used_append_rest`).
-/

import FsmCompiler.Source.Location
import FsmCompiler.Text.Numeral
import FsmCompiler.Token

namespace FsmCompiler.Token

open Text (isLetter isDigit isAlphanumeric)
open Source (Position)

/-- Why no piece could be cut off. -/
inductive ScanError
  | unexpectedCharacter (c : Char)
  | unterminatedString
  deriving DecidableEq, Repr

/-- Whether a word may begin with `c`. -/
def isWordStart (c : Char) : Bool := isLetter c || c == '_'

/-- Whether a word may go on with `c`. -/
def isWordRest (c : Char) : Bool := isAlphanumeric c || c == '_'

/-- Whether a number may go on with `c`. -/
def isNumberRest (c : Char) : Bool := isDigit c || c == '.'

/-- Whether `c` separates tokens without being one. -/
def isBlank (c : Char) : Bool := c == ' ' || c == '\t' || c == '\r' || c == '\n'

/-- Whether a comment begins at `c` with `rest` behind it. -/
def startsComment (c : Char) (rest : List Char) : Bool :=
  c == '#' || (c == '/' && rest.head? == some '/')

/-- The characters of a string after its opening quote, the closing quote
included, and what follows. A backslash keeps the character behind it, even a
quote or the end of a line; otherwise the string has to end in its line. -/
def stringBody (quote : Char) : List Char → Option (List Char × List Char)
  | [] => none
  | c :: rest =>
    if c = quote then some ([c], rest)
    else if c = '\n' then none
    else if c = '\\' then
      match rest with
      | [] => none
      | escaped :: rest =>
        (stringBody quote rest).map fun (body, rest) => (c :: escaped :: body, rest)
    else (stringBody quote rest).map fun (body, rest) => (c :: body, rest)

/-- A first piece of a text: its token kind if it is a lexeme, the characters it
takes up, and the text behind it. -/
structure Piece where
  kind : Option TokenKind
  used : List Char
  rest : List Char

/-- A piece that starts with `c` and goes on while `p` holds. -/
def Piece.while (kind : List Char → Option TokenKind) (p : Char → Bool) (c : Char)
    (rest : List Char) : Piece :=
  let used := c :: rest.takeWhile p
  ⟨kind used, used, rest.dropWhile p⟩

/-- The first piece of the text `c :: rest`. -/
def Piece.first (c : Char) (rest : List Char) : Except ScanError Piece :=
  if isBlank c then .ok ⟨none, [c], rest⟩
  else if startsComment c rest then .ok (.while (fun _ => none) (· != '\n') c rest)
  else if isWordStart c then
    .ok (.while (fun word => some (.ofWord (String.ofList word))) isWordRest c rest)
  else if isDigit c then .ok (.while (fun _ => some .number) isNumberRest c rest)
  else if c = '"' ∨ c = '\'' then
    match stringBody c rest with
    | some (body, rest) => .ok ⟨some .string, c :: body, rest⟩
    | none => .error .unterminatedString
  else if c = '=' ∧ rest.head? = some '>' then .ok ⟨some .arrow, ['=', '>'], rest.tail⟩
  else match TokenKind.ofPunctuation c with
    | some kind => .ok ⟨some kind, [c], rest⟩
    | none => .error (.unexpectedCharacter c)

/-- The body of a string and what follows it make up the text behind the quote. -/
theorem stringBody_append {quote : Char} {text body rest : List Char}
    (hbody : stringBody quote text = some (body, rest)) : body ++ rest = text := by
  fun_induction stringBody quote text generalizing body rest with
  | case1 => simp at hbody
  | case2 =>
    simp only [Option.some.injEq, Prod.mk.injEq] at hbody
    obtain ⟨rfl, rfl⟩ := hbody
    rfl
  | case3 => simp at hbody
  | case4 => simp at hbody
  | case5 _ _ _ _ ih =>
    simp only [Option.map_eq_some_iff, Prod.mk.injEq] at hbody
    obtain ⟨⟨inner, after⟩, hinner, hused, hrest⟩ := hbody
    simp [← hused, ← hrest, ih hinner]
  | case6 _ _ _ _ _ ih =>
    simp only [Option.map_eq_some_iff, Prod.mk.injEq] at hbody
    obtain ⟨⟨inner, after⟩, hinner, hused, hrest⟩ := hbody
    simp [← hused, ← hrest, ih hinner]

/-- A piece and what follows it make up the text. -/
theorem Piece.used_append_rest {c : Char} {rest : List Char} {piece : Piece}
    (hpiece : Piece.first c rest = .ok piece) : piece.used ++ piece.rest = c :: rest := by
  unfold Piece.first at hpiece
  split at hpiece
  · cases hpiece; rfl
  split at hpiece
  · cases hpiece; simp [Piece.while]
  split at hpiece
  · cases hpiece; simp [Piece.while]
  split at hpiece
  · cases hpiece; simp [Piece.while]
  split at hpiece
  · split at hpiece
    · cases hpiece
      simp [stringBody_append ‹_›]
    · cases hpiece
  split at hpiece
  · rename_i harrow
    cases hpiece
    obtain ⟨rfl, hhead⟩ := harrow
    cases rest <;> simp_all
  split at hpiece
  · cases hpiece; rfl
  · cases hpiece

/-- A piece takes up at least one character. -/
theorem Piece.used_ne_nil {c : Char} {rest : List Char} {piece : Piece}
    (hpiece : Piece.first c rest = .ok piece) : piece.used ≠ [] := by
  unfold Piece.first at hpiece
  repeat' split at hpiece
  all_goals cases hpiece <;> simp [Piece.while]

/-- What follows a piece is shorter than the text. -/
theorem Piece.length_rest_lt {c : Char} {rest : List Char} {piece : Piece}
    (hpiece : Piece.first c rest = .ok piece) : piece.rest.length < rest.length + 1 := by
  have hlength := congrArg List.length (Piece.used_append_rest hpiece)
  have hused := List.length_pos_iff.2 (Piece.used_ne_nil hpiece)
  simp only [List.length_append, List.length_cons] at hlength
  omega

/-- A scan error and the place where the piece should have started. -/
structure ScanFault where
  cause : ScanError
  pos : Position
  deriving DecidableEq, Repr

/-- The token for the end of a text. -/
def endAt (pos : Position) : Token := ⟨.endOfInput, "", pos⟩

/-- The tokens of a text that starts at `pos`. -/
def scanFrom (pos : Position) (text : List Char) : Except ScanFault (List Token) :=
  match text with
  | [] => .ok [endAt pos]
  | c :: rest =>
    match _hpiece : Piece.first c rest with
    | .error cause => .error ⟨cause, pos⟩
    | .ok piece =>
      let later := scanFrom (pos.after piece.used) piece.rest
      match piece.kind with
      | none => later
      | some kind => later.map (⟨kind, String.ofList piece.used, pos⟩ :: ·)
termination_by text.length
decreasing_by exact Piece.length_rest_lt _hpiece

/-- The tokens of a text. -/
def scan (text : String) : Except ScanFault (List Token) :=
  scanFrom .start text.toList

end FsmCompiler.Token
