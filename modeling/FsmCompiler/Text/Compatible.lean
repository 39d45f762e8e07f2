/-
# Compatible forms

Two texts that differ only in how characters are encoded or styled have the same
compatible form. To find it, every character is replaced by what it stands for,
marks are brought into a fixed order, and letters are joined with the marks behind
them again. Names that have one compatible form are one name.
-/

import FsmCompiler.Text.Compatible.CombiningClass
import FsmCompiler.Text.Compatible.Composition
import FsmCompiler.Text.Compatible.Decomposition

namespace FsmCompiler.Text

/-! ## Hangul -/

/-- The first Hangul syllable, and the first of the sounds that one begins with, of
the vowels, and of the sounds that one ends in; the last of these stands for "no
sound". -/
def firstSyllable : Nat := 0xAC00

@[inherit_doc firstSyllable]
def firstLeading : Nat := 0x1100

@[inherit_doc firstSyllable]
def firstVowel : Nat := 0x1161

@[inherit_doc firstSyllable]
def noTrailing : Nat := 0x11A7

/-- How many sounds there are of each kind. -/
def leadingCount : Nat := 19

@[inherit_doc leadingCount]
def vowelCount : Nat := 21

@[inherit_doc leadingCount]
def trailingCount : Nat := 28

/-- Whether `code` is one of `count` code points from `first` on. -/
def isWithin (first count code : Nat) : Bool := first ≤ code && code < first + count

/-- Whether `code` is a Hangul syllable. -/
def isSyllable (code : Nat) : Bool :=
  isWithin firstSyllable (leadingCount * vowelCount * trailingCount) code

/-- The sounds of a Hangul syllable. -/
def soundsOf (syllable : Nat) : List Nat :=
  let index := syllable - firstSyllable
  let trailing := index % trailingCount
  let open_ := index / trailingCount
  [firstLeading + open_ / vowelCount, firstVowel + open_ % vowelCount] ++
    if trailing = 0 then [] else [noTrailing + trailing]

/-- The Hangul syllable that two parts make: a first sound and a vowel, or a
syllable without a last sound and such a sound. -/
def syllableOf? (first second : Nat) : Option Nat :=
  if isWithin firstLeading leadingCount first && isWithin firstVowel vowelCount second then
    some (firstSyllable +
      ((first - firstLeading) * vowelCount + (second - firstVowel)) * trailingCount)
  else if isSyllable first && (first - firstSyllable) % trailingCount == 0 &&
      isWithin (noTrailing + 1) (trailingCount - 1) second then
    some (first + (second - noTrailing))
  else none

/-! ## The three steps -/

/-- What a character stands for. In a range of the table with one value, the values
of the characters follow each other. -/
def decomposed (code : Nat) : List Nat :=
  if isSyllable code then soundsOf code
  else match decompositions.find? code with
    | some ⟨first, _, [value]⟩ => [value + (code - first)]
    | some entry => entry.values
    | none => [code]

/-- The class of a mark; zero for all other characters. -/
def combiningClass (code : Nat) : Nat :=
  match combiningClasses.find? code with
  | some ⟨_, _, [value]⟩ => value
  | _ => 0

/-- A character before others whose marks are in order: a mark is moved behind the
marks of lower classes that follow it. -/
def placeMark (code : Nat) : List Nat → List Nat
  | [] => [code]
  | next :: rest =>
    if combiningClass next ≠ 0 ∧ combiningClass next < combiningClass code then
      next :: placeMark code rest
    else code :: next :: rest

/-- Characters with their marks in order; marks of one class stay as they are. -/
def inMarkOrder (codes : List Nat) : List Nat := codes.foldr placeMark []

/-- The composed character of a mark among pairs of marks and such characters. -/
def pairedWith (mark : Nat) : List Nat → Option Nat
  | other :: composed :: rest => if other = mark then some composed else pairedWith mark rest
  | _ => none

/-- The first mark. No character below it joins with one before it. -/
def firstMark : Nat := 0x300

/-- The character that stands for two. -/
def composition? (first second : Nat) : Option Nat :=
  if second < firstMark then none
  else
    (syllableOf? first second).orElse fun _ =>
      (compositions.find? first).bind fun entry => pairedWith second entry.values

/-- Join `base` with what follows, as far as possible. `marks` are the marks behind
it that could not be joined, last first; a mark of the class of the last one, or a
lower one, cannot be joined past it. -/
def joinMarks (base : Nat) (marks : List Nat) : List Nat → List Nat
  | [] => base :: marks.reverse
  | code :: rest =>
    let reaches := match marks with
      | [] => true
      | last :: _ => combiningClass last < combiningClass code
    match if reaches then composition? base code else none with
    | some composed => joinMarks composed marks rest
    | none =>
      if combiningClass code = 0 then base :: marks.reverse ++ joinMarks code [] rest
      else joinMarks base (code :: marks) rest

/-- Characters with all marks joined that can be. -/
def withMarksJoined : List Nat → List Nat
  | [] => []
  | base :: rest => joinMarks base [] rest

/-- The compatible form of a text. -/
def compatible (text : String) : String :=
  if text.toList.all (·.toNat < 128) then text
  else
    let codes := text.toList.flatMap fun c => decomposed c.toNat
    String.ofList ((withMarksJoined (inMarkOrder codes)).map Char.ofNat)

end FsmCompiler.Text
