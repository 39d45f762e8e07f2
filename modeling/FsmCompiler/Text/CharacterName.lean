/-
# Characters by name

A character is found by its Unicode name, a corrected name, or a usual name or
abbreviation of a control character. Letters of either case will do, except where
a name is made by rule: that of a Hangul syllable from its sounds, that of an
ideograph from its code point.
-/

import FsmCompiler.Text.CharacterName.Alias
import FsmCompiler.Text.CharacterName.Table
import FsmCompiler.Text.CharacterName.From0000
import FsmCompiler.Text.CharacterName.From1000
import FsmCompiler.Text.CharacterName.From2000
import FsmCompiler.Text.CharacterName.From3000
import FsmCompiler.Text.CharacterName.From10000
import FsmCompiler.Text.CharacterName.From12000
import FsmCompiler.Text.CharacterName.From18B00
import FsmCompiler.Text.CharacterName.From1D000
import FsmCompiler.Text.CharacterName.From1F000
import FsmCompiler.Text.RangeTable

namespace FsmCompiler.Text.CharacterName

/-! ## Names made by rule -/

/-- The beginning of the names of Hangul syllables. -/
def syllableStart : List Char := "HANGUL SYLLABLE ".toList

/-- The sounds that a Hangul syllable begins with. -/
def leadingSounds : List String :=
  ["G", "GG", "N", "D", "DD", "R", "M", "B", "BB", "S", "SS", "", "J", "JJ", "C", "K", "T", "P",
    "H"]

/-- The vowels of Hangul syllables. -/
def vowels : List String :=
  ["A", "AE", "YA", "YAE", "EO", "E", "YEO", "YE", "O", "WA", "WAE", "OE", "YO", "U", "WEO",
    "WE", "WI", "YU", "EU", "YI", "I"]

/-- The sounds that a Hangul syllable ends in. -/
def trailingSounds : List String :=
  ["", "G", "GG", "GS", "N", "NJ", "NH", "D", "L", "LG", "LM", "LB", "LS", "LT", "LP", "LH", "M",
    "B", "BS", "S", "SS", "NG", "J", "C", "K", "T", "P", "H"]

/-- The position of the longest of some sounds at the head of a text, and what
follows it. -/
def cutSound (sounds : List String) (text : List Char) : Option (Nat × List Char) :=
  let matching := sounds.zipIdx.filter fun (sound, _) => sound.toList.isPrefixOf text
  let longest := matching.foldl (fun (best : Option (String × Nat)) next =>
    if best.any (next.1.length ≤ ·.1.length) then best else some next) none
  longest.map fun (sound, index) => (index, text.drop sound.length)

/-- The code point of the Hangul syllable with these sounds. -/
def findSyllable? (sounds : List Char) : Option Nat := do
  let (first, rest) ← cutSound leadingSounds sounds
  let (vowel, rest) ← cutSound vowels rest
  let (last, rest) ← cutSound trailingSounds rest
  guard rest.isEmpty
  return 0xAC00 + (first * vowels.length + vowel) * trailingSounds.length + last

/-- The beginning of the names of unified ideographs. -/
def ideographStart : List Char := "CJK UNIFIED IDEOGRAPH-".toList

/-- The unified ideographs. -/
def ideographTable : RangeTable := ⟨#[
  0x3400, 0x4DC0, 0x4E00, 0xA000, 0x20000, 0x2A6E0, 0x2A700, 0x2B739, 0x2B740, 0x2B81E, 0x2B820,
  0x2CEA2, 0x2CEB0, 0x2EBE1, 0x30000, 0x3134B]⟩

/-- The code point of the ideograph with these digits, of which there are four or
five. -/
def findIdeograph? (digits : List Char) : Option Nat := do
  guard (digits.length = 4 ∨ digits.length = 5)
  guard (digits.all fun c => c.isDigit || ('A' ≤ c && c ≤ 'F'))
  let code := numberIn 16 digits
  guard (ideographTable.contains code)
  return code

/-! ## All names -/

/-- The tables of names. -/
def tables : List String :=
  [namesFrom0000, namesFrom1000, namesFrom2000, namesFrom3000, namesFrom10000, namesFrom12000,
    namesFrom18B00, namesFrom1D000, namesFrom1F000]

/-- The code point of the character called `name`. -/
def find? (name : List Char) : Option Nat :=
  if syllableStart.isPrefixOf name then findSyllable? (name.drop syllableStart.length)
  else if ideographStart.isPrefixOf name then findIdeograph? (name.drop ideographStart.length)
  else
    let wanted := name.map Char.toUpper
    (tables.findSome? (findIn wanted)).orElse fun _ => findAlias? wanted

end FsmCompiler.Text.CharacterName
