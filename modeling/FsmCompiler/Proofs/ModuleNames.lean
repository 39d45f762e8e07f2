/-
# Names of modules

The name of a machine's module is the machine's name in lower case. Lowering an
identifier yields no punctuation, and it yields a leading underscore only where there was
one. So the module of a machine with a usable name is never the file that imports the
modules, and its name can be written among others in a row of text.
-/

import FsmCompiler.Machine.Naming
import FsmCompiler.Proofs.Validity
import Mathlib.Data.List.Basic

namespace FsmCompiler

open Validation

/-! ## Lower case -/

namespace Text

/-- The code points that a run of characters is lowered to are characters: either all of
them lie beyond ASCII, or it is the Kelvin sign, whose lower-case form is `k`. -/
def CaseRun.Lowers (run : CaseRun) : Prop :=
  (128 ≤ run.first + run.shift ∧ run.last + run.shift < 0xd800) ∨
    (0xdfff < run.first + run.shift ∧ run.last + run.shift < 0x110000) ∨
    (run.first = run.last ∧ run.first + run.shift = 107)

instance (run : CaseRun) : Decidable run.Lowers := by
  unfold CaseRun.Lowers
  infer_instance

theorem lowers_of_mem_caseRuns : ∀ run ∈ caseRuns, run.Lowers := by
  decide +kernel

/-- A character that is neither a blank nor punctuation: a word character of ASCII, or any
character beyond ASCII. -/
def WordLike (c : Char) : Prop := 128 ≤ c.toNat ∨ c.isAlphanum = true ∨ c = '_'

instance : DecidablePred WordLike := fun c =>
  inferInstanceAs (Decidable (128 ≤ c.toNat ∨ c.isAlphanum = true ∨ c = '_'))

theorem not_wordLike_newline : ¬ WordLike '\n' := by
  decide

theorem toNat_ofNat {code : Nat} (hvalid : code.isValidChar) : (Char.ofNat code).toNat = code := by
  rw [Char.ofNat, dif_pos hvalid]
  rfl

/-- The lower-case form of a character beyond ASCII lies beyond ASCII or is a letter. -/
theorem ofNat_of_lowerCodePoint? {c code : Nat} (hcode : lowerCodePoint? c = some code) :
    128 ≤ (Char.ofNat code).toNat ∨ Char.ofNat code = 'k' := by
  obtain ⟨run, hfind, rfl⟩ := Option.map_eq_some_iff.1 hcode
  have hrange := Array.find?_some hfind
  simp only [Bool.and_eq_true, decide_eq_true_eq] at hrange
  obtain ⟨⟨hfirst, hlast⟩, -⟩ := hrange
  rcases lowers_of_mem_caseRuns run (Array.mem_of_find?_eq_some hfind) with
    hlow | hhigh | hkelvin
  · left
    rw [toNat_ofNat (.inl (by omega))]
    omega
  · left
    rw [toNat_ofNat (.inr ⟨by omega, by omega⟩)]
    omega
  · right
    rw [show ((c : Int) + run.shift).toNat = 107 by omega]

theorem lowerForm_of_ascii {c : Char} (hascii : c.toNat < 128) : lowerForm c = [c.toLower] := by
  simp [lowerForm, hascii]

/-- Characters beyond ASCII are lowered to letters or to characters beyond ASCII. -/
theorem mem_lowerForm_of_not_ascii {c d : Char} (hascii : 128 ≤ c.toNat) (hd : d ∈ lowerForm c) :
    128 ≤ d.toNat ∨ d = 'i' ∨ d = 'k' := by
  rw [lowerForm, if_neg (by omega)] at hd
  split at hd
  · rcases List.mem_pair.1 hd with rfl | rfl
    · exact .inr (.inl rfl)
    · exact .inl (by decide)
  · split at hd
    · rename_i code hcode
      rw [List.mem_singleton.1 hd]
      rcases ofNat_of_lowerCodePoint? hcode with hbeyond | hk
      · exact .inl hbeyond
      · exact .inr (.inr hk)
    · rw [List.mem_singleton.1 hd]
      exact .inl hascii

theorem lowerForm_ne_nil (c : Char) : lowerForm c ≠ [] := by
  unfold lowerForm
  split
  · simp
  · split
    · simp
    · split <;> simp

/-- Lowering an ASCII character makes no punctuation out of a letter or digit, and no
underscore out of another character. -/
theorem toLower_ofNat : ∀ code < 128,
    ((Char.ofNat code).isAlphanum = true → (Char.ofNat code).toLower.isAlphanum = true) ∧
      ((Char.ofNat code).toLower = '_' → Char.ofNat code = '_') := by
  decide +kernel

/-- Lowering leaves word characters word characters. -/
theorem WordLike.of_mem_lowerForm {c d : Char} (hc : WordLike c) (hd : d ∈ lowerForm c) :
    WordLike d := by
  by_cases hascii : c.toNat < 128
  · rw [lowerForm_of_ascii hascii, List.mem_singleton] at hd
    rw [hd]
    rcases hc with hbeyond | halphanum | rfl
    · omega
    · have hlower := (toLower_ofNat c.toNat hascii).1
      rw [Char.ofNat_toNat] at hlower
      exact .inr (.inl (hlower halphanum))
    · exact .inr (.inr rfl)
  · rcases mem_lowerForm_of_not_ascii (by omega) hd with hbeyond | rfl | rfl
    · exact .inl hbeyond
    all_goals exact .inr (.inl (by decide))

/-- Only the underscore has the underscore in its lower-case form. -/
theorem eq_underscore_of_mem_lowerForm {c : Char} (hmem : '_' ∈ lowerForm c) : c = '_' := by
  by_cases hascii : c.toNat < 128
  · rw [lowerForm_of_ascii hascii, List.mem_singleton] at hmem
    have hlower := (toLower_ofNat c.toNat hascii).2
    rw [Char.ofNat_toNat] at hlower
    exact hlower hmem.symm
  · rcases mem_lowerForm_of_not_ascii (by omega) hmem with hbeyond | hletter | hletter
    · exact absurd hbeyond (by decide)
    all_goals exact absurd hletter (by decide)

theorem wordLike_of_isIdentifierContinue {c : Char} (hc : isIdentifierContinue c = true) :
    WordLike c := by
  by_cases hascii : c.toNat < 128
  · simp only [isIdentifierContinue, hascii, if_true, Bool.or_eq_true, beq_iff_eq] at hc
    exact .inr hc
  · exact .inl (by omega)

theorem wordLike_of_isIdentifierStart {c : Char} (hc : isIdentifierStart c = true) :
    WordLike c := by
  by_cases hascii : c.toNat < 128
  · simp only [isIdentifierStart, hascii, if_true, Bool.or_eq_true, beq_iff_eq] at hc
    rcases hc with halpha | hunderscore
    · exact .inr (.inl (by simp [Char.isAlphanum, halpha]))
    · exact .inr (.inr hunderscore)
  · exact .inl (by omega)

/-- Identifiers are made of word characters. -/
theorem wordLike_of_isIdentifier {name : String} {c : Char} (hname : isIdentifier name = true)
    (hc : c ∈ name.toList) : WordLike c := by
  unfold isIdentifier at hname
  cases hchars : name.toList with
  | nil =>
    rw [hchars] at hc
    cases hc
  | cons first rest =>
    rw [hchars] at hc hname
    simp only [isIdentifierText, Bool.and_eq_true, List.all_eq_true] at hname
    rcases List.mem_cons.1 hc with rfl | hc
    · exact wordLike_of_isIdentifierStart hname.1
    · exact wordLike_of_isIdentifierContinue (hname.2 c hc)

end Text

/-! ## Module names -/

namespace Naming

open Text (WordLike isUpper lowerForm)

theorem mem_snakeChars {afterUpper : Bool} {text : List Char} {d : Char}
    (hd : d ∈ snakeChars afterUpper text) : d = '_' ∨ ∃ c ∈ text, d ∈ lowerForm c := by
  induction text generalizing afterUpper with
  | nil => cases hd
  | cons c rest ih =>
    have hlowered : d ∈ lowerForm c ++ snakeChars (isUpper c) rest →
        d = '_' ∨ ∃ other ∈ c :: rest, d ∈ lowerForm other := by
      intro hd
      rcases List.mem_append.1 hd with hd | hd
      · exact .inr ⟨c, List.mem_cons_self, hd⟩
      · refine (ih hd).imp_right ?_
        rintro ⟨other, hother, hd⟩
        exact ⟨other, List.mem_cons_of_mem _ hother, hd⟩
    rw [snakeChars] at hd
    split at hd
    · rcases List.mem_cons.1 hd with rfl | hd
      · exact .inl rfl
      · exact hlowered hd
    · exact hlowered hd

/-- The first character starts no new word. -/
theorem snakeChars_true_cons (c : Char) (rest : List Char) :
    snakeChars true (c :: rest) = lowerForm c ++ snakeChars (isUpper c) rest := by
  simp [snakeChars]

/-- Names of machines that differ only in case can share a module. -/
example : moduleName "HTTPLock" = moduleName "HTTPlock" := by decide +kernel

/-- The characters of a module's name. -/
theorem toList_moduleName (name : String) :
    (moduleName name).toList = snakeChars true name.toList ∨
      (moduleName name).toList = snakeChars true name.toList ++ ['_'] := by
  by_cases hreserved : isReserved (snakeCase name) = true
  · right
    rw [moduleName, if_pos hreserved, String.toList_append, snakeCase, String.toList_ofList]
    rfl
  · left
    rw [moduleName, if_neg hreserved, snakeCase, String.toList_ofList]

/-- The module of a machine with a usable name has word characters in its name only. -/
theorem wordLike_of_mem_moduleName {name : String} {c : Char} (hname : Bindable name)
    (hc : c ∈ (moduleName name).toList) : WordLike c := by
  have hunderscore : WordLike '_' := .inr (.inr rfl)
  have hsnake : ∀ d ∈ snakeChars true name.toList, WordLike d := by
    intro d hd
    rcases mem_snakeChars hd with rfl | ⟨other, hother, hd⟩
    · exact hunderscore
    · exact (Text.wordLike_of_isIdentifier hname.identifier hother).of_mem_lowerForm hd
  rcases toList_moduleName name with hchars | hchars
  · rw [hchars] at hc
    exact hsnake c hc
  · rw [hchars] at hc
    rcases List.mem_append.1 hc with hc | hc
    · exact hsnake c hc
    · rw [List.mem_singleton.1 hc]
      exact hunderscore

/-- A usable name has no leading underscore, and neither has the name of its module. -/
theorem head_moduleName_ne_underscore {name : String} (hname : Bindable name) :
    (moduleName name).toList.head? ≠ some '_' := by
  cases hchars : name.toList with
  | nil => exact absurd (String.toList_eq_nil_iff.1 hchars) hname.ne_empty
  | cons first rest =>
    have hfirst : first ≠ '_' := by
      rintro rfl
      have hexported := hname.exported
      rw [Bool.eq_false_iff, ne_eq, String.startsWith_string_iff, hchars] at hexported
      exact hexported ⟨rest, rfl⟩
    obtain ⟨lowered, more, hlowered⟩ := List.exists_cons_of_ne_nil (Text.lowerForm_ne_nil first)
    have hhead : (moduleName name).toList.head? = some lowered := by
      rcases toList_moduleName name with hmodule | hmodule
      all_goals rw [hmodule, hchars, snakeChars_true_cons, hlowered]; rfl
    rw [hhead]
    rintro ⟨⟩
    exact hfirst (Text.eq_underscore_of_mem_lowerForm (by simp [hlowered]))

end Naming

end FsmCompiler
