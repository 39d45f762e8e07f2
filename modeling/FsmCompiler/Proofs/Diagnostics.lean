/-
# Diagnostics keep place and message

A finding is written as a file name, a line, a column and a message, and an editor gets it taken
apart again at the first line and column behind a file name. That is where it was put together,
unless the file name holds a line and a column itself: no such mark can begin in the file name and
end behind it. What holds no mark behind its first character is passed on as it is.
-/

import FsmCompiler.Command.Diagnostic
import FsmCompiler.Validation.Finding
import Mathlib.Data.List.TakeWhile

namespace FsmCompiler.Diagnostic

open Text (isDecimal)

variable {text file digits first second front rest : List Char} {located other : Located}
  {c : Char} {root : Path} {severity : Severity}

/-! ## Lines and columns in a text -/

/-- The digits of a number. -/
structure Digits (digits : List Char) : Prop where
  ne_nil : digits ≠ []
  decimal : ∀ c ∈ digits, isDecimal c = true

/-- The line and the column are numbers. -/
structure Located.Numbered (located : Located) : Prop where
  line : Digits located.line
  column : Digits located.column

/-- Line, column and message behind a file name. -/
def Located.chars (located : Located) : List Char :=
  ':' :: located.line ++ ':' :: located.column ++ ':' :: ' ' :: located.message

/-- A colon, digits, a colon, digits, a colon and a blank stand somewhere in the text. -/
def HasPlace (text : List Char) : Prop :=
  ∃ front located, Located.Numbered located ∧ text = front ++ located.chars

theorem not_isDecimal_colon : isDecimal ':' = false := by decide

theorem not_isDecimal_blank : isDecimal ' ' = false := by decide

theorem Digits.colon_not_mem (hdigits : Digits digits) : ':' ∉ digits := fun hcolon => by
  have hdecimal := hdigits.decimal ':' hcolon
  rw [not_isDecimal_colon] at hdecimal
  cases hdecimal

/-- What begins with digits does not begin with a blank. -/
theorem Digits.append_ne_blank (hdigits : Digits digits) : digits ++ rest ≠ ' ' :: front := by
  intro heq
  cases digits with
  | nil => exact hdigits.ne_nil rfl
  | cons d digits =>
    have hdecimal := hdigits.decimal d (by simp)
    rw [List.head_eq_of_cons_eq heq, not_isDecimal_blank] at hdecimal
    cases hdecimal

theorem numberBetweenColons_eq_some_iff :
    numberBetweenColons text = some (digits, rest) ↔
      Digits digits ∧ text = ':' :: digits ++ ':' :: rest := by
  constructor
  · intro hnumber
    unfold numberBetweenColons at hnumber
    split at hnumber
    · rename_i behind
      split at hnumber
      · rename_i after hafter
        dsimp only at hnumber
        split at hnumber
        · cases hnumber
        · rename_i hsome
          cases hnumber
          refine ⟨⟨by simpa using hsome, fun c hc => List.mem_takeWhile_imp hc⟩, ?_⟩
          rw [← hafter, List.cons_append, List.takeWhile_append_dropWhile]
      · cases hnumber
    · cases hnumber
  · rintro ⟨hdigits, rfl⟩
    have hspan : (digits ++ ':' :: rest).takeWhile isDecimal = digits ∧
        (digits ++ ':' :: rest).dropWhile isDecimal = ':' :: rest := by
      rw [List.takeWhile_append_of_pos hdigits.decimal,
        List.dropWhile_append_of_pos hdigits.decimal,
        List.takeWhile_cons_of_neg (by simp [not_isDecimal_colon]),
        List.dropWhile_cons_of_neg (by simp [not_isDecimal_colon])]
      simp
    simp [numberBetweenColons, hspan, hdigits.ne_nil]

theorem ofChars?_eq_some_iff :
    Located.ofChars? text = some located ↔ located.Numbered ∧ text = located.chars := by
  obtain ⟨line, column, message⟩ := located
  constructor
  · intro hlocated
    obtain ⟨⟨first, behind⟩, hfirst, hrest⟩ := Option.bind_eq_some_iff.1 hlocated
    obtain ⟨⟨second, after⟩, hsecond, hmessage⟩ := Option.bind_eq_some_iff.1 hrest
    obtain ⟨hline, rfl⟩ := numberBetweenColons_eq_some_iff.1 hfirst
    obtain ⟨hcolumn, hbehind⟩ := numberBetweenColons_eq_some_iff.1 hsecond
    dsimp only at hmessage
    split at hmessage
    · cases hmessage
      refine ⟨⟨hline, hcolumn⟩, ?_⟩
      simpa [Located.chars] using hbehind
    · cases hmessage
  · rintro ⟨⟨hline, hcolumn⟩, rfl⟩
    have hfirst : numberBetweenColons (Located.chars ⟨line, column, message⟩) =
        some (line, column ++ ':' :: ' ' :: message) :=
      numberBetweenColons_eq_some_iff.2 ⟨hline, by simp [Located.chars]⟩
    have hsecond : numberBetweenColons (':' :: (column ++ ':' :: ' ' :: message)) =
        some (column, ' ' :: message) := numberBetweenColons_eq_some_iff.2 ⟨hcolumn, rfl⟩
    simp [Located.ofChars?, hfirst, hsecond]

/-! ## Where a finding is taken apart -/

/-- Of two ways to part a text at a colon, where one is at the first, the other is the same or at a
later one. -/
theorem eq_or_of_colon (hfirst : ':' ∉ first)
    (heq : front ++ ':' :: rest = first ++ ':' :: second) :
    (front = first ∧ rest = second) ∨
      ∃ later, front = first ++ ':' :: later ∧ second = later ++ ':' :: rest := by
  rcases List.append_eq_append_iff.1 heq with ⟨between, rfl, hbehind⟩ | ⟨between, rfl, hbehind⟩
  · cases between with
    | nil => exact .inl ⟨by simp, List.tail_eq_of_cons_eq hbehind⟩
    | cons c between =>
      obtain rfl := List.head_eq_of_cons_eq hbehind
      simp at hfirst
  · cases between with
    | nil => exact .inl ⟨by simp, (List.tail_eq_of_cons_eq hbehind).symm⟩
    | cons c between =>
      obtain ⟨rfl, rfl⟩ := List.cons.inj hbehind
      exact .inr ⟨between, rfl, rfl⟩

/-- A mark that begins in front of another one ends there as well. -/
theorem hasPlace_of_chars (hlocated : located.Numbered) (hother : other.Numbered)
    (hsome : file ≠ []) (heq : file ++ located.chars = other.chars) : HasPlace file := by
  obtain ⟨line, column, message⟩ := located
  obtain ⟨line', column', message'⟩ := other
  obtain ⟨hline, hcolumn⟩ := hlocated
  obtain ⟨hline', hcolumn'⟩ := hother
  obtain ⟨c, file, rfl⟩ := List.exists_cons_of_ne_nil hsome
  have hchars : c = ':' ∧ file ++ ':' :: (line ++ ':' :: (column ++ ':' :: ' ' :: message)) =
      line' ++ ':' :: (column' ++ ':' :: ' ' :: message') := by
    simpa [Located.chars] using heq
  obtain ⟨rfl, hchars⟩ := hchars
  -- The first number of the mark ends in the file name, or where the file name does.
  rcases eq_or_of_colon hline'.colon_not_mem hchars with ⟨rfl, hbehind⟩ | ⟨behind, rfl, hbehind⟩
  · rcases eq_or_of_colon hcolumn'.colon_not_mem hbehind with ⟨rfl, hend⟩ | ⟨later, hend, -⟩
    · exact absurd hend hcolumn.append_ne_blank
    · exact absurd (hend ▸ by simp : ':' ∈ line) hline.colon_not_mem
  · rcases eq_or_of_colon hcolumn'.colon_not_mem hbehind.symm with ⟨rfl, hend⟩ | ⟨later, rfl, hend⟩
    · exact absurd hend hline.append_ne_blank
    · cases later with
      | nil => cases hend
      | cons d later =>
        obtain rfl := (List.head_eq_of_cons_eq hend).symm
        exact ⟨[], ⟨line', column', later⟩, ⟨hline', hcolumn'⟩, by simp [Located.chars]⟩

theorem HasPlace.cons (hplace : HasPlace text) : HasPlace (c :: text) := by
  obtain ⟨front, located, hlocated, rfl⟩ := hplace
  exact ⟨c :: front, located, hlocated, rfl⟩

/-- A finding is taken apart where the place was put behind a file name that has none. -/
theorem splitLocated_append (hlocated : located.Numbered) (hsome : file ≠ [])
    (hplain : ¬ HasPlace file) : splitLocated (file ++ located.chars) = some (file, located) := by
  induction file with
  | nil => exact absurd rfl hsome
  | cons c file ih =>
    rw [List.cons_append, splitLocated]
    by_cases hend : file = []
    · subst hend
      rw [List.nil_append, ofChars?_eq_some_iff.2 ⟨hlocated, rfl⟩]
    · have hplain' : ¬ HasPlace file := fun hplace => hplain hplace.cons
      have hnone : Located.ofChars? (file ++ located.chars) = none := by
        rw [Option.eq_none_iff_forall_ne_some]
        intro other hother
        obtain ⟨hnumbered, hchars⟩ := ofChars?_eq_some_iff.1 hother
        exact hplain' (hasPlace_of_chars hlocated hnumbered hend hchars)
      rw [hnone, ih hend hplain', Option.map_some]

/-- A text is taken apart exactly if there is a place behind its first character. -/
theorem splitLocated_eq_none_iff : splitLocated text = none ↔ ¬ HasPlace text.tail := by
  induction text with
  | nil => simp [splitLocated, HasPlace, Located.chars]
  | cons c text ih =>
    rw [splitLocated, List.tail_cons]
    cases hlocated : Located.ofChars? text with
    | some located =>
      obtain ⟨hnumbered, rfl⟩ := ofChars?_eq_some_iff.1 hlocated
      simpa using ⟨[], located, hnumbered, rfl⟩
    | none =>
      rw [Option.map_eq_none_iff, ih, not_iff_not]
      constructor
      · intro hplace
        cases text with
        | nil => exact hplace
        | cons d text => exact hplace.cons
      · rintro ⟨front, located, hnumbered, rfl⟩
        cases front with
        | nil =>
          rw [List.nil_append, ofChars?_eq_some_iff.2 ⟨hnumbered, rfl⟩] at hlocated
          cases hlocated
        | cons d front => exact ⟨front, located, hnumbered, rfl⟩

instance : DecidablePred HasPlace := fun text =>
  decidable_of_iff (splitLocated (' ' :: text) ≠ none)
    (by rw [Ne, splitLocated_eq_none_iff, List.tail_cons, not_not])

/-! ## What an editor gets -/

theorem isDecimal_of_isDigit (hdigit : c.isDigit = true) : isDecimal c = true := by
  rw [Char.isDigit, Bool.and_eq_true, decide_eq_true_eq, decide_eq_true_eq] at hdigit
  obtain ⟨hlow, hhigh⟩ := hdigit
  have hcode : 48 ≤ c.toNat ∧ c.toNat < 48 + 10 :=
    ⟨UInt32.le_iff_toNat_le.1 hlow, Nat.lt_succ_of_le (UInt32.le_iff_toNat_le.1 hhigh)⟩
  simp [isDecimal, Text.decimalZeros, hcode]

/-- A positive number is written with digits. -/
theorem digits_toString {number : Int} (hpositive : 0 < number) :
    Digits (toString number).toList := by
  obtain ⟨n, rfl⟩ := Int.eq_ofNat_of_zero_le (Int.le_of_lt hpositive)
  have htext : (toString (n : Int)).toList = Nat.toDigits 10 n := by
    change (toString n).toList = Nat.toDigits 10 n
    rw [Nat.toString_eq_ofList_toDigits, String.toList_ofList]
  rw [htext]
  exact ⟨Nat.toDigits_ne_nil, fun c hc =>
    isDecimal_of_isDigit (Nat.isDigit_of_mem_toDigits (by omega) (by omega) hc)⟩

/-- A file as it is seen from a project: by its path from there if it lies inside, and otherwise by
its name as it is. -/
structure SeenFrom (root : Path) (file shown : String) : Prop where
  inside : ∀ names, Path.ofString file = ⟨root.root, root.names ++ names⟩ →
    shown = (Path.mk "" names).text
  outside : (∀ names, Path.ofString file ≠ ⟨root.root, root.names ++ names⟩) → shown = file

theorem seenFrom_relativeTo {file : String} (hnormal : Path.normalize file = file) :
    SeenFrom root file (Path.relativeTo root (Path.ofString file)).text := by
  constructor
  · intro names hinside
    have hbelow : Path.relativeTo? root (Path.ofString file) = some ⟨"", names⟩ := by
      simp [Path.relativeTo?, hinside]
    rw [Path.relativeTo, hbelow, Option.getD_some]
  · intro houtside
    have hnone : Path.relativeTo? root (Path.ofString file) = none := by
      rw [Path.relativeTo?, if_neg]
      rintro ⟨hroot, names, hnames⟩
      refine houtside names ?_
      rw [hroot, hnames]
    rw [Path.relativeTo, hnone, Option.getD_none]
    exact hnormal

theorem toList_ne_nil_of_normalize {file : String} (hnormal : Path.normalize file = file) :
    file.toList ≠ [] := by
  intro hempty
  obtain rfl : file = "" := String.toList_inj.1 hempty
  revert hnormal
  decide

theorem toList_placed (file message : String) (row column : Int) :
    (placed (some ⟨file, row, column⟩) message).toList = file.toList ++
      Located.chars ⟨(toString row).toList, (toString column).toList, message.toList⟩ := by
  simp [placed, Source.Location.text, Located.chars, toString]

/-- A finding about a normal file name that holds no place of its own is shown at its place in that
file, and a text with no place behind its first character at the top of the manifest, both with
their whole message. -/
theorem line_keeps_place (root : Path) (severity : Severity) :
    (∀ (file : String) (row column : Int) (message : String),
      Path.normalize file = file → ¬ HasPlace file.toList → 0 < row → 0 < column →
        ∃ shown, SeenFrom root file shown ∧
          line root severity (placed (some ⟨file, row, column⟩) message) =
            s!"{shown}:{row}:{column}: {severity.word}: {message}") ∧
      ∀ text : String, ¬ HasPlace text.toList.tail →
        line root severity text =
          s!"{Project.Manifest.fileName}:1:1: {severity.word}: {text}" := by
  constructor
  · intro file row column message hnormal hplain hrow hcolumn
    refine ⟨_, seenFrom_relativeTo hnormal, ?_⟩
    have hnumbered : Located.Numbered
        ⟨(toString row).toList, (toString column).toList, message.toList⟩ :=
      ⟨digits_toString hrow, digits_toString hcolumn⟩
    rw [line, toList_placed,
      splitLocated_append hnumbered (toList_ne_nil_of_normalize hnormal) hplain]
    simp [toString, String.append_assoc]
  · intro text hplain
    rw [line, splitLocated_eq_none_iff.2 hplain]

/-- Numbers at the end of a file name and places in a message stay where they are. -/
theorem line_of_numbered_files :
    line ⟨"/", ["p"]⟩ .error (placed (some ⟨"/p/a:12:34", 5, 6⟩) "in b.sm:1:2: c\n:3:4: d") =
        "a:12:34:5:6: error: in b.sm:1:2: c\n:3:4: d" ∧
      line ⟨"/", ["p"]⟩ .warning (placed (some ⟨"/q/a:12", 5, 6⟩) "c") =
        "/q/a:12:5:6: warning: c" ∧
      line ⟨"/", ["p"]⟩ .warning ":1:2: c" = "smc.toml:1:1: warning: :1:2: c" := by
  obtain ⟨inner, hinner, hline⟩ := (line_keeps_place ⟨"/", ["p"]⟩ .error).1 "/p/a:12:34" 5 6
    "in b.sm:1:2: c\n:3:4: d" (by decide) (by decide) (by decide) (by decide)
  obtain ⟨outer, houter, hline'⟩ := (line_keeps_place ⟨"/", ["p"]⟩ .warning).1 "/q/a:12" 5 6 "c"
    (by decide) (by decide) (by decide) (by decide)
  obtain rfl : inner = "a:12:34" := hinner.inside ["a:12:34"] (by decide)
  have houtside : ∀ names, Path.ofString "/q/a:12" ≠ ⟨"/", ["p"] ++ names⟩ := by
    intro names heq
    have hnames : ["q", "a:12"] = "p" :: names := congrArg Path.names heq
    exact absurd (List.head_eq_of_cons_eq hnames) (by decide)
  obtain rfl : outer = "/q/a:12" := houter.outside houtside
  exact ⟨hline, hline', (line_keeps_place ⟨"/", ["p"]⟩ .warning).2 ":1:2: c" (by decide)⟩

end FsmCompiler.Diagnostic
