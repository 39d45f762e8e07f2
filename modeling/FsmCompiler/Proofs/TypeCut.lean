/-
# Cutting declared types

Where a declared type is cut with more text behind it, as in the parameters of the dispatch
function, its lexemes are those of the type alone: numbers, names and operators end before a
comma or a closing bracket, and a quoted text ends at its quote.
-/

import FsmCompiler.Proofs.TypeShape
import Mathlib.Data.List.DropRight
import Mathlib.Data.List.Find
import Mathlib.Data.Option.Basic

namespace FsmCompiler.Target

/-- What may follow a type: nothing, a comma or the closing bracket of the parameters. -/
def Stops (behind : List Char) : Prop := ∀ c ∈ behind.head?, c = ',' ∨ c = ')'

variable {text rest behind : List Char}

theorem Stops.cases (hbehind : Stops behind) :
    behind = [] ∨ ∃ c later, behind = c :: later ∧ (c = ',' ∨ c = ')') := by
  cases behind with
  | nil => exact .inl rfl
  | cons c later => exact .inr ⟨c, later, rfl, hbehind c rfl⟩

theorem Stops.head?_any {p : Char → Bool} (hbehind : Stops behind) (hcomma : p ',' = false)
    (hparen : p ')' = false) : (text ++ behind).head?.any p = text.head?.any p := by
  cases text with
  | nil =>
    rcases hbehind.cases with rfl | ⟨c, later, rfl, rfl | rfl⟩
    · rfl
    · exact hcomma
    · exact hparen
  | cons c text => rfl

theorem Stops.dropWhile {p : Char → Bool} (hbehind : Stops behind) (hcomma : p ',' = false)
    (hparen : p ')' = false) : (text ++ behind).dropWhile p = text.dropWhile p ++ behind := by
  rw [List.dropWhile_append]
  split
  · rename_i hempty
    rw [List.isEmpty_iff.1 hempty, List.nil_append]
    rcases hbehind.cases with rfl | ⟨c, later, rfl, rfl | rfl⟩
    · rfl
    · rw [List.dropWhile_cons_of_neg (by simp [hcomma])]
    · rw [List.dropWhile_cons_of_neg (by simp [hparen])]
  · rfl

theorem Stops.takeWhile {p : Char → Bool} (hbehind : Stops behind) (hcomma : p ',' = false)
    (hparen : p ')' = false) : (text ++ behind).takeWhile p = text.takeWhile p := by
  have hsplit : (text ++ behind).takeWhile p ++ (text ++ behind).dropWhile p =
      text.takeWhile p ++ (text ++ behind).dropWhile p := by
    rw [List.takeWhile_append_dropWhile, hbehind.dropWhile hcomma hparen, ← List.append_assoc,
      List.takeWhile_append_dropWhile]
  exact List.append_cancel_right hsplit

/-! ## Numbers -/

/-- Characters that a number may hold. -/
def NumberChar (c : Char) : Prop := mayContinueName c = true ∨ c ∈ ['.', '+', '-']

theorem not_numberChar_comma : ¬ NumberChar ',' := by
  simp [NumberChar, mayContinueName, mayBeginName]

theorem not_numberChar_paren : ¬ NumberChar ')' := by
  simp [NumberChar, mayContinueName, mayBeginName]

/-- A function that skips characters of a number at the head of a text, whatever is behind
the text. -/
def Skips (f : List Char → Option (List Char)) : Prop :=
  ∀ ⦃text rest⦄, f text = some rest → ∃ used, text = used ++ rest ∧
    (∀ c ∈ used, NumberChar c) ∧ ∀ behind, Stops behind → f (text ++ behind) = some (rest ++ behind)

theorem Skips.bind {f g : List Char → Option (List Char)} (hf : Skips f) (hg : Skips g) :
    Skips fun text => (f text).bind g := by
  intro text rest hskip
  obtain ⟨middle, hfirst, hsecond⟩ := Option.bind_eq_some_iff.1 hskip
  obtain ⟨used, rfl, hused, hlocal⟩ := hf hfirst
  obtain ⟨later, rfl, hlater, hlocal'⟩ := hg hsecond
  refine ⟨used ++ later, (List.append_assoc _ _ _).symm, fun c hc => ?_, fun behind hbehind => ?_⟩
  · exact (List.mem_append.1 hc).elim (hused c) (hlater c)
  · simp only [hlocal behind hbehind, Option.bind_some, hlocal' behind hbehind]

theorem stops_nil : Stops [] := by simp [Stops]

/-- Skipping goes on behind the first characters of a text. -/
theorem Skips.continues {f g : List Char → Option (List Char)} (hg : Skips g) (first : List Char)
    (hfirst : ∀ c ∈ first, NumberChar c)
    (hsame : ∀ behind, Stops behind → f (first ++ text ++ behind) = g (text ++ behind))
    (hskip : f (first ++ text) = some rest) :
    ∃ used, first ++ text = used ++ rest ∧ (∀ c ∈ used, NumberChar c) ∧
      ∀ behind, Stops behind → f (first ++ text ++ behind) = some (rest ++ behind) := by
  have hhere := hsame [] stops_nil
  rw [List.append_nil, List.append_nil] at hhere
  obtain ⟨used, rfl, hused, hlocal⟩ := hg (hhere.symm.trans hskip)
  refine ⟨first ++ used, (List.append_assoc _ _ _).symm, fun c hc => ?_, fun behind hbehind =>
    (hsame behind hbehind).trans (hlocal behind hbehind)⟩
  exact (List.mem_append.1 hc).elim (hfirst c) (hused c)

theorem skipDigits_cons {isDigit : Char → Bool} {c : Char} (hc : c ≠ '_') :
    skipDigits isDigit (c :: text) =
      if isDigit c then skipDigits isDigit text else some (c :: text) := by
  rw [skipDigits] <;> simp [hc]

theorem skips_digits {isDigit : Char → Bool} (hdigit : ∀ c, isDigit c = true → NumberChar c) :
    Skips (skipDigits isDigit) := by
  intro text rest hskip
  fun_induction skipDigits isDigit text generalizing rest with
  | case1 c text hc ih =>
    obtain ⟨used, rfl, hused, hlocal⟩ := ih hskip
    refine ⟨'_' :: c :: used, rfl, ?_, fun behind hbehind => ?_⟩
    · simp only [List.mem_cons, forall_eq_or_imp]
      exact ⟨.inl (by decide), hdigit c hc, hused⟩
    · rw [List.cons_append, List.cons_append, skipDigits, if_pos hc, hlocal behind hbehind]
  | case2 => cases hskip
  | case3 => cases hskip
  | case4 c text hword hend hc ih =>
    have hc' : c ≠ '_' := fun h => by
      cases text with
      | nil => exact hend h rfl
      | cons d text => exact hword d text h rfl
    obtain ⟨used, rfl, hused, hlocal⟩ := ih hskip
    refine ⟨c :: used, rfl, ?_, fun behind hbehind => ?_⟩
    · simp only [List.mem_cons, forall_eq_or_imp]
      exact ⟨hdigit c hc, hused⟩
    · rw [List.cons_append, skipDigits_cons hc', if_pos hc, hlocal behind hbehind]
  | case5 c text hword hend hc =>
    have hc' : c ≠ '_' := fun h => by
      cases text with
      | nil => exact hend h rfl
      | cons d text => exact hword d text h rfl
    cases hskip
    refine ⟨[], rfl, by simp, fun behind hbehind => ?_⟩
    rw [List.cons_append, skipDigits_cons hc', if_neg hc]
  | case6 =>
    cases hskip
    refine ⟨[], rfl, by simp, fun behind hbehind => ?_⟩
    rcases hbehind.cases with rfl | ⟨c, later, rfl, rfl | rfl⟩
    · rfl
    · rw [List.nil_append, skipDigits_cons (by decide),
        if_neg fun hc => not_numberChar_comma (hdigit _ hc)]
    · rw [List.nil_append, skipDigits_cons (by decide),
        if_neg fun hc => not_numberChar_paren (hdigit _ hc)]

theorem numberChar_of_isDigit (c : Char) (hc : c.isDigit = true) : NumberChar c :=
  .inl (by simp [mayContinueName, hc])

theorem numberMayEnd_cons {c : Char} (hc : c ≠ 'i') :
    numberMayEnd (c :: text) =
      match wordsAfterNumber.lookup c with
      | some word => word.isPrefixOf text && !(text.drop word.length).head?.any mayContinueName
      | none => !mayContinueName c := by
  cases hlookup : wordsAfterNumber.lookup c <;> simp only [numberMayEnd, hlookup, hc, false_implies,
    implies_true]

/-- Where a number may end, it may end with more behind. -/
theorem numberMayEnd_append (hbehind : Stops behind) (hend : numberMayEnd text = true) :
    numberMayEnd (text ++ behind) = true := by
  cases text with
  | nil => rcases hbehind.cases with rfl | ⟨c, later, rfl, rfl | rfl⟩ <;> rfl
  | cons c text =>
    by_cases hc : c = 'i'
    · subst hc
      cases text with
      | nil => exact absurd hend (by decide)
      | cons d text => exact hend
    · rw [numberMayEnd_cons hc] at hend
      rw [List.cons_append, numberMayEnd_cons hc]
      cases hword : wordsAfterNumber.lookup c with
      | none => rwa [hword] at hend
      | some word =>
        rw [hword] at hend
        simp only [Bool.and_eq_true, List.isPrefixOf_iff_prefix] at hend ⊢
        obtain ⟨⟨later, rfl⟩, hfree⟩ := hend
        rw [List.drop_left] at hfree
        rw [List.append_assoc, List.drop_left]
        refine ⟨List.prefix_append _ _, ?_⟩
        rwa [hbehind.head?_any (by decide) (by decide)]

theorem skips_endNumber : Skips endNumber := by
  intro text rest hskip
  unfold endNumber at hskip
  split at hskip
  · rename_i hend
    cases hskip
    refine ⟨[], rfl, by simp, fun behind hbehind => ?_⟩
    exact if_pos (numberMayEnd_append hbehind hend)
  · cases hskip

/-- What skips nothing where nothing is skips nothing before a comma or a bracket. -/
theorem skips_nil {f : List Char → Option (List Char)} (hnil : f [] = some [])
    (hcomma : ∀ later, f (',' :: later) = some (',' :: later))
    (hparen : ∀ later, f (')' :: later) = some (')' :: later)) (hskip : f [] = some rest) :
    ∃ used, [] = used ++ rest ∧ (∀ c ∈ used, NumberChar c) ∧
      ∀ behind, Stops behind → f ([] ++ behind) = some (rest ++ behind) := by
  cases hnil.symm.trans hskip
  refine ⟨[], rfl, by simp, fun behind hbehind => ?_⟩
  rcases hbehind.cases with rfl | ⟨c, later, rfl, rfl | rfl⟩
  · exact hnil
  · exact hcomma later
  · exact hparen later

theorem skipUnit_cons {c : Char} (hsmall : c ≠ 'j') (hlarge : c ≠ 'J') :
    skipUnit (c :: text) = endNumber (c :: text) := by
  rw [skipUnit] <;> simp [hsmall, hlarge]

theorem skips_unit : Skips skipUnit := by
  intro text rest hskip
  cases text with
  | nil => exact skips_nil rfl (fun _ => rfl) (fun _ => rfl) hskip
  | cons c text =>
    by_cases hunit : c = 'j' ∨ c = 'J'
    · refine skips_endNumber.continues [c] ?_ (fun _ _ => ?_) hskip
      · rcases hunit with rfl | rfl <;> simp [NumberChar, mayContinueName, mayBeginName]
      · rcases hunit with rfl | rfl <;> rfl
    · obtain ⟨hsmall, hlarge⟩ := not_or.1 hunit
      exact skips_endNumber.continues [] (by simp) (fun _ _ => skipUnit_cons hsmall hlarge) hskip

theorem skips_exponent : Skips skipExponent := by
  have hdigits := (skips_digits numberChar_of_isDigit).bind skips_unit
  intro text rest hskip
  cases text with
  | nil => exact skips_nil rfl (fun _ => rfl) (fun _ => rfl) hskip
  | cons e text =>
    by_cases he : e = 'e' ∨ e = 'E'
    · have hchar : NumberChar e := by
        rcases he with rfl | rfl <;> simp [NumberChar, mayContinueName, mayBeginName]
      cases text with
      | nil => rcases he with rfl | rfl <;> cases hskip
      | cons c text =>
        by_cases hsign : c = '+' ∨ c = '-'
        · have hany : text.head?.any Char.isDigit = true := by
            simp only [skipExponent, he, hsign, if_true] at hskip
            split at hskip
            · assumption
            · cases hskip
          refine hdigits.continues [e, c] ?_ (fun behind hbehind => ?_) hskip
          · simp only [List.mem_cons, List.not_mem_nil, or_false, forall_eq_or_imp, forall_eq]
            refine ⟨hchar, .inr ?_⟩
            rcases hsign with rfl | rfl <;> simp
          · have happend : (text ++ behind).head?.any Char.isDigit = text.head?.any Char.isDigit :=
              hbehind.head?_any rfl rfl
            simp only [List.cons_append, List.nil_append, skipExponent, he, hsign, if_true,
              happend, hany]
        · by_cases hc : c.isDigit = true
          · refine hdigits.continues [e] (by simpa using hchar) (fun behind _ => ?_) hskip
            simp only [List.cons_append, List.nil_append, skipExponent, he, hsign, hc, if_true,
              if_false]
          · refine skips_endNumber.continues [] (by simp) (fun behind _ => ?_) hskip
            simp only [List.cons_append, List.nil_append, skipExponent, he, hsign, hc, if_true,
              if_false]
            rfl
    · refine skips_unit.continues [] (by simp) (fun behind _ => ?_) hskip
      simp only [List.cons_append, List.nil_append, skipExponent, he, if_false]

theorem skips_fraction : Skips skipFraction := by
  intro text rest hskip
  by_cases hany : text.head?.any Char.isDigit = true
  · refine ((skips_digits numberChar_of_isDigit).bind skips_exponent).continues [] (by simp)
      (fun behind hbehind => ?_) hskip
    rw [List.nil_append, skipFraction, hbehind.head?_any rfl rfl, if_pos hany]
  · refine skips_exponent.continues [] (by simp) (fun behind hbehind => ?_) hskip
    rw [List.nil_append, skipFraction, hbehind.head?_any rfl rfl, if_neg hany]

theorem numberChar_of_isAlpha {c : Char} (hc : c.isAlpha = true) : NumberChar c :=
  .inl (mayContinueName_of_isAlpha hc)

theorem isAlpha_of_upper {c : Char} (hupper : c.val ≥ 'A'.val ∧ c.val ≤ 'Z'.val) :
    c.isAlpha = true :=
  Bool.or_eq_true_iff.2 (.inl (decide_eq_true hupper))

theorem isAlpha_of_lower {c : Char} (hlower : c.val ≥ 'a'.val ∧ c.val ≤ 'z'.val) :
    c.isAlpha = true :=
  Bool.or_eq_true_iff.2
    (.inr (Bool.and_eq_true_iff.2 ⟨decide_eq_true hlower.1, decide_eq_true hlower.2⟩))

/-- The digits of any base are letters or digits. -/
theorem numberChar_of_isDigitIn (base : Nat) (c : Char) (hc : Text.isDigitIn base c = true) :
    NumberChar c := by
  unfold Text.isDigitIn Text.hexValue? at hc
  split at hc
  · exact numberChar_of_isDigit c ‹_›
  split at hc
  · rename_i hlower
    exact numberChar_of_isAlpha
      (isAlpha_of_lower ⟨hlower.1, UInt32.le_trans hlower.2 (by decide)⟩)
  split at hc
  · rename_i hupper
    exact numberChar_of_isAlpha
      (isAlpha_of_upper ⟨hupper.1, UInt32.le_trans hupper.2 (by decide)⟩)
  · cases hc

theorem skipBased_score {isDigit : Char → Bool} :
    skipBased isDigit ('_' :: text) =
      if text.head?.any isDigit then (skipDigits isDigit text).bind endNumber else none :=
  rfl

theorem skipBased_cons {isDigit : Char → Bool} {c : Char} (hc : c ≠ '_') :
    skipBased isDigit (c :: text) =
      if isDigit c then (skipDigits isDigit (c :: text)).bind endNumber else none := by
  unfold skipBased
  split
  · rename_i heq
    exact absurd (List.cons.inj heq).1 hc
  · rfl

theorem skips_based (base : Nat) : Skips (skipBased (Text.isDigitIn base)) := by
  have hdigits := (skips_digits (numberChar_of_isDigitIn base)).bind skips_endNumber
  intro text rest hskip
  cases text with
  | nil => cases hskip
  | cons c text =>
    by_cases hc : c = '_'
    · subst hc
      have hany : text.head?.any (Text.isDigitIn base) = true := by
        rw [skipBased_score] at hskip
        split at hskip
        · assumption
        · cases hskip
      refine hdigits.continues ['_'] (by simp [NumberChar, mayContinueName, mayBeginName])
        (fun behind hbehind => ?_) hskip
      have happend : (text ++ behind).head?.any (Text.isDigitIn base) =
          text.head?.any (Text.isDigitIn base) := hbehind.head?_any rfl rfl
      exact skipBased_score.trans (if_pos (happend.trans hany))
    · by_cases hdigit : Text.isDigitIn base c = true
      · refine hdigits.continues [] (by simp) (fun behind _ => ?_) hskip
        exact (skipBased_cons hc).trans (if_pos hdigit)
      · rw [skipBased_cons hc, if_neg hdigit] at hskip
        cases hskip

/-- What follows a number in base ten that begins with a digit. -/
def skipTen (text : List Char) : Option (List Char) :=
  (skipDigits Char.isDigit text).bind fun rest =>
    match skipRest? rest with
    | some after => after
    | none =>
      let digits := (text.take (text.length - rest.length)).filter (· != '_')
      if text.head? = some '0' ∧ digits.any (· != '0') then none
      else if maxDigits < digits.length ∧ text.head? ≠ some '0' then none
      else endNumber rest

theorem skipNumber_of_base {c : Char} {base : Nat} (hbase : bases.lookup c.toLower = some base) :
    skipNumber ('0' :: c :: text) = skipBased (Text.isDigitIn base) text := by
  unfold skipNumber
  simp only [hbase]

theorem skipNumber_eq_skipTen (hbase : ∀ c later, text = '0' :: c :: later →
    bases.lookup c.toLower = none) : skipNumber text = skipTen text := by
  unfold skipNumber skipTen
  split
  · rename_i c rest
    rw [hbase c rest rfl]
    rfl
  · rfl

theorem take_of_append (used rest : List Char) :
    (used ++ rest).take ((used ++ rest).length - rest.length) = used := by
  rw [List.length_append, Nat.add_sub_cancel, List.take_left]

theorem skipRest?_cons {c : Char} (hc : c ≠ '.') :
    skipRest? (c :: text) =
      if c = 'e' ∨ c = 'E' ∨ c = 'j' ∨ c = 'J' then some (skipExponent (c :: text)) else none := by
  rw [skipRest?]
  intro h
  exact hc h

/-- The number goes on as a fraction or not, whatever is behind. -/
theorem skipRest?_append (text : List Char) (hbehind : Stops behind) :
    skipRest? text = none ∧ skipRest? (text ++ behind) = none ∨
      ∃ f, Skips f ∧ ∃ first later, text = first ++ later ∧ (∀ c ∈ first, NumberChar c) ∧
        ∀ behind, skipRest? (text ++ behind) = some (f (later ++ behind)) := by
  cases text with
  | nil => exact .inl ⟨rfl, by rcases hbehind.cases with rfl | ⟨c, later, rfl, rfl | rfl⟩ <;> rfl⟩
  | cons c text =>
    by_cases hc : c = '.'
    · subst hc
      exact .inr ⟨skipFraction, skips_fraction, ['.'], text, rfl, by simp [NumberChar],
        fun _ => rfl⟩
    · by_cases hletter : c = 'e' ∨ c = 'E' ∨ c = 'j' ∨ c = 'J'
      · exact .inr ⟨skipExponent, skips_exponent, [], c :: text, rfl, by simp, fun _ =>
          (skipRest?_cons hc).trans (if_pos hletter)⟩
      · exact .inl ⟨(skipRest?_cons hc).trans (if_neg hletter),
          (skipRest?_cons hc).trans (if_neg hletter)⟩

theorem skips_ten {c : Char} (hskip : skipTen (c :: text) = some rest) :
    ∃ used, c :: text = used ++ rest ∧ (∀ c ∈ used, NumberChar c) ∧
      ∀ behind, Stops behind → skipTen (c :: text ++ behind) = some (rest ++ behind) := by
  obtain ⟨middle, hdigits, hrest⟩ := Option.bind_eq_some_iff.1 hskip
  obtain ⟨used, htext, hused, hlocal⟩ := skips_digits numberChar_of_isDigit hdigits
  rcases skipRest?_append middle stops_nil with ⟨hnone, -⟩ | ⟨f, hf, first, later, rfl,
    hfirst, hsome⟩
  · rw [hnone] at hrest
    simp only [htext, take_of_append] at hrest
    split at hrest
    · cases hrest
    split at hrest
    · cases hrest
    rename_i hzero hlong
    obtain ⟨last, rfl, hlast, hlocal'⟩ := skips_endNumber hrest
    refine ⟨used ++ last, by rw [htext, List.append_assoc], fun c hc =>
      (List.mem_append.1 hc).elim (hused c) (hlast c), fun behind hbehind => ?_⟩
    have hnone' : skipRest? (last ++ rest ++ behind) = none := by
      rcases skipRest?_append (last ++ rest) hbehind with
        ⟨-, hnone'⟩ | ⟨f, -, first, later, hmiddle, -, hsome⟩
      · exact hnone'
      · have hhere := hsome []
        rw [← List.append_nil (last ++ rest), hhere] at hnone
        cases hnone
    rw [skipTen, hlocal behind hbehind, Option.bind_some, hnone', htext, List.append_assoc used]
    have hhead : (used ++ (last ++ rest ++ behind)).head? = (used ++ (last ++ rest)).head? := by
      rw [← List.append_assoc, ← htext]
      rfl
    simp only [take_of_append, hhead, if_neg hzero, if_neg hlong]
    exact hlocal' behind hbehind
  · have hhere := hsome []
    rw [List.append_nil, List.append_nil] at hhere
    rw [hhere] at hrest
    obtain ⟨last, rfl, hlast, hlocal'⟩ := hf hrest
    refine ⟨used ++ first ++ last, ?_, ?_, fun behind hbehind => ?_⟩
    · rw [htext, List.append_assoc, List.append_assoc]
    · simp only [List.mem_append]
      rintro c ((hc | hc) | hc)
      · exact hused c hc
      · exact hfirst c hc
      · exact hlast c hc
    · simp only [skipTen, hlocal behind hbehind, Option.bind_some, hsome, hlocal' behind hbehind]

theorem isAlpha_of_base {c : Char} {base : Nat} (hbase : bases.lookup c.toLower = some base) :
    c.isAlpha = true := by
  by_cases hupper : c.val ≥ 'A'.val ∧ c.val ≤ 'Z'.val
  · exact isAlpha_of_upper hupper
  · have hlower : c.toLower = c := dif_neg hupper
    rw [hlower] at hbase
    simp only [bases, List.lookup_cons] at hbase
    split at hbase
    · rename_i h
      rw [beq_iff_eq.1 h]
      rfl
    split at hbase
    · rename_i h
      rw [beq_iff_eq.1 h]
      rfl
    split at hbase
    · rename_i h
      rw [beq_iff_eq.1 h]
      rfl
    · cases hbase

/-- Numbers are skipped in the same way before a comma or a bracket. -/
theorem skips_number {c : Char} (hskip : skipNumber (c :: text) = some rest) :
    ∃ used, c :: text = used ++ rest ∧ (∀ c ∈ used, NumberChar c) ∧
      ∀ behind, Stops behind → skipNumber (c :: text ++ behind) = some (rest ++ behind) := by
  by_cases hbase : ∃ d later base, c :: text = '0' :: d :: later ∧
      bases.lookup d.toLower = some base
  · obtain ⟨d, later, base, htext, hbase⟩ := hbase
    cases htext
    refine (skips_based base).continues ['0', d] ?_ (fun behind _ => skipNumber_of_base hbase) hskip
    simp only [List.mem_cons, List.not_mem_nil, or_false, forall_eq_or_imp, forall_eq]
    exact ⟨.inl (by decide), numberChar_of_isAlpha (isAlpha_of_base hbase)⟩
  · have hten : ∀ behind, Stops behind →
        skipNumber (c :: text ++ behind) = skipTen (c :: text ++ behind) := by
      intro behind hbehind
      refine skipNumber_eq_skipTen fun d later htext => ?_
      cases text with
      | nil =>
        rcases hbehind.cases with rfl | ⟨e, more, rfl, rfl | rfl⟩ <;> cases htext <;> rfl
      | cons e text =>
        cases htext
        refine Option.eq_none_iff_forall_ne_some.2 fun base hsome => hbase ⟨_, _, base, rfl, hsome⟩
    have hhere := hten [] stops_nil
    rw [List.append_nil] at hhere
    rw [hhere] at hskip
    obtain ⟨used, htext, hused, hlocal⟩ := skips_ten hskip
    exact ⟨used, htext, hused, fun behind hbehind => (hten behind hbehind).trans
      (hlocal behind hbehind)⟩

/-! ## Quoted texts -/

theorem quotedBody_cons {quote c : Char} (hc : c ≠ '\\') :
    quotedBody false quote (c :: text) =
      if c = quote then some ([], text)
      else if c = '\n' then none
      else (quotedBody false quote text).map fun (body, rest) => (c :: body, rest) := by
  rw [quotedBody.eq_def]
  split
  · rename_i heq
    cases heq
  · rename_i heq
    exact absurd (List.cons.inj heq).1 hc
  · rename_i heq
    obtain ⟨rfl, rfl⟩ := List.cons.inj heq
    simp only [Bool.false_eq_true, if_false, Bool.not_false, and_true]

/-- A quoted text ends at its quote, unless a line ends before. -/
theorem eq_of_quotedBody {quote : Char} {body inner : List Char} (hquote : quote ≠ '\\')
    (hbody : QuotedChars quote body)
    (hcut : quotedBody false quote (body ++ quote :: text) = some (inner, rest)) :
    inner = body ∧ rest = text := by
  induction hbody generalizing inner rest with
  | nil =>
    rw [List.nil_append, quotedBody_cons hquote, if_pos rfl] at hcut
    cases hcut
    exact ⟨rfl, rfl⟩
  | @plain c body hplain hescape hbody ih =>
    rw [List.cons_append, quotedBody_cons hescape, if_neg hplain] at hcut
    split at hcut
    · cases hcut
    · obtain ⟨⟨later, after⟩, hlater, hcons⟩ := Option.map_eq_some_iff.1 hcut
      cases hcons
      obtain ⟨rfl, rfl⟩ := ih hlater
      exact ⟨rfl, rfl⟩
  | @escaped c body hbody ih =>
    rw [List.cons_append, List.cons_append, quotedBody] at hcut
    obtain ⟨⟨later, after⟩, hlater, hcons⟩ := Option.map_eq_some_iff.1 hcut
    cases hcons
    obtain ⟨rfl, rfl⟩ := ih hlater
    exact ⟨rfl, rfl⟩

/-- No quote follows the two quotes of an empty text. -/
theorem eq_of_cutQuotes {quote : Char} {body inner : List Char} (hquote : quote ≠ '\\')
    (hbody : QuotedChars quote body) (hfree : text.head? ≠ some quote)
    (hcut : cutQuotes (quote :: body ++ quote :: text) = some (inner, rest)) :
    inner = body ∧ rest = text := by
  have hshort : cutQuotes (quote :: body ++ quote :: text) =
      quotedBody false quote (body ++ quote :: text) := by
    cases hbody with
    | nil =>
      cases text with
      | nil => rfl
      | cons c text =>
        have hc : quote ≠ c := fun h => hfree (h ▸ rfl)
        exact if_neg fun h => hc h.2
    | @plain c body hplain _ _ =>
      have hc : ∀ more, cutQuotes (quote :: c :: more) = quotedBody false quote (c :: more) := by
        intro more
        cases more with
        | nil => rfl
        | cons d more => exact if_neg fun h => hplain h.1.symm
      exact hc _
    | @escaped c body _ =>
      exact if_neg fun h => hquote h.1
  exact eq_of_quotedBody hquote hbody (hshort.symm.trans hcut)

/-! ## Pieces -/

variable {depth : Nat} {afterWord : Bool}

/-- Whether `c` is a quote. -/
def isQuote (c : Char) : Bool := c == '"' || c == '\''

theorem not_isQuote_of_word {c : Char} (hc : mayContinueName c = true) : isQuote c = false := by
  refine Bool.eq_false_iff.2 fun hquote => ?_
  simp only [isQuote, Bool.or_eq_true, beq_iff_eq] at hquote
  rcases hquote with rfl | rfl <;> cases hc

theorem Stops.head?_isQuote (hbehind : Stops behind) : behind.head?.any isQuote = false := by
  rcases hbehind.cases with rfl | ⟨c, later, rfl, rfl | rfl⟩ <;> rfl

/-- No quote follows a word. -/
theorem TypeChars.isQuote_eq_false {c : Char} (htext : TypeChars depth true (c :: text)) :
    isQuote c = false := by
  cases htext with
  | word hword _ => exact not_isQuote_of_word hword
  | mark hmark _ =>
    simp only [List.mem_cons, List.not_mem_nil, or_false] at hmark
    rcases hmark with rfl | rfl | rfl <;> rfl
  | comma _ => rfl
  | opening hopening _ =>
    simp only [List.mem_cons, List.not_mem_nil, or_false] at hopening
    rcases hopening with rfl | rfl <;> rfl
  | closing hclosing _ =>
    simp only [List.mem_cons, List.not_mem_nil, or_false] at hclosing
    rcases hclosing with rfl | rfl <;> rfl

/-- A letter in a type is part of a word. -/
theorem TypeChars.behind_letter {c : Char} (htext : TypeChars depth afterWord (c :: text))
    (hc : c.isAlpha = true) : TypeChars depth true text := by
  cases htext with
  | word _ hrest => exact hrest
  | mark hmark _ =>
    simp only [List.mem_cons, List.not_mem_nil, or_false] at hmark
    rcases hmark with rfl | rfl | rfl <;> cases hc
  | comma _ => cases hc
  | opening hopening _ =>
    simp only [List.mem_cons, List.not_mem_nil, or_false] at hopening
    rcases hopening with rfl | rfl <;> cases hc
  | closing hclosing _ =>
    simp only [List.mem_cons, List.not_mem_nil, or_false] at hclosing
    rcases hclosing with rfl | rfl <;> cases hc
  | quoted hquote _ _ =>
    simp only [List.mem_cons, List.not_mem_nil, or_false] at hquote
    rcases hquote with rfl | rfl <;> cases hc

/-- No quote follows the letters behind a word. -/
theorem TypeChars.no_quote (htext : TypeChars depth true text) (hbehind : Stops behind) :
    ((text ++ behind).dropWhile Char.isAlpha).head?.any isQuote = false := by
  rw [hbehind.dropWhile rfl rfl]
  induction text with
  | nil => exact hbehind.head?_isQuote
  | cons c text ih =>
    by_cases hc : c.isAlpha = true
    · rw [List.dropWhile_cons_of_pos hc]
      exact ih (htext.behind_letter hc)
    · rw [List.dropWhile_cons_of_neg hc]
      exact htext.isQuote_eq_false

theorem marksBeforeQuote?_eq :
    marksBeforeQuote? text =
      if (text.takeWhile Char.isAlpha).map Char.toLower ∈ quoteMarks ∧
          (text.dropWhile Char.isAlpha).head?.any isQuote = true then
        some ((text.takeWhile Char.isAlpha).map Char.toLower)
      else none := by
  have hdrop : (text.takeWhile Char.isAlpha ++ text.dropWhile Char.isAlpha).drop
      (text.takeWhile Char.isAlpha).length = text.dropWhile Char.isAlpha := List.drop_left
  rw [List.takeWhile_append_dropWhile] at hdrop
  unfold marksBeforeQuote?
  simp only [List.length_map, hdrop]
  rfl

theorem marksBeforeQuote?_of_typeChars {c : Char} (htext : TypeChars depth afterWord (c :: text))
    (hbehind : Stops behind) :
    marksBeforeQuote? (c :: text ++ behind) = if isQuote c then some [] else none := by
  rw [marksBeforeQuote?_eq, List.cons_append]
  by_cases hc : c.isAlpha = true
  · have hquote := (htext.behind_letter hc).no_quote hbehind
    rw [List.dropWhile_cons_of_pos hc, hquote,
      not_isQuote_of_word (mayContinueName_of_isAlpha hc)]
    simp
  · rw [List.dropWhile_cons_of_neg hc, List.takeWhile_cons_of_neg hc]
    cases hquote : isQuote c <;> simp [hquote, quoteMarks]

/-- The first lexeme of a text that begins with `c`, the brackets that are due behind it, and
what follows, where no letters stand before a quote. -/
def cutPiece (closers : List Char) (c : Char) (rest : List Char) :
    Option (Lexeme × List Char × List Char) :=
  if isQuote c then
    (cutQuotes (c :: rest)).bind fun (body, rest) =>
      (decode false body).map fun value => (.quoted false value, closers, rest)
  else if mayBeginName c then
    let name := String.ofList (c :: rest.takeWhile mayContinueName)
    if Text.isIdentifier name then some (.name name, closers, rest.dropWhile mayContinueName)
    else none
  else if c.isDigit then
    (skipNumber (c :: rest)).map fun after =>
      (.number (isTooLong ((c :: rest).take (rest.length + 1 - after.length))), closers, after)
  else if c = '.' ∧ rest.head?.any Char.isDigit then
    (skipFraction rest).map fun after => (.number false, closers, after)
  else
    (bracketsAfter closers c).map fun next =>
      (.symbol (cutSymbol c rest).1, next, (cutSymbol c rest).2)

/-- A text without a comment and line ends is cut piece by piece. -/
theorem cutWithin_cons {fuel : Nat} {closers : List Char} {c : Char} (hgap : isGap c = false)
    (hplain : c ∉ ['#', '\n', '\\'])
    (hmarks : marksBeforeQuote? (c :: text) = if isQuote c then some [] else none) :
    cutWithin (fuel + 1) closers false (c :: text) =
      (cutPiece closers c text).bind fun (lexeme, next, after) =>
        (cutWithin fuel next false after).map (lexeme :: ·) := by
  simp only [List.mem_cons, List.not_mem_nil, or_false, not_or] at hplain
  obtain ⟨hcomment, hline, hescape⟩ := hplain
  rw [cutWithin]
  cases hquote : isQuote c with
  | true =>
    rw [hquote, if_pos rfl] at hmarks
    simp [hgap, hescape, hmarks, cutPiece, hquote, quotedLexeme]
    cases hcut : cutQuotes (c :: text) with
    | none => rfl
    | some cut =>
      cases hvalue : decode false cut.1 with
      | none => simp [hvalue]
      | some value => cases hrest : cutWithin fuel closers false cut.2 <;> simp [hvalue, hrest]
  | false =>
    rw [hquote, if_neg (by decide)] at hmarks
    simp [hgap, hescape, hmarks, cutPiece, hquote]
    split
    · by_cases hname : Text.isIdentifier
          (String.singleton c ++ String.ofList (text.takeWhile mayContinueName)) = true
      · cases hrest : cutWithin fuel closers false (text.dropWhile mayContinueName) <;>
          simp [hname, hrest, guard]
      · simp [hname, guard]
    split
    · cases hnumber : skipNumber (c :: text) with
      | none => rfl
      | some after => cases hrest : cutWithin fuel closers false after <;> simp [hrest]
    split
    · cases hnumber : skipFraction text with
      | none => rfl
      | some after => cases hrest : cutWithin fuel closers false after <;> simp [hrest]
    · cases hnext : bracketsAfter closers c with
      | none => rfl
      | some next => cases hrest : cutWithin fuel next false (cutSymbol c text).2 <;> simp [hrest]

/-! ## Symbols -/

theorem isPrefixOf_append {word : List Char} (hword : ∀ c ∈ word, c ≠ ',' ∧ c ≠ ')')
    (hbehind : Stops behind) : word.isPrefixOf (text ++ behind) = word.isPrefixOf text := by
  induction word generalizing text with
  | nil => rfl
  | cons c word ih =>
    cases text with
    | nil =>
      obtain ⟨hcomma, hparen⟩ := hword c List.mem_cons_self
      rcases hbehind.cases with rfl | ⟨d, later, rfl, rfl | rfl⟩
      · rfl
      · simp [List.isPrefixOf_cons_cons, hcomma]
      · simp [List.isPrefixOf_cons_cons, hparen]
    | cons d text =>
      rw [List.cons_append, List.isPrefixOf_cons_cons, List.isPrefixOf_cons_cons,
        ih fun c hc => hword c (List.mem_cons_of_mem _ hc)]

/-- A symbol is one character, or an operator that the text begins with. -/
theorem cutSymbol_cases (c : Char) (text : List Char) :
    cutSymbol c text = (String.singleton c, text) ∨
      ∃ s ∈ longSymbols, ∃ word later, s.toList = c :: word ∧ text = word ++ later ∧
        cutSymbol c text = (s, later) := by
  have hempty : ∀ s ∈ longSymbols, s.toList ≠ [] := by decide
  unfold cutSymbol
  cases hfound : longSymbols.find? (·.toList.isPrefixOf (c :: text)) with
  | none => exact .inl rfl
  | some s =>
    have hprefix := List.find?_some hfound
    obtain ⟨later, hlater⟩ := List.isPrefixOf_iff_prefix.1 hprefix
    have hs := List.mem_of_find?_eq_some hfound
    obtain ⟨d, word, hword⟩ := List.exists_cons_of_ne_nil (hempty s hs)
    have hdrop : (c :: text).drop s.length = later := by
      rw [← hlater, ← String.length_toList, List.drop_left]
    rw [hword, List.cons_append] at hlater
    obtain ⟨rfl, rfl⟩ := List.cons.inj hlater
    exact .inr ⟨s, hs, word, later, hword, rfl, congrArg (Prod.mk s) hdrop⟩

theorem cutSymbol_append {c : Char} (hbehind : Stops behind) :
    cutSymbol c (text ++ behind) = ((cutSymbol c text).1, (cutSymbol c text).2 ++ behind) := by
  have hall : ∀ s ∈ longSymbols, s.toList.all (fun c => c ≠ ',' ∧ c ≠ ')') = true := by decide
  have hwords : ∀ s ∈ longSymbols, ∀ c ∈ s.toList, c ≠ ',' ∧ c ≠ ')' :=
    fun s hs c hc => of_decide_eq_true (List.all_eq_true.1 (hall s hs) c hc)
  have hfind : longSymbols.find? (·.toList.isPrefixOf (c :: (text ++ behind))) =
      longSymbols.find? (·.toList.isPrefixOf (c :: text)) := by
    refine List.find?_congr fun s hs => ?_
    rw [← List.cons_append]
    exact isPrefixOf_append (hwords s hs) hbehind
  unfold cutSymbol
  rw [hfind]
  split
  · rename_i s hfound
    have hprefix := List.find?_some hfound
    obtain ⟨later, hlater⟩ := List.isPrefixOf_iff_prefix.1 hprefix
    have hlength : s.length ≤ (c :: text).length := by
      rw [← hlater, List.length_append, String.length_toList]
      exact Nat.le_add_right _ _
    rw [← List.cons_append, List.drop_append_of_le_length hlength]
  · rfl

/-- How many brackets are open behind a lexeme of a type inside `depth` brackets, if it may
stand there. Outside of brackets there is no comma, and nowhere the end of a line. -/
def depthBehind (depth : Nat) : Lexeme → Option Nat
  | .symbol text =>
    if text ∈ ["(", "[", "\x7b"] then some (depth + 1)
    else if text ∈ [")", "]", "\x7d"] then if depth = 0 then none else some (depth - 1)
    else if text = "," ∧ depth = 0 then none
    else some depth
  | .lineEnd => none
  | _ => some depth

theorem depthBehind_longSymbol {s : String} (hs : s ∈ longSymbols) :
    depthBehind depth (.symbol s) = some depth := by
  have hplain : ∀ s ∈ longSymbols, s ∉ ["(", "[", "\x7b"] ∧ s ∉ [")", "]", "\x7d"] ∧ s ≠ "," := by
    decide
  obtain ⟨hopening, hclosing, hcomma⟩ := hplain s hs
  rw [depthBehind, if_neg hopening, if_neg hclosing, if_neg fun h => hcomma h.1]

theorem eq_cons_of_bracketsAfter {closers next : List Char} {c closer : Char}
    (hopening : closingFor? c = some closer) (hnext : bracketsAfter closers c = some next) :
    ∃ closer, next = closer :: closers := by
  unfold bracketsAfter at hnext
  rw [hopening] at hnext
  simp only at hnext
  split at hnext <;> cases hnext
  exact ⟨closer, rfl⟩

theorem cons_eq_of_bracketsAfter {closers next : List Char} {c : Char}
    (hopening : closingFor? c = none) (hclosing : c = ')' ∨ c = ']' ∨ c = '\x7d')
    (hnext : bracketsAfter closers c = some next) : closers = c :: next := by
  unfold bracketsAfter at hnext
  rw [hopening] at hnext
  simp only [if_pos hclosing] at hnext
  split at hnext
  · split at hnext <;> cases hnext
    rename_i hdue
    rw [hdue]
  · cases hnext

theorem bracketsAfter_append {closers next more : List Char} {c : Char}
    (halone : bracketsAfter closers c = some next)
    (hmore : bracketsAfter (closers ++ [')']) c = some more) : more = next ++ [')'] := by
  unfold bracketsAfter at halone hmore
  split at halone
  · rename_i closer hcloser
    rw [hcloser] at hmore
    simp only at hmore
    split at halone <;> split at hmore <;> cases halone <;> cases hmore
    rfl
  · rename_i hcloser
    rw [hcloser] at hmore
    simp only at hmore
    split at halone
    · rename_i hc
      rw [if_pos hc] at hmore
      split at halone
      · simp only [List.cons_append] at hmore
        split at halone <;> cases halone
        rename_i hdue
        rw [if_pos hdue] at hmore
        exact (Option.some.inj hmore).symm
      · cases halone
    · rename_i hc
      rw [if_neg hc] at hmore
      cases halone
      exact (Option.some.inj hmore).symm

/-! ## Types before a comma or a bracket -/

/-- Behind characters of a number a type goes on as one. -/
theorem TypeChars.behind_number {used : List Char}
    (htext : TypeChars depth afterWord (used ++ text))
    (hused : ∀ c ∈ used, NumberChar c) : ∃ w, TypeChars depth w text := by
  induction used generalizing afterWord with
  | nil => exact ⟨afterWord, htext⟩
  | cons c used ih =>
    have hlater : ∀ d ∈ used, NumberChar d := fun d hd => hused d (List.mem_cons_of_mem _ hd)
    have hc := hused c List.mem_cons_self
    generalize hwhole : c :: used ++ text = whole at htext
    cases htext with
    | nil => cases hwhole
    | word _ hrest =>
      cases hwhole
      exact ih hrest hlater
    | mark _ hrest =>
      cases hwhole
      exact ih hrest hlater
    | comma _ =>
      cases hwhole
      exact absurd hc not_numberChar_comma
    | opening hopening _ =>
      cases hwhole
      simp only [List.mem_cons, List.not_mem_nil, or_false] at hopening
      rcases hopening with rfl | rfl <;> simp [NumberChar, mayContinueName, mayBeginName] at hc
    | closing hclosing _ =>
      cases hwhole
      simp only [List.mem_cons, List.not_mem_nil, or_false] at hclosing
      rcases hclosing with rfl | rfl <;> simp [NumberChar, mayContinueName, mayBeginName] at hc
    | quoted hquote _ _ =>
      obtain rfl := (List.cons.inj hwhole).1
      simp only [List.mem_cons, List.not_mem_nil, or_false] at hquote
      rcases hquote with rfl | rfl <;> simp [NumberChar, mayContinueName, mayBeginName] at hc

variable {closers next more : List Char} {lexeme : Lexeme} {c : Char}

theorem cutSymbol_of_single (hc : ∀ s ∈ longSymbols, s.toList.head? ≠ some c) :
    cutSymbol c text = (String.singleton c, text) := by
  rcases cutSymbol_cases c text with hsingle | ⟨s, hs, word, later, hword, -⟩
  · exact hsingle
  · exact absurd (by rw [hword]; rfl) (hc s hs)

/-- A first lexeme of a type is cut in the same way with more behind. Behind it a type goes
on inside the brackets that are open then. -/
structure PieceAlike (closers : List Char) (lexeme : Lexeme) (next after behind : List Char)
    (cut : Lexeme × List Char × List Char) : Prop where
  same : cut = (lexeme, next ++ [')'], after ++ behind)
  shape : ∃ w, TypeChars next.length w after
  depth : depthBehind closers.length lexeme = some next.length

theorem TypeChars.quoted_of_isQuote (htext : TypeChars depth afterWord (c :: text))
    (hquote : isQuote c = true) : ∃ body rest, text = body ++ c :: rest ∧ c ≠ '\\' ∧
      QuotedChars c body ∧ TypeChars depth true rest := by
  generalize hwhole : c :: text = whole at htext
  cases htext with
  | nil => cases hwhole
  | word hword _ =>
    cases hwhole
    rw [not_isQuote_of_word hword] at hquote
    cases hquote
  | mark hmark _ =>
    cases hwhole
    simp only [List.mem_cons, List.not_mem_nil, or_false] at hmark
    rcases hmark with rfl | rfl | rfl <;> cases hquote
  | comma _ =>
    cases hwhole
    cases hquote
  | opening hopening _ =>
    cases hwhole
    simp only [List.mem_cons, List.not_mem_nil, or_false] at hopening
    rcases hopening with rfl | rfl <;> cases hquote
  | closing hclosing _ =>
    cases hwhole
    simp only [List.mem_cons, List.not_mem_nil, or_false] at hclosing
    rcases hclosing with rfl | rfl <;> cases hquote
  | quoted hmark hbody hrest =>
    obtain ⟨rfl, rfl⟩ := List.cons.inj hwhole
    refine ⟨_, _, rfl, ?_, hbody, hrest⟩
    rintro rfl
    simp at hmark

/-- Behind the characters of a name a type goes on as one. -/
theorem TypeChars.behind_name (htext : TypeChars depth afterWord text) :
    ∃ w, TypeChars depth w (text.dropWhile mayContinueName) := by
  rw [← List.takeWhile_append_dropWhile (p := mayContinueName) (l := text)] at htext
  exact htext.behind_number fun d hd => .inl (List.all_eq_true.1 List.all_takeWhile d hd)

/-- A quoted text is cut in the same way with more behind. -/
theorem pieceAlike_of_quote {after : List Char} {cut : Lexeme × List Char × List Char}
    (htext : TypeChars closers.length afterWord (c :: text)) (hquote : isQuote c = true)
    (hbehind : Stops behind) (halone : cutPiece closers c text = some (lexeme, next, after))
    (hcut : cutPiece (closers ++ [')']) c (text ++ behind) = some cut) :
    PieceAlike closers lexeme next after behind cut := by
  obtain ⟨body, rest, rfl, hescape, hbody, hrest⟩ := htext.quoted_of_isQuote hquote
  have hfree : ∀ behind, Stops behind → (rest ++ behind).head? ≠ some c := by
    intro behind hbehind hhead
    have hany : (rest ++ behind).head?.any isQuote = true := by rw [hhead]; exact hquote
    rw [hbehind.head?_any rfl rfl] at hany
    cases rest with
    | nil => cases hany
    | cons d rest =>
      rw [List.head?_cons, Option.any_some, hrest.isQuote_eq_false] at hany
      cases hany
  rw [cutPiece, if_pos hquote] at halone hcut
  obtain ⟨⟨inner, left⟩, hquotes, hvalue⟩ := Option.bind_eq_some_iff.1 halone
  obtain ⟨⟨inner', left'⟩, hquotes', hvalue'⟩ := Option.bind_eq_some_iff.1 hcut
  have hhere := hfree [] stops_nil
  rw [List.append_nil] at hhere
  rw [List.append_assoc, List.cons_append] at hquotes'
  obtain ⟨rfl, rfl⟩ := eq_of_cutQuotes hescape hbody hhere hquotes
  obtain ⟨rfl, rfl⟩ := eq_of_cutQuotes hescape hbody (hfree behind hbehind) hquotes'
  obtain ⟨value, hdecode, hpiece⟩ := Option.map_eq_some_iff.1 hvalue
  obtain ⟨value', hdecode', rfl⟩ := Option.map_eq_some_iff.1 hvalue'
  cases hpiece
  rw [hdecode] at hdecode'
  cases hdecode'
  exact ⟨rfl, ⟨true, hrest⟩, rfl⟩

/-- Behind a dot, or three of them, a type goes on as one. -/
theorem TypeChars.behind_dot (htext : TypeChars depth false text) :
    (∃ w, TypeChars depth w (cutSymbol '.' text).2) ∧
      depthBehind depth (.symbol (cutSymbol '.' text).1) = some depth := by
  rcases cutSymbol_cases '.' text with hsingle | ⟨s, hs, word, later, hword, rfl, hcut⟩
  · rw [hsingle]
    exact ⟨⟨false, htext⟩, rfl⟩
  · have hdots : ∀ s ∈ longSymbols, s.toList.head? = some '.' → s.toList = ['.', '.', '.'] := by
      decide
    have hall := hdots s hs (by rw [hword]; rfl)
    rw [hall] at hword
    cases hword
    rw [hcut]
    refine ⟨htext.behind_number ?_, depthBehind_longSymbol hs⟩
    simp [NumberChar]

/-- Behind a pipe no assignment follows in a type. -/
theorem TypeChars.behind_pipe (htext : TypeChars depth false text) :
    cutSymbol '|' text = ("|", text) := by
  rcases cutSymbol_cases '|' text with hsingle | ⟨s, hs, word, later, hword, rfl, -⟩
  · exact hsingle
  · have hpipes : ∀ s ∈ longSymbols, s.toList.head? = some '|' → s.toList = ['|', '='] := by
      decide
    have hall := hpipes s hs (by rw [hword]; rfl)
    rw [hall] at hword
    cases hword
    cases htext with
    | word hchar _ => cases hchar
    | mark hmark _ => simp at hmark
    | opening hopening _ => simp at hopening
    | closing hclosing _ => simp at hclosing
    | quoted hquote _ _ => simp at hquote

/-- A symbol is cut in the same way with more behind. -/
theorem pieceAlike_of_symbol (htext : TypeChars closers.length afterWord (c :: text))
    (hgap : isGap c = false) (hquote : isQuote c = false) (hword : mayContinueName c = false)
    (hbehind : Stops behind) (hnext : bracketsAfter closers c = some next)
    (hmore : bracketsAfter (closers ++ [')']) c = some more) :
    PieceAlike closers (.symbol (cutSymbol c text).1) next (cutSymbol c text).2 behind
      (.symbol (cutSymbol c (text ++ behind)).1, more, (cutSymbol c (text ++ behind)).2) := by
  have hsame : ((.symbol (cutSymbol c (text ++ behind)).1, more, (cutSymbol c (text ++ behind)).2) :
      Lexeme × List Char × List Char) =
        (.symbol (cutSymbol c text).1, next ++ [')'], (cutSymbol c text).2 ++ behind) := by
    rw [cutSymbol_append hbehind, bracketsAfter_append hnext hmore]
  generalize hdepth : closers.length = depth at htext
  generalize hwhole : c :: text = whole at htext
  cases htext with
  | nil => cases hwhole
  | word hchar _ =>
    cases hwhole
    rw [hchar] at hword
    cases hword
  | mark hmark hrest =>
    cases hwhole
    simp only [List.mem_cons, List.not_mem_nil, or_false] at hmark
    rcases hmark with rfl | rfl | rfl
    · cases hgap
    · cases hnext
      subst hdepth
      exact ⟨hsame, hrest.behind_dot.1, hrest.behind_dot.2⟩
    · cases hnext
      subst hdepth
      rw [hrest.behind_pipe] at hsame ⊢
      exact ⟨hsame, ⟨false, hrest⟩, rfl⟩
  | comma hrest =>
    cases hwhole
    cases hnext
    rw [cutSymbol_of_single (by decide)] at hsame ⊢
    refine ⟨hsame, ⟨false, hdepth ▸ hrest⟩, ?_⟩
    rw [hdepth]
    rfl
  | opening hopening hrest =>
    cases hwhole
    subst hdepth
    simp only [List.mem_cons, List.not_mem_nil, or_false] at hopening
    rcases hopening with rfl | rfl
    all_goals
      obtain ⟨closer, rfl⟩ := eq_cons_of_bracketsAfter rfl hnext
      rw [cutSymbol_of_single (by decide)] at hsame ⊢
      exact ⟨hsame, ⟨false, hrest⟩, rfl⟩
  | closing hclosing hrest =>
    cases hwhole
    simp only [List.mem_cons, List.not_mem_nil, or_false] at hclosing
    rcases hclosing with rfl | rfl
    all_goals
      obtain rfl := cons_eq_of_bracketsAfter rfl (by decide) hnext
      cases hdepth
      rw [cutSymbol_of_single (by decide)] at hsame ⊢
      exact ⟨hsame, ⟨false, hrest⟩, rfl⟩
  | quoted hmark _ _ =>
    obtain ⟨rfl, rfl⟩ := List.cons.inj hwhole
    simp only [List.mem_cons, List.not_mem_nil, or_false] at hmark
    rcases hmark with rfl | rfl <;> cases hquote

/-- A number is cut in the same way with more behind. -/
theorem pieceAlike_of_number {after more : List Char}
    (htext : TypeChars closers.length afterWord (c :: text)) (hbehind : Stops behind)
    (hnumber : skipNumber (c :: text) = some after)
    (hmore : skipNumber (c :: (text ++ behind)) = some more) :
    PieceAlike closers
      (.number (isTooLong ((c :: text).take (text.length + 1 - after.length)))) closers after behind
      (.number (isTooLong ((c :: (text ++ behind)).take
          ((text ++ behind).length + 1 - more.length))), closers ++ [')'], more) := by
  obtain ⟨used, hused, hchars, hlocal⟩ := skips_number hnumber
  cases (hlocal behind hbehind).symm.trans hmore
  refine ⟨?_, ?_, rfl⟩
  · have halone := take_of_append used after
    have hmore := take_of_append used (after ++ behind)
    rw [← hused] at halone
    rw [← List.append_assoc, ← hused] at hmore
    simp only [List.cons_append, List.length_cons] at halone hmore
    rw [halone, hmore]
  · rw [hused] at htext
    exact htext.behind_number hchars

/-- A number that begins with a point is cut in the same way with more behind. -/
theorem pieceAlike_of_fraction {after more : List Char}
    (htext : TypeChars closers.length afterWord ('.' :: text)) (hbehind : Stops behind)
    (hfraction : skipFraction text = some after)
    (hmore : skipFraction (text ++ behind) = some more) :
    PieceAlike closers (.number false) closers after behind
      (.number false, closers ++ [')'], more) := by
  obtain ⟨used, rfl, hchars, hlocal⟩ := skips_fraction hfraction
  cases (hlocal behind hbehind).symm.trans hmore
  have hused : ∀ d ∈ '.' :: used, NumberChar d :=
    List.forall_mem_cons.2 ⟨.inr (by simp), hchars⟩
  exact ⟨rfl, TypeChars.behind_number htext hused, rfl⟩

/-- A first lexeme is cut in the same way with more behind. -/
theorem pieceAlike_of_cutPiece {after : List Char} {cut : Lexeme × List Char × List Char}
    (htext : TypeChars closers.length afterWord (c :: text)) (hgap : isGap c = false)
    (hbehind : Stops behind) (halone : cutPiece closers c text = some (lexeme, next, after))
    (hcut : cutPiece (closers ++ [')']) c (text ++ behind) = some cut) :
    PieceAlike closers lexeme next after behind cut := by
  by_cases hquote : isQuote c = true
  · exact pieceAlike_of_quote htext hquote hbehind halone hcut
  rw [cutPiece, if_neg hquote] at halone hcut
  by_cases hname : mayBeginName c = true
  · rw [if_pos hname] at halone hcut
    simp only [hbehind.takeWhile (p := mayContinueName) rfl rfl,
      hbehind.dropWhile (p := mayContinueName) rfl rfl] at halone hcut
    split at halone
    · rename_i hidentifier
      rw [if_pos hidentifier] at hcut
      cases halone
      cases hcut
      have hchar : mayContinueName c = true := by simp [mayContinueName, hname]
      have hshape := htext.behind_name
      rw [List.dropWhile_cons_of_pos hchar] at hshape
      exact ⟨rfl, hshape, rfl⟩
    · cases halone
  rw [if_neg hname] at halone hcut
  by_cases hdigit : c.isDigit = true
  · rw [if_pos hdigit] at halone hcut
    obtain ⟨left, hnumber, hpiece⟩ := Option.map_eq_some_iff.1 halone
    obtain ⟨left', hnumber', rfl⟩ := Option.map_eq_some_iff.1 hcut
    cases hpiece
    exact pieceAlike_of_number htext hbehind hnumber hnumber'
  rw [if_neg hdigit] at halone hcut
  rw [hbehind.head?_any (p := Char.isDigit) rfl rfl] at hcut
  by_cases hpoint : c = '.' ∧ text.head?.any Char.isDigit = true
  · rw [if_pos hpoint] at halone hcut
    obtain ⟨left, hfraction, hpiece⟩ := Option.map_eq_some_iff.1 halone
    obtain ⟨left', hfraction', rfl⟩ := Option.map_eq_some_iff.1 hcut
    cases hpiece
    obtain ⟨rfl, -⟩ := hpoint
    exact pieceAlike_of_fraction htext hbehind hfraction hfraction'
  · rw [if_neg hpoint] at halone hcut
    obtain ⟨left, hnext, hpiece⟩ := Option.map_eq_some_iff.1 halone
    obtain ⟨more, hmore, rfl⟩ := Option.map_eq_some_iff.1 hcut
    cases hpiece
    refine pieceAlike_of_symbol htext hgap (by simpa using hquote) ?_ hbehind hnext hmore
    simp [mayContinueName, hname, hdigit]

/-- The gap before a lexeme does not count. -/
theorem cutWithin_gap {fuel : Nat} : cutWithin (fuel + 1) closers false text =
    cutWithin (fuel + 1) closers false (text.dropWhile isGap) := by
  rw [cutWithin, cutWithin]
  simp only [Bool.false_eq_true, if_false, List.dropWhile_idempotent]

/-- Neither a comment nor the end of a line begins in a type. -/
theorem TypeChars.no_break (htext : TypeChars depth afterWord (c :: text)) :
    c ∉ ['#', '\n', '\\'] := by
  intro hbreak
  simp only [List.mem_cons, List.not_mem_nil, or_false] at hbreak
  cases htext with
  | word hword _ => rcases hbreak with rfl | rfl | rfl <;> cases hword
  | mark hmark _ => rcases hbreak with rfl | rfl | rfl <;> simp at hmark
  | comma _ => simp at hbreak
  | opening hopening _ => rcases hbreak with rfl | rfl | rfl <;> simp at hopening
  | closing hclosing _ => rcases hbreak with rfl | rfl | rfl <;> simp at hclosing
  | quoted hquote _ _ => rcases hbreak with rfl | rfl | rfl <;> simp at hquote

/-- Types are cut alike. With a comma or a bracket behind, the lexemes of a type are those
of the type alone, in which brackets match and commas stand inside them. The induction is on
the number of pieces that are cut. -/
theorem cutWithin_append {fuel fuel' : Nat} {lexemes all : List Lexeme}
    (htext : TypeChars closers.length afterWord text) (hbehind : Stops behind)
    (halone : cutWithin fuel closers false text = some lexemes)
    (hcut : cutWithin fuel' (closers ++ [')']) false (text ++ behind) = some all) :
    lexemes.foldlM depthBehind closers.length = some 0 ∧
      ∃ fuel rest, cutWithin fuel [')'] false behind = some rest ∧ all = lexemes ++ rest := by
  induction fuel generalizing fuel' closers afterWord text lexemes all with
  | zero => cases halone
  | succ fuel ih =>
    cases fuel' with
    | zero => cases hcut
    | succ fuel' =>
      rw [cutWithin_gap] at halone hcut
      rw [hbehind.dropWhile rfl rfl] at hcut
      obtain ⟨w, -, hshape⟩ := htext.dropGap (p := isGap) fun _ h => h
      have hhead := List.head?_dropWhile_not isGap text
      cases hrest : text.dropWhile isGap with
      | nil =>
        rw [hrest] at halone hcut hshape
        generalize hdepth : closers.length = depth at hshape
        cases hshape
        obtain rfl := List.length_eq_zero_iff.1 hdepth
        cases halone
        exact ⟨rfl, fuel' + 1, all, hcut, rfl⟩
      | cons c rest =>
        rw [hrest] at halone hcut hshape hhead
        have hgap : isGap c = false := by simpa using hhead
        have hmarks := marksBeforeQuote?_of_typeChars hshape stops_nil
        have hmarks' := marksBeforeQuote?_of_typeChars hshape hbehind
        rw [List.append_nil] at hmarks
        rw [List.cons_append] at hcut hmarks'
        rw [cutWithin_cons hgap hshape.no_break hmarks] at halone
        rw [cutWithin_cons hgap hshape.no_break hmarks'] at hcut
        obtain ⟨⟨lexeme, next, after⟩, hpiece, hcons⟩ := Option.bind_eq_some_iff.1 halone
        obtain ⟨cut, hpiece', hcons'⟩ := Option.bind_eq_some_iff.1 hcut
        obtain ⟨rfl, ⟨w', hafter⟩, hdepth⟩ :=
          pieceAlike_of_cutPiece hshape hgap hbehind hpiece hpiece'
        obtain ⟨later, hlater, rfl⟩ := Option.map_eq_some_iff.1 hcons
        obtain ⟨later', hlater', rfl⟩ := Option.map_eq_some_iff.1 hcons'
        obtain ⟨hclosed, last, more, hmore, rfl⟩ := ih hafter hlater hlater'
        refine ⟨?_, last, more, hmore, rfl⟩
        rw [List.foldlM_cons, hdepth]
        exact hclosed

end FsmCompiler.Target
