/-
# Lines

A text has one line more than it has line feeds. Joining lines by line feeds and cutting a text
at its line feeds undo each other, and a place in a text lies in the line that has as many others
before it as there are line feeds before the place.
-/

import FsmCompiler.Text.Line
import Mathlib.Data.List.TakeWhile

namespace FsmCompiler.Text

variable {separator : Char} {front rest : List Char}

/-- The first stretch of a text ends before its first separator. -/
theorem head?_splitAt (text : List Char) :
    (splitAt separator text).head? = some (text.takeWhile (· != separator)) := by
  induction text with
  | nil => rfl
  | cons c text ih =>
    by_cases hc : c = separator
    · simp [splitAt, hc]
    · have hne := splitAt_ne_nil separator text
      cases hsplit : splitAt separator text with
      | nil => exact absurd hsplit hne
      | cons piece pieces =>
        rw [hsplit] at ih
        simp_all [splitAt]

/-- What lies behind a character that fails does not count. -/
theorem takeWhile_append_cons {p : Char → Bool} {c : Char} (hc : p c = false)
    (text rest : List Char) : (text ++ c :: rest).takeWhile p = text.takeWhile p := by
  induction text with
  | nil => simp [hc]
  | cons d text ih => simp [List.takeWhile_cons, ih]

/-- A place in a text lies in the stretch that has as many others before it as there are
separators before the place. The induction takes off the stretches before. -/
theorem getElem?_splitAt (front rest : List Char) :
    (splitAt separator (front ++ rest))[front.count separator]? =
      some ((front.reverse.takeWhile (· != separator)).reverse ++
        rest.takeWhile (· != separator)) := by
  induction hlength : front.length using Nat.strongRecOn generalizing front with
  | ind length ih =>
    subst hlength
    by_cases hmem : separator ∈ front
    · obtain ⟨piece, behind, rfl, hpiece⟩ := List.eq_append_cons_of_mem hmem
      have hbehind := ih behind.length (by simp; omega) behind rfl
      have hcount :
          (piece ++ separator :: behind).count separator = behind.count separator + 1 := by
        simp [List.count_eq_zero.2 hpiece]
      have hline : (piece ++ separator :: behind).reverse.takeWhile (· != separator) =
          behind.reverse.takeWhile (· != separator) := by
        rw [List.reverse_append, List.reverse_cons, List.append_assoc, List.singleton_append]
        exact takeWhile_append_cons (by simp) ..
      rw [List.append_assoc, List.cons_append, splitAt_append hpiece, hcount, hline,
        List.getElem?_cons_succ, hbehind]
    · have hinside : ∀ c ∈ front, (c != separator) = true := by
        intro c hc
        exact bne_iff_ne.2 fun heq => hmem (heq ▸ hc)
      rw [List.count_eq_zero.2 hmem, ← List.head?_eq_getElem?, head?_splitAt,
        List.takeWhile_append_of_pos hinside]
      congr 2
      rw [List.takeWhile_eq_self_iff.2 (by simpa using hinside), List.reverse_reverse]

/-- There is one stretch more than there are separators. -/
theorem length_splitAt (text : List Char) :
    (splitAt separator text).length = text.count separator + 1 := by
  induction text with
  | nil => rfl
  | cons c text ih =>
    by_cases hc : c = separator
    · simp [splitAt, hc, ih]
    · have hne := splitAt_ne_nil separator text
      cases hsplit : splitAt separator text with
      | nil => exact absurd hsplit hne
      | cons piece pieces =>
        rw [hsplit] at ih
        simp_all [splitAt]

/-- No stretch holds a separator. -/
theorem separator_not_mem_splitAt (text : List Char) :
    ∀ piece ∈ splitAt separator text, separator ∉ piece := by
  induction text with
  | nil => simp [splitAt]
  | cons c text ih =>
    by_cases hc : c = separator
    · simpa [splitAt, hc] using ih
    · have hne := splitAt_ne_nil separator text
      cases hsplit : splitAt separator text with
      | nil => exact absurd hsplit hne
      | cons piece pieces =>
        rw [hsplit] at ih
        simp_all [splitAt, Ne.symm hc]

theorem splitAt_of_not_mem {piece : List Char} (hpiece : separator ∉ piece) :
    splitAt separator piece = [piece] := by
  induction piece with
  | nil => rfl
  | cons c piece ih =>
    rw [List.mem_cons, not_or] at hpiece
    rw [splitAt, if_neg (Ne.symm hpiece.1), ih hpiece.2]

/-- The stretches are those of the library's splitting of lists. -/
theorem splitAt_eq_splitOn (text : List Char) :
    splitAt separator text = text.splitOn separator := by
  rw [List.splitOn]
  induction text with
  | nil => rfl
  | cons c rest ih =>
    have hne := splitAt_ne_nil separator rest
    rw [splitAt, List.splitOnP_cons_eq_if_modifyHead, ← ih]
    by_cases hc : c = separator
    · rw [if_pos hc, if_pos (beq_iff_eq.2 hc)]
    · rw [if_neg hc, if_neg (by simpa using hc)]
      cases hsplit : splitAt separator rest with
      | nil => exact absurd hsplit hne
      | cons piece pieces => rfl

theorem newline_not_mem_lines (text : String) : ∀ line ∈ lines text, '\n' ∉ line.toList := by
  intro line hline
  obtain ⟨piece, hpiece, rfl⟩ := List.mem_map.1 hline
  rw [String.toList_ofList]
  exact separator_not_mem_splitAt _ piece hpiece

@[simp] theorem unlines_singleton (row : String) : unlines [row] = row := by
  simp [unlines]

theorem unlines_cons {rows : List String} (row : String) (hne : rows ≠ []) :
    unlines (row :: rows) = row ++ "\n" ++ unlines rows := by
  cases rows with
  | nil => exact absurd rfl hne
  | cons second rest => simp [unlines, String.append_assoc]

/-- The stretches of a text are those before and those behind any of its separators. -/
theorem splitAt_append_cons (front rest : List Char) :
    splitAt separator (front ++ separator :: rest) =
      splitAt separator front ++ splitAt separator rest := by
  induction front with
  | nil => simp [splitAt]
  | cons c front ih =>
    by_cases hc : c = separator
    · simp [splitAt, hc, ih]
    · rw [List.cons_append, splitAt, splitAt, if_neg hc, if_neg hc, ih]
      cases hsplit : splitAt separator front with
      | nil => exact absurd hsplit (splitAt_ne_nil separator front)
      | cons piece pieces => rfl

theorem lines_of_newline_not_mem {row : String} (hrow : '\n' ∉ row.toList) :
    lines row = [row] := by
  rw [lines, splitAt_of_not_mem hrow]
  simp

/-- The lines of joined texts are those of the texts. -/
theorem lines_unlines_eq_flatMap {texts : List String} (hne : texts ≠ []) :
    lines (unlines texts) = texts.flatMap lines := by
  induction texts with
  | nil => exact absurd rfl hne
  | cons text rest ih =>
    by_cases hrest : rest = []
    · simp [hrest]
    · have hsplit : (unlines (text :: rest)).toList =
          text.toList ++ '\n' :: (unlines rest).toList := by
        rw [unlines_cons text hrest]
        simp
      rw [List.flatMap_cons, ← ih hrest, lines, hsplit, splitAt_append_cons, List.map_append]
      rfl

theorem flatMap_lines {rows : List String} (hrows : ∀ row ∈ rows, '\n' ∉ row.toList) :
    rows.flatMap lines = rows := by
  induction rows with
  | nil => rfl
  | cons row rest ih =>
    rw [List.flatMap_cons, lines_of_newline_not_mem (hrows row List.mem_cons_self),
      ih fun other hother => hrows other (List.mem_cons_of_mem _ hother), List.singleton_append]

/-- Joined rows are cut into the rows. -/
theorem lines_unlines {rows : List String} (hne : rows ≠ [])
    (hrows : ∀ row ∈ rows, '\n' ∉ row.toList) : lines (unlines rows) = rows := by
  rw [lines_unlines_eq_flatMap hne, flatMap_lines hrows]

/-- Rows are joined in two parts. -/
theorem unlines_append {rows others : List String} (hrows : rows ≠ []) (hothers : others ≠ []) :
    unlines (rows ++ others) = unlines rows ++ "\n" ++ unlines others := by
  induction rows with
  | nil => exact absurd rfl hrows
  | cons row rest ih =>
    rw [List.cons_append, unlines_cons row (by simp [hothers])]
    by_cases hrest : rest = []
    · simp [hrest]
    · rw [ih hrest, unlines_cons row hrest]
      simp [String.append_assoc]

/-- A line feed at the end of joined rows begins one more line. -/
theorem lines_unlines_append_newline {rows : List String} (hne : rows ≠ [])
    (hrows : ∀ row ∈ rows, '\n' ∉ row.toList) : lines (unlines rows ++ "\n") = rows ++ [""] := by
  have hjoined : unlines rows ++ "\n" = unlines (rows ++ [""]) := by
    rw [unlines_append hne (by simp), unlines_singleton, String.append_empty]
  rw [hjoined, lines_unlines (by simp)]
  simpa [or_imp, forall_and] using hrows

/-- Texts on one line, joined by commas and blanks, stay on one line. -/
theorem newline_not_mem_commaList {texts : List String}
    (htexts : ∀ text ∈ texts, '\n' ∉ text.toList) : '\n' ∉ (commaList texts).toList := by
  induction texts with
  | nil => simp [commaList]
  | cons text rest ih =>
    have htext : '\n' ∉ text.toList := htexts text List.mem_cons_self
    by_cases hrest : rest = []
    · subst hrest
      simpa [commaList] using htext
    · have hlater := ih fun other hother => htexts other (List.mem_cons_of_mem _ hother)
      rw [commaList, String.intercalate_cons_of_ne_nil hrest, ← commaList]
      simp [htext, hlater]

end FsmCompiler.Text
