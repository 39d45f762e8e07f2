/-
# Faults are shown where they are

A fault is at a place in the text that was read: at a character of some line, or right behind
the last one. Its report shows the lines around that place, each as it is and with its number,
and below the line of the fault a row of carets that begins under the character in question.
The first line shown is worked out twice, once for the excerpt and once for the numbers, and both
come to the same line.
-/

import FsmCompiler.Proofs.FirstWrong
import FsmCompiler.Proofs.Padding
import FsmCompiler.Proofs.TokenPlaces
import Mathlib.Data.List.Basic

namespace FsmCompiler

/-! ## Places in a text -/

namespace Source

open Token (placeBehind)

variable {text line : String} {lines : List String} {pos : Position}

/-- The place is that of a character of `line`, or right behind its last one, and `line` is the
one of the lines that the place counts. -/
structure InLine (lines : List String) (pos : Position) (line : String) : Prop where
  first : 1 ≤ pos.line
  there : lines[pos.line - 1]? = some line
  left : 1 ≤ pos.column
  right : pos.column ≤ line.length + 1

theorem InLine.line_le (hplace : InLine lines pos line) : pos.line ≤ lines.length := by
  have hindex := (List.getElem?_eq_some_iff.1 hplace.there).1
  have hfirst := hplace.first
  omega

/-- The place behind a beginning of a text is in a line of the text. -/
theorem exists_inLine_placeBehind {front rest : List Char} (htext : text.toList = front ++ rest) :
    ∃ line, InLine (Text.lines text) (placeBehind front) line := by
  refine ⟨String.ofList ((front.reverse.takeWhile (· != '\n')).reverse ++
    rest.takeWhile (· != '\n')), ?_, ?_, ?_, ?_⟩
  · exact Nat.le_add_left _ _
  · rw [Text.lines, List.getElem?_map, htext]
    exact congrArg (Option.map String.ofList) (Text.getElem?_splitAt front rest)
  · exact Nat.le_add_left _ _
  · simp [placeBehind]

end Source

namespace Token

variable {before text : List Char} {fault : ScanFault}

/-- A text is stuck at a place of the text. -/
theorem Faulty.exists_split (hfaulty : Faulty before text fault) :
    ∃ front rest, text = front ++ rest ∧ fault.pos = placeBehind (before ++ front) := by
  induction hfaulty with
  | @stuck before gap rest => exact ⟨gap, rest, rfl, rfl⟩
  | @token before gap lexeme _ _ _ _ _ _ ih =>
    obtain ⟨front, rest, rfl, hpos⟩ := ih
    exact ⟨gap ++ lexeme ++ front, rest, by simp, by simp [hpos]⟩

end Token

/-! ## Excerpts -/

namespace Source

open Text (unlines)

/-- A text split at its line feeds. -/
def splitLines (text : String) : List String :=
  (text.toList.splitOn '\n').map String.ofList

theorem lines_eq_splitLines (text : String) : Text.lines text = splitLines text := by
  rw [Text.lines, Text.splitAt_eq_splitOn, splitLines]

/-- A line behind its number, with as many blanks in front of the number as it has fewer than
four digits. -/
def numberedLine (number : Nat) (line : String) : String :=
  String.ofList (List.replicate (4 - (toString number).length) ' ') ++ toString number ++
    " | " ++ line

/-- Three carets, behind one blank for each character in front of the place in its row. -/
def caretRow (pos : Position) : String :=
  String.ofList (List.replicate (max 4 (toString pos.line).length + 3 + (pos.column - 1)) ' ') ++
    "^^^"

/-- The lines from two before the place to two behind it, with the carets below its own. -/
def excerptRows (lines : List String) (pos : Position) : List String :=
  ((lines.zipIdx 1).filter fun numbered => max 1 (pos.line - 2) ≤ numbered.2 ∧
      numbered.2 ≤ min lines.length (pos.line + 2)).flatMap fun (line, number) =>
    if number = pos.line then [numberedLine number line, caretRow pos]
    else [numberedLine number line]

example : excerptRows ["Lamp \x7b", "  Go \x7b A -> B \x7d", "\x7d"] ⟨2, 10⟩ =
    ["   1 | Lamp \x7b", "   2 |   Go \x7b A -> B \x7d", "                ^^^", "   3 | \x7d"] := by
  decide +kernel

/-- The line begins in its row where the carets are for the first column. -/
theorem drop_numberedLine (number : Nat) (line : String) :
    (numberedLine number line).toList.drop (max 4 (toString number).length + 3) = line.toList := by
  have hfront : max 4 (toString number).length + 3 =
      (String.ofList (List.replicate (4 - (toString number).length) ' ') ++ toString number ++
        " | ").toList.length := by
    simp only [String.toList_append, String.toList_ofList, List.length_append,
      List.length_replicate, String.length_toList]
    rw [show (" | " : String).length = 3 from rfl]
    omega
  rw [numberedLine, String.toList_append, hfront, List.drop_left]

/-- The first caret stands below the character at the place. -/
theorem drop_idxOf_caret (pos : Position) (line : String) :
    (numberedLine pos.line line).toList.drop ((caretRow pos).toList.idxOf '^') =
      line.toList.drop (pos.column - 1) := by
  have hcaret : (caretRow pos).toList.idxOf '^' =
      max 4 (toString pos.line).length + 3 + (pos.column - 1) := by
    rw [caretRow, String.toList_append, String.toList_ofList, List.idxOf_append_of_notMem (by simp)]
    simp
  rw [hcaret, ← List.drop_drop, drop_numberedLine]

/-- The numbered items between two numbers are what is left of the items when those before and
behind are taken off. -/
theorem filter_zipIdx (items : List α) (start first last : Nat) :
    ((items.zipIdx start).filter fun numbered => first ≤ numbered.2 ∧ numbered.2 ≤ last) =
      ((items.take (last + 1 - start)).drop (first - start)).zipIdx (max first start) := by
  induction items generalizing start with
  | nil => simp
  | cons item items ih =>
    rw [List.zipIdx_cons, List.filter_cons, ih]
    by_cases hlast : start ≤ last
    · rw [show last + 1 - start = last + 1 - (start + 1) + 1 by omega, List.take_succ_cons]
      by_cases hfirst : first ≤ start
      · rw [if_pos (by simp [hfirst, hlast]), show first - start = 0 by omega,
          show first - (start + 1) = 0 by omega, show max first start = start by omega,
          show max first (start + 1) = start + 1 by omega]
        rfl
      · rw [if_neg (by simp [hfirst]), show first - start = first - (start + 1) + 1 by omega,
          show max first start = max first (start + 1) by omega]
        rfl
    · rw [if_neg (by simp [hlast]), show last + 1 - start = 0 by omega,
        show last + 1 - (start + 1) = 0 by omega]
      simp

theorem numberedRows_eq (context : Context) (number : Nat) (rows : List String) :
    context.numberedRows number rows =
      (rows.zipIdx number).flatMap fun (line, number) => context.rows number line := by
  induction rows generalizing number with
  | nil => rfl
  | cons row rest ih =>
    rw [Context.numberedRows, List.zipIdx_cons, List.flatMap_cons]
    exact congrArg _ (ih (number + 1))

/-- The rows for one line, by its number. -/
theorem rows_eq {context : Context} (hleft : 1 ≤ pos.column) (hline : context.line = pos.line)
    (hcolumn : context.column = pos.column) (number : Nat) (shown : String) :
    context.rows number shown =
      if number = pos.line then [numberedLine number shown, caretRow pos]
      else [numberedLine number shown] := by
  have hmargin : Context.margin number ++ shown = numberedLine number shown := rfl
  rw [Context.rows, hline, hmargin]
  by_cases hnumber : number = pos.line
  · subst hnumber
    have hwidth : (Context.margin pos.line).length = max 4 (toString pos.line).length + 3 := by
      rw [Context.margin, Text.padLeft, Text.blanks, String.length_append, String.length_append,
        String.length_ofList, List.length_replicate,
        show toString (pos.line : Int) = toString pos.line from rfl,
        show (" | " : String).length = 3 from rfl]
      omega
    have hcarets : ((Context.margin pos.line).length + context.column - 1).toNat =
        max 4 (toString pos.line).length + 3 + (pos.column - 1) := by
      rw [hwidth, hcolumn]
      omega
    rw [if_pos rfl, if_pos rfl, hcarets]
    rfl
  · rw [if_neg (by exact_mod_cast hnumber), if_neg hnumber]

/-- The lines around the place. -/
def shownLines (lines : List String) (pos : Position) : List String :=
  (lines.take (min lines.length (pos.line + 2))).drop (max 1 (pos.line - 2) - 1)

theorem excerpt_eq (hplace : InLine (Text.lines text) pos line) :
    excerpt text pos.line = unlines (shownLines (Text.lines text) pos) := by
  have hfirst := hplace.first
  rw [excerpt, excerptWithin, slice, if_neg (by simp only [excerptRadius]; omega)]
  simp only [shownLines, excerptRadius]
  congr 3 <;> omega

/-- The line of the place is shown. -/
theorem mem_shownLines (hplace : InLine lines pos line) : line ∈ shownLines lines pos := by
  have hline := hplace.line_le
  have hfirst := hplace.first
  refine List.mem_iff_getElem?.2 ⟨pos.line - max 1 (pos.line - 2), ?_⟩
  rw [shownLines, List.getElem?_drop, List.getElem?_take, if_pos (by omega), ← hplace.there]
  congr 1
  omega

theorem lines_shownLines (hplace : InLine (Text.lines text) pos line) :
    Text.lines (unlines (shownLines (Text.lines text) pos)) =
      shownLines (Text.lines text) pos := by
  refine Text.lines_unlines (List.ne_nil_of_mem (mem_shownLines hplace)) fun row hrow => ?_
  exact Text.newline_not_mem_lines text row (List.mem_of_mem_take (List.mem_of_mem_drop hrow))

/-- Of a text that is not empty, something is shown. -/
theorem unlines_shownLines_ne (hplace : InLine (Text.lines text) pos line) (htext : text ≠ "") :
    unlines (shownLines (Text.lines text) pos) ≠ "" := by
  intro hempty
  have hshown := lines_shownLines hplace
  rw [hempty, show Text.lines "" = [""] from rfl] at hshown
  have hfirst := hplace.first
  have hline := hplace.line_le
  have hlength : (Text.lines text).length = 1 := by
    have hcount := congrArg List.length hshown
    simp only [shownLines, List.length_drop, List.length_take, List.length_singleton] at hcount
    omega
  -- A text of one line is that line.
  have hnone : '\n' ∉ text.toList := by
    rw [Text.lines, List.length_map, Text.length_splitAt] at hlength
    exact List.count_eq_zero.1 (by omega)
  have honly : Text.lines text = [text] := by
    rw [Text.lines, Text.splitAt_of_not_mem hnone, List.map_singleton, String.ofList_toList]
  have hmem : "" ∈ Text.lines text :=
    List.mem_of_mem_take (List.mem_of_mem_drop (hshown ▸ List.mem_singleton_self ""))
  rw [honly, List.mem_singleton] at hmem
  exact htext hmem.symm

theorem numberedRows_shownLines {context : Context} (hleft : 1 ≤ pos.column)
    (hline : context.line = pos.line) (hcolumn : context.column = pos.column)
    (lines : List String) :
    context.numberedRows (max 1 (context.line - excerptRadius)) (shownLines lines pos) =
      excerptRows lines pos := by
  have hfirst : max 1 (context.line - excerptRadius) = (max 1 (pos.line - 2) : Nat) := by
    rw [hline, excerptRadius]
    omega
  have hnumbered : (shownLines lines pos).zipIdx (max 1 (pos.line - 2)) =
      (lines.zipIdx 1).filter fun numbered => max 1 (pos.line - 2) ≤ numbered.2 ∧
        numbered.2 ≤ min lines.length (pos.line + 2) := by
    rw [filter_zipIdx, Nat.add_sub_cancel, max_eq_left (le_max_left 1 _), shownLines]
  rw [hfirst, numberedRows_eq, excerptRows, hnumbered]
  exact List.flatMap_congr fun (shown, number) _ => rows_eq hleft hline hcolumn number shown

/-- The line of the place has its row. -/
theorem mem_excerptRows (hplace : InLine lines pos line) :
    numberedLine pos.line line ∈ excerptRows lines pos := by
  have hfirst := hplace.first
  have hline := hplace.line_le
  have hnumbered : (line, pos.line) ∈ lines.zipIdx 1 :=
    List.mk_mem_zipIdx_iff_le_and_getElem?_sub.2 ⟨hfirst, hplace.there⟩
  refine List.mem_flatMap.2 ⟨_, List.mem_filter.2 ⟨hnumbered, ?_⟩, by simp⟩
  simp only [decide_eq_true_eq]
  omega

/-- An excerpt that is not empty is shown below the header. -/
theorem Context.text_of_excerpt {context : Context} {excerpt : String}
    (hexcerpt : context.excerpt = some excerpt) (hne : excerpt ≠ "") :
    context.text = context.header ++ "\n" ++ context.excerptText excerpt := by
  rw [Context.text, hexcerpt]
  split
  case h_1 hnone => cases hnone
  case h_2 hempty => exact absurd (Option.some.inj hempty) hne
  case h_3 hsome => rw [Option.some.inj hsome]

end Source

/-! ## Reports -/

namespace Reader

open Source
open Token (placeBehind)
open Text (unlines)

variable {file text : String} {fault : Fault} {tokens : List Token} {token : Token}

theorem exists_split_of_token (hscan : Token.scan text = .ok tokens) (htoken : token ∈ tokens) :
    ∃ front rest, text.toList = front ++ rest ∧ token.pos = placeBehind front := by
  obtain ⟨front, rest, htext, hpos, -⟩ := (Token.lexed_of_scan hscan).exists_split htoken
  exact ⟨front, token.text.toList ++ rest, by rw [htext, List.append_assoc], hpos⟩

/-- A fault of scanning is where the text is stuck, and one of reading is at a token. -/
theorem exists_split_of_read (hread : read file text = .error fault) :
    ∃ front rest, text.toList = front ++ rest ∧ fault.pos = placeBehind front := by
  unfold read at hread
  split at hread
  case h_1 tokens hscan =>
    obtain ⟨before, token, after, state, rfl, hopen, hbefore, hstep⟩ :=
      exists_step_of_readTokens hscan hread
    cases located_of_step hbefore hopen hstep with
    | between => exact exists_split_of_token hscan (by simp)
    | within => exact exists_split_of_token hscan (by simp)
    | empty hinner =>
      subst hinner
      exact exists_split_of_token hscan (by simp)
  case h_2 scanFault hscan =>
    cases hread
    exact (Token.faulty_of_scan hscan).exists_split

theorem name_ne_empty (hscan : Token.scan text = .ok tokens) (htoken : token ∈ tokens)
    (hkind : token.kind = .identifier) : token.text ≠ "" := by
  obtain ⟨_, _, -, -, hend | hlexeme⟩ := (Token.lexed_of_scan hscan).exists_split htoken
  · rw [hkind] at hend
    cases hend
  · intro hempty
    exact hlexeme.used_ne_nil (by simp [hempty])

/-- The machine of a fault has a name. -/
theorem machine_ne_empty (hread : read file text = .error fault) {machine : String}
    (hmachine : fault.machine = some machine) : machine ≠ "" := by
  unfold read at hread
  split at hread
  case h_1 tokens hscan =>
    obtain ⟨before, token, after, state, rfl, hopen, hbefore, hstep⟩ :=
      exists_step_of_readTokens hscan hread
    cases located_of_step hbefore hopen hstep with
    | between => cases hmachine
    | within hinner _ hblock =>
      cases hmachine
      exact name_ne_empty hscan (by simp [hinner]) hblock.named
    | empty hinner _ hblock =>
      cases hmachine
      exact name_ne_empty hscan (by simp [hinner]) hblock.named
  case h_2 =>
    cases hread
    cases hmachine

/-- There is nothing wrong with the empty text. -/
theorem text_ne_empty (hread : read file text = .error fault) : text ≠ "" := by
  rintro rfl
  have hscan : Token.scan "" = .ok [Token.endAt .start] := by
    rw [Token.scan, String.toList_empty, Token.scanFrom]
  have hempty : read file "" = .ok [] := by
    rw [read, hscan]
    rfl
  rw [hempty] at hread
  cases hread

/-- The place of a fault, and the machine if it belongs to one. -/
def Fault.place (file : String) (fault : Fault) : String :=
  s!"{file}:{fault.pos.line}:{fault.pos.column}" ++
    match fault.machine with
    | none => ""
    | some machine => s!" in machine {machine}"

theorem header_eq {context : Context} (hline : context.line = fault.pos.line)
    (hcolumn : context.column = fault.pos.column) (hmachine : context.machine = fault.machine)
    (hname : ∀ machine, fault.machine = some machine → machine ≠ "") :
    context.header = fault.place context.file := by
  rw [Context.header, Fault.place, hline, hcolumn, hmachine]
  split
  case h_1 hnone =>
    rw [hnone]
    exact (String.append_empty ..).symm
  case h_2 hempty => exact absurd rfl (hname _ hempty)
  case h_3 hsome =>
    rw [hsome]
    exact String.append_assoc ..

/-- A fault is at a place in one of the lines of the text. Its report has the place, the lines
around it, each behind its number, and the message. Directly below the line of the place, and
nowhere else, stand carets, and the first of them is below the character at the place. -/
theorem report_shows_place (hread : read file text = .error fault) :
    (∃ line, InLine (splitLines text) fault.pos line ∧
      (numberedLine fault.pos.line line).toList.drop ((caretRow fault.pos).toList.idxOf '^') =
        line.toList.drop (fault.pos.column - 1)) ∧
      fault.pos.line ≤ (splitLines text).length ∧
      (fault.report file (some text)).text = "\n".intercalate
        (fault.place file :: excerptRows (splitLines text) fault.pos ++
          [fault.cause.message]) := by
  obtain ⟨front, rest, htext, hpos⟩ := exists_split_of_read hread
  obtain ⟨line, hplace⟩ := exists_inLine_placeBehind htext
  rw [← hpos] at hplace
  rw [← lines_eq_splitLines]
  refine ⟨⟨line, hplace, drop_idxOf_caret fault.pos line⟩, hplace.line_le, ?_⟩
  let context : Context := ⟨file, fault.pos.line, fault.pos.column,
    some (unlines (shownLines (Text.lines text) fault.pos)), fault.machine⟩
  have hcontext : (fault.report file (some text)).text =
      context.text ++ "\n" ++ fault.cause.message := by
    rw [Fault.report, Option.map_some, excerpt_eq hplace]
    rfl
  have hheader : context.header = fault.place file :=
    header_eq rfl rfl rfl fun _ hmachine => machine_ne_empty hread hmachine
  have hrows := List.ne_nil_of_mem (mem_excerptRows hplace)
  rw [hcontext, Context.text_of_excerpt rfl (unlines_shownLines_ne hplace (text_ne_empty hread)),
    Context.excerptText, lines_shownLines hplace, numberedRows_shownLines hplace.left rfl rfl,
    hheader, ← unlines, List.cons_append, Text.unlines_cons _ (by simp),
    Text.unlines_append hrows (by simp), Text.unlines_singleton]
  simp only [String.append_assoc]

/-- The last line of a text that ends with a line feed is empty. A block that is still open there
is reported at the first column of that line. -/
theorem report_of_open_block :
    ∃ fault, read "m.sm" "M \x7b\n" = .error fault ∧ fault.pos = ⟨2, 1⟩ ∧
      (∃ line, InLine (splitLines "M \x7b\n") fault.pos line ∧
        (numberedLine fault.pos.line line).toList.drop ((caretRow fault.pos).toList.idxOf '^') =
          line.toList.drop (fault.pos.column - 1)) ∧
      fault.pos.line ≤ (splitLines "M \x7b\n").length ∧
      (fault.report "m.sm" (some "M \x7b\n")).text = "\n".intercalate
        (fault.place "m.sm" :: excerptRows (splitLines "M \x7b\n") fault.pos ++
          [fault.cause.message]) ∧
      fault.place "m.sm" :: excerptRows (splitLines "M \x7b\n") fault.pos =
        ["m.sm:2:1 in machine M", "   1 | M \x7b", "   2 | ", "       ^^^"] := by
  let fault : Fault := ⟨.noBlock "M" (Token.endAt ⟨2, 1⟩), ⟨2, 1⟩, some "M"⟩
  have hread : read "m.sm" "M \x7b\n" = .error fault := by decide +kernel
  obtain ⟨hplace, hline, htext⟩ := report_shows_place hread
  exact ⟨fault, hread, rfl, hplace, hline, htext, by decide +kernel⟩

end Reader

end FsmCompiler
