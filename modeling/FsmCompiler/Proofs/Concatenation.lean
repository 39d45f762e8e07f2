/-
# Reading one text behind another

A text that is read without a fault leaves nothing behind: no comment, no string, no machine
and no block is open at its end. What is read from a text in the lines below it is what the
text alone declares, so many lines further down, and a fault of that text is the fault of the
whole, so many lines further down.
-/

import FsmCompiler.Proofs.Cutting
import FsmCompiler.Proofs.Leading
import FsmCompiler.Proofs.Relocation

namespace FsmCompiler

open Source (Position Location)

/-- The position so many lines further down. -/
def Source.Position.down (lines : Nat) (p : Position) : Position := ⟨p.line + lines, p.column⟩

/-- The place so many lines further down. -/
def Source.Location.down (lines : Nat) (loc : Location) : Location :=
  ⟨loc.file, loc.line + lines, loc.column⟩

/-! ## Tokens further down -/

namespace Token

variable {pos : Position} {text : List Char} {lines : Nat}

theorem after_down : (pos.down lines).after text = (pos.after text).down lines := by
  induction text generalizing pos with
  | nil => rfl
  | cons c rest ih =>
    have hnext : (pos.down lines).next c = (pos.next c).down lines := by
      unfold Position.next
      split
      · simp [Position.down, Nat.add_right_comm]
      · rfl
    rw [Position.after_cons, Position.after_cons, hnext, ih]

/-- What is scanned further down is what is scanned, further down. -/
theorem scanFrom_down (pos : Position) (text : List Char) :
    scanFrom (pos.down lines) text =
      match scanFrom pos text with
      | .ok tokens => .ok (tokens.map (·.relocate (·.down lines)))
      | .error fault => .error ⟨fault.cause, fault.pos.down lines⟩ := by
  induction hlength : text.length using Nat.strongRecOn generalizing pos text with
  | ind length ih =>
    subst hlength
    cases text with
    | nil =>
      rw [scanFrom, scanFrom]
      rfl
    | cons c rest =>
      rw [scanFrom_cons, scanFrom_cons]
      cases hpiece : Piece.first c rest with
      | error cause => rfl
      | ok piece =>
        have hlater := ih _ (by simpa using Piece.length_rest_lt hpiece) (pos.after piece.used)
          piece.rest rfl
        dsimp only
        rw [after_down, hlater]
        cases hkind : piece.kind with
        | none => rfl
        | some kind => cases scanFrom (pos.after piece.used) piece.rest <;> rfl

/-- In the line below a text, counting lines starts anew. -/
theorem after_line_of_start :
    (Position.start.after text).after ['\n'] = Position.start.down (text.count '\n' + 1) := by
  rw [after_start]
  simp [placeBehind, Position.next, Position.down, Position.start, Nat.add_comm]

/-- The tokens of a text and of the text in the lines below it. -/
theorem scan_append {first : String} {tokens : List Token} (hscan : scan first = .ok tokens)
    (second : String) :
    ∃ front ending, tokens = front ++ [ending] ∧ ending.kind = .endOfInput ∧
      scan (first ++ "\n" ++ second) =
        (scanFrom (Position.start.down (first.toList.count '\n' + 1)) second.toList).map
          (front ++ ·) := by
  obtain ⟨front, hcut, rfl⟩ := scanFrom_eq_ok_iff_cut.1 hscan
  refine ⟨front, _, rfl, rfl, ?_⟩
  have htext : (first ++ "\n" ++ second).toList = first.toList ++ ['\n'] ++ second.toList := by
    rw [String.toList_append, String.toList_append]
    rfl
  have hline : Filler ['\n'] second.toList := .blank (by simp)
  have hbefore : Cut .start first.toList (['\n'] ++ second.toList) front := hcut.before_line
  rw [scan, htext, List.append_assoc, hbefore.scanFrom_append, scanFrom_filler_append hline,
    after_line_of_start]

end Token

/-! ## Machines further down -/

namespace Reader

variable {file : String} {tokens front : List Token} {machines : List Machine} {ending : Token}

/-- Before the end of the input, all machines are complete. -/
theorem leads_front_of_readTokens (hread : readTokens file (front ++ [ending]) = .ok machines)
    (hending : ending.kind = .endOfInput) : Leads file .start front (.between machines) := by
  unfold readTokens at hread
  split at hread
  · rename_i final hrun
    cases hread
    exact (leads_of_run_ending hending hrun).1
  · cases hread

theorem down_inFile {lines : Nat} {p : Position} :
    (p.inFile file).down lines = (p.down lines).inFile file := by
  simp [Position.inFile, Position.down, Location.down]

/-- Behind complete machines, reading goes on as if nothing were before. -/
theorem readTokens_append {lines : Nat} (hfront : Leads file .start front (.between machines)) :
    readTokens file (front ++ tokens.map (·.relocate (·.down lines))) =
      match readTokens file tokens with
      | .ok later => .ok (machines ++ later.map (·.relocate (Option.map (·.down lines))))
      | .error fault => .error (fault.relocate (·.down lines)) := by
  have hplaces : ∀ p : Position, Option.map (·.down lines) (some (p.inFile file)) =
      some ((p.down lines).inFile file) := fun p => congrArg some down_inFile
  have hstart : State.start.relocate (·.down lines) (Option.map (·.down lines)) machines =
      .between machines := by
    simp [State.start, State.relocate]
  have hrun : run file (.between machines) (tokens.map (·.relocate (·.down lines))) =
      relocateRun (·.down lines) (Option.map (·.down lines)) machines
        (run file .start tokens) := by
    rw [← hstart]
    exact run_relocate hplaces
  unfold readTokens
  rw [run_append hfront, hrun]
  cases run file .start tokens with
  | mk final found =>
    cases found with
    | some fault => rfl
    | none => cases final <;> rfl

/-- Reading is a homomorphism. Behind a text that is read without a fault and a line end, a
text is read exactly if it is read alone. The machines are those of the first text and then
those of the second, as many lines further down as the first text and the line end take up;
and a fault says what the fault of the second text says, so many lines further down. -/
theorem read_append_line {file first second : String} {machines : List Machine}
    (hfirst : read file first = .ok machines) :
    let lines := first.toList.count '\n' + 1
    ((∃ all, read file (first ++ "\n" ++ second) = .ok all) ↔
        ∃ later, read file second = .ok later) ∧
      (∀ later, read file second = .ok later →
        read file (first ++ "\n" ++ second) =
          .ok (machines ++ later.map (·.relocate (Option.map (·.down lines))))) ∧
      ∀ fault, read file second = .error fault →
        ∃ moved, read file (first ++ "\n" ++ second) = .error moved ∧
          moved.cause.message = fault.cause.message ∧ moved.machine = fault.machine ∧
          moved.pos.line = fault.pos.line + lines ∧ moved.pos.column = fault.pos.column := by
  intro lines
  obtain ⟨tokens, hscan, hread⟩ := read_eq_ok_iff.1 hfirst
  obtain ⟨front, ending, rfl, hending, happend⟩ := Token.scan_append hscan second
  have hfront := leads_front_of_readTokens hread hending
  have hwhole : read file (first ++ "\n" ++ second) =
      match read file second with
      | .ok later => .ok (machines ++ later.map (·.relocate (Option.map (·.down lines))))
      | .error fault => .error (fault.relocate (·.down lines)) := by
    unfold read
    rw [happend, Token.scanFrom_down, Token.scan]
    cases Token.scanFrom .start second.toList with
    | ok later => exact readTokens_append hfront
    | error fault => rfl
  rw [hwhole]
  cases read file second with
  | ok later => simp
  | error fault => simp [Fault.relocate, Position.down]

/-- A lamp, and a lamp that is not opened, in the line below a comment that ends a text of two
lines. -/
theorem read_lamp_below :
    read "m" "A { States { X } }\n# two" = .ok
        [⟨"A", [], [⟨"X", some ⟨"m", 1, 14⟩⟩], [], [], some ⟨"m", 1, 1⟩⟩] ∧
      read "m" ("A { States { X } }\n# two" ++ "\n" ++ "B { States { Y } }") = .ok
        [⟨"A", [], [⟨"X", some ⟨"m", 1, 14⟩⟩], [], [], some ⟨"m", 1, 1⟩⟩,
          ⟨"B", [], [⟨"Y", some ⟨"m", 3, 14⟩⟩], [], [], some ⟨"m", 3, 1⟩⟩] ∧
      ∃ moved, read "m" ("A { States { X } }\n# two" ++ "\n" ++ "B \x7d") = .error moved ∧
        moved.cause.message = "Expected '\x7b' to open machine 'B', got '\x7d'" ∧
        moved.machine = some "B" ∧ moved.pos.line = 3 ∧ moved.pos.column = 3 := by
  have hfirst : read "m" "A { States { X } }\n# two" = .ok
      [⟨"A", [], [⟨"X", some ⟨"m", 1, 14⟩⟩], [], [], some ⟨"m", 1, 1⟩⟩] := by decide +kernel
  have hsecond : read "m" "B { States { Y } }" = .ok
      [⟨"B", [], [⟨"Y", some ⟨"m", 1, 14⟩⟩], [], [], some ⟨"m", 1, 1⟩⟩] := by decide +kernel
  let fault : Fault :=
    ⟨.expected .leftBrace (.machineBody "B") ⟨.rightBrace, "\x7d", ⟨1, 3⟩⟩, ⟨1, 3⟩, some "B"⟩
  have hfault : read "m" "B \x7d" = .error fault := by decide +kernel
  refine ⟨hfirst, ?_, (read_append_line hfirst).2.2 _ hfault⟩
  rw [(read_append_line hfirst).2.1 _ hsecond]
  rfl

end Reader

end FsmCompiler
