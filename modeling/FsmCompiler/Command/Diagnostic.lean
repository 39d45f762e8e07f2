/-
# Diagnostics for editors

Findings in the form that editors read: file, line, column, severity and message
in one line, the file as seen from the project. What has no place of its own is
put at the top of the manifest.
-/

import FsmCompiler.Path
import FsmCompiler.Project.Manifest
import FsmCompiler.Source.Excerpt
import FsmCompiler.Text.Numeral

namespace FsmCompiler.Diagnostic

/-- How bad a finding is. -/
inductive Severity
  | error
  | warning
  deriving DecidableEq, Repr

/-- The word for a severity. -/
def Severity.word : Severity → String
  | error => "error"
  | warning => "warning"

/-- Decimal digits between two colons at the head of a text, and what follows the second
colon. -/
def numberBetweenColons : List Char → Option (List Char × List Char)
  | ':' :: rest =>
    let digits := rest.takeWhile Text.isDecimal
    match rest.dropWhile Text.isDecimal with
    | ':' :: after => if digits.isEmpty then none else some (digits, after)
    | _ => none
  | _ => none

/-- A line and a column behind a file name, and the message behind them. -/
structure Located where
  line : List Char
  column : List Char
  message : List Char
  deriving DecidableEq, Repr

/-- The line, column and message at the head of a text. -/
def Located.ofChars? (text : List Char) : Option Located := do
  let (line, rest) ← numberBetweenColons text
  let (column, rest) ← numberBetweenColons (':' :: rest)
  match rest with
  | ' ' :: message => return ⟨line, column, message⟩
  | _ => none

/-- The file name before the first line and column in a text, and these. The name
has at least one character. -/
def splitLocated : List Char → Option (List Char × Located)
  | [] => none
  | c :: rest =>
    match Located.ofChars? rest with
    | some located => some ([c], located)
    | none => (splitLocated rest).map fun (file, located) => (c :: file, located)

/-- The text of a finding for an editor. -/
def line (root : Path) (severity : Severity) (finding : String) : String :=
  match splitLocated finding.toList with
  | none => s!"{Project.Manifest.fileName}:1:1: {severity.word}: {finding}"
  | some (file, located) =>
    let path := Path.relativeTo root (Path.ofString (String.ofList file))
    s!"{path.text}:{String.ofList located.line}:{String.ofList located.column}: " ++
      s!"{severity.word}: {String.ofList located.message}"

/-- The text of a report for an editor. -/
def reportLine (root : Path) (report : Source.Report) : String :=
  match report.context with
  | none => s!"::error: {report.message}"
  | some context =>
    let path := Path.relativeTo root (Path.ofString context.file)
    s!"{path.text}:{context.line}:{context.column}: error: {report.message}"

end FsmCompiler.Diagnostic
