import FsmCompiler.Binary64
import FsmCompiler.Binary64.Shortest
import FsmCompiler.Command.Arguments
import FsmCompiler.Command.Diagnostic
import FsmCompiler.Command.Overview
import FsmCompiler.Command.Run
import FsmCompiler.Datum
import FsmCompiler.Datum.Json
import FsmCompiler.Datum.Json.Line
import FsmCompiler.Datum.Json.Reader
import FsmCompiler.Distinct
import FsmCompiler.FileTree
import FsmCompiler.Journal
import FsmCompiler.Journal.Building
import FsmCompiler.Machine
import FsmCompiler.Machine.Derived
import FsmCompiler.Machine.Dispatch
import FsmCompiler.Machine.Naming
import FsmCompiler.Machine.Reachability
import FsmCompiler.Machine.Reader
import FsmCompiler.Machine.Serialized
import FsmCompiler.Machine.TypeText
import FsmCompiler.Magnitude
import FsmCompiler.Main
import FsmCompiler.Module.Basic
import FsmCompiler.Module.Text
import FsmCompiler.Package.Rendering
import FsmCompiler.Package.Writing
import FsmCompiler.Path
import FsmCompiler.Project.Manifest
import FsmCompiler.Project.Sources
import FsmCompiler.Running.Dispatch
import FsmCompiler.Running.EventClass
import FsmCompiler.Running.Hook
import FsmCompiler.Running.Label
import FsmCompiler.Running.Loading
import FsmCompiler.Running.Machine
import FsmCompiler.Running.ScriptedHook
import FsmCompiler.Running.Surface
import FsmCompiler.Schema
import FsmCompiler.Source.Excerpt
import FsmCompiler.Source.Location
import FsmCompiler.Table
import FsmCompiler.Target.Bracket
import FsmCompiler.Target.Escape
import FsmCompiler.Target.Expression
import FsmCompiler.Target.Lexeme
import FsmCompiler.Target.Signature
import FsmCompiler.Target.Template
import FsmCompiler.Text.BoxTable
import FsmCompiler.Text.Casing
import FsmCompiler.Text.CellWidth
import FsmCompiler.Text.CharacterName
import FsmCompiler.Text.CharacterName.Alias
import FsmCompiler.Text.CharacterName.From0000
import FsmCompiler.Text.CharacterName.From1000
import FsmCompiler.Text.CharacterName.From10000
import FsmCompiler.Text.CharacterName.From12000
import FsmCompiler.Text.CharacterName.From18B00
import FsmCompiler.Text.CharacterName.From1D000
import FsmCompiler.Text.CharacterName.From1F000
import FsmCompiler.Text.CharacterName.From2000
import FsmCompiler.Text.CharacterName.From3000
import FsmCompiler.Text.CharacterName.Table
import FsmCompiler.Text.CodeTable
import FsmCompiler.Text.Compatible
import FsmCompiler.Text.Compatible.CombiningClass
import FsmCompiler.Text.Compatible.Composition
import FsmCompiler.Text.Compatible.Decomposition
import FsmCompiler.Text.Console
import FsmCompiler.Text.Hexadecimal
import FsmCompiler.Text.Identifier
import FsmCompiler.Text.Letter
import FsmCompiler.Text.Line
import FsmCompiler.Text.Numeral
import FsmCompiler.Text.Printable
import FsmCompiler.Text.Quoted
import FsmCompiler.Text.RangeTable
import FsmCompiler.Text.Unstyled
import FsmCompiler.Text.Utf8
import FsmCompiler.Token
import FsmCompiler.Token.Scan
import FsmCompiler.Toml.Document
import FsmCompiler.Toml.Number
import FsmCompiler.Toml.Quoted
import FsmCompiler.Toml.Section
import FsmCompiler.Validation.Finding
import FsmCompiler.Validation.Lint
import FsmCompiler.Validation.Machine
import FsmCompiler.Proofs.Checking
import FsmCompiler.Proofs.Concatenation
import FsmCompiler.Proofs.Conformance
import FsmCompiler.Proofs.Coverage
import FsmCompiler.Proofs.DeclaredPlaces
import FsmCompiler.Proofs.Definitions
import FsmCompiler.Proofs.DerivedSets
import FsmCompiler.Proofs.Diagnostics
import FsmCompiler.Proofs.Discovery
import FsmCompiler.Proofs.Dispatching
import FsmCompiler.Proofs.Encoding
import FsmCompiler.Proofs.FirstWrong
import FsmCompiler.Proofs.Generation
import FsmCompiler.Proofs.Grammar
import FsmCompiler.Proofs.HookHistory
import FsmCompiler.Proofs.LoadedTexts
import FsmCompiler.Proofs.NameCapture
import FsmCompiler.Proofs.Packaging
import FsmCompiler.Proofs.PlainTags
import FsmCompiler.Proofs.Reachability
import FsmCompiler.Proofs.ReadBack
import FsmCompiler.Proofs.Reading
import FsmCompiler.Proofs.Recognition
import FsmCompiler.Proofs.ReorderedRuns
import FsmCompiler.Proofs.Reports
import FsmCompiler.Proofs.Rewriting
import FsmCompiler.Proofs.Scanning
import FsmCompiler.Proofs.TypeTokens
