import ScriptLint.Main
import ScriptLint.Workspace
import ScriptLint.Proofs.Rule.Spans
import ScriptLint.Proofs.Fault
import ScriptLint.Proofs.Scan.Report
import ScriptLint.Proofs.Scan.Containment
import ScriptLint.Proofs.Diagnostic.Order
import ScriptLint.Proofs.Scan.Selection
import ScriptLint.Proofs.Rule.Metadata
import ScriptLint.Proofs.Scan.Outcome
import ScriptLint.Proofs.Value.Register
import ScriptLint.Proofs.Workspace.Newest
import ScriptLint.Proofs.Text.Document
import ScriptLint.Proofs.Scan.Composition
import ScriptLint.Proofs.Scan.Marks
import ScriptLint.Proofs.Workspace.Effect
import ScriptLint.Proofs.Workspace.InStep
import ScriptLint.Proofs.Workspace.Independence
import ScriptLint.Proofs.Workspace.Refusal
import ScriptLint.Proofs.Delimiter
import ScriptLint.Proofs.Scan.MatchClosure
import ScriptLint.Proofs.Diagnostic.Rendering
import ScriptLint.Proofs.Scan.Distinct
import ScriptLint.Proofs.Batch.File
import ScriptLint.Proofs.Batch.Report
import ScriptLint.Proofs.Rule.MatchHead
import ScriptLint.Proofs.Rule.Literal
import ScriptLint.Proofs.Text.Runs
import ScriptLint.Proofs.Rule.RangeTokens
import ScriptLint.Proofs.Rule.PropertyBlocks
import ScriptLint.Proofs.Rule.Declarations
import ScriptLint.Proofs.Text.Occurrences
import ScriptLint.Proofs.Rule.Bars
import ScriptLint.Proofs.Rule.DigitLed
import ScriptLint.Proofs.Rule.Balance
import ScriptLint.Proofs.Rule.Edges
import ScriptLint.Proofs.Text.Range
import ScriptLint.Proofs.Text.LineEnd
import ScriptLint.Proofs.Text.Numeral
import ScriptLint.Proofs.Scan.Settings
