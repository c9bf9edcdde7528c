import ScriptLint.Text.Line
import ScriptLint.Text.Range

/-!
# Pipelines

The pipeline operator is written `|>`. A bar in front of any other character is taken for a mistyped
operator, also where two bars mean the Boolean one, and a line that ends in the operator is taken to
have lost what follows it. These are the rules `PipelineInvalidOperatorRule` and
`PipelineMissingContinuationRule` (§4.1 of `SPEC_FULL.md`, `LINT_PIPELINE_*`).
-/

namespace ScriptLint.Pipeline

/-- Reads a bar and the character after it, which is not the one that makes them the operator. -/
def loneBar : Reader Unit
  | _, '|' :: c :: _ => if c = '>' then none else some ()
  | _, _ => none

/-- The bars of a line that begin no pipeline operator, each with the character after it
(`LINT_PIPELINE_INVALID_OPERATOR`). -/
def loneBars (line : Line) : List Span :=
  (Line.findAll (fun _ => 2) loneBar line).map fun found => ⟨found.1, 2⟩

/-- The pipeline operator. -/
def operator : List Char := ['|', '>']

/-- The last operator of a line that ends in one, up to the line's end
(`LINT_PIPELINE_MISSING_CONTINUATION`). -/
def dangling? (line : Line) : Option Columns :=
  if operator.isSuffixOf (Line.trim line) then some ⟨Line.lastColumn operator line, line.length⟩
  else none

end ScriptLint.Pipeline
