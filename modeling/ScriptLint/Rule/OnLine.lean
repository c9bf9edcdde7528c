import ScriptLint.Delimiter
import ScriptLint.Diagnostic.Catalog
import ScriptLint.Rule.Clause
import ScriptLint.Rule.Declaration
import ScriptLint.Rule.Layout
import ScriptLint.Rule.Literal
import ScriptLint.Rule.Match
import ScriptLint.Rule.Numeral
import ScriptLint.Rule.Pipeline
import ScriptLint.Rule.Property

/-!
# Rules for lines

A line rule is evaluated once for each line and reports columns of that line, all of one kind (§3 and
§4 of `SPEC_FULL.md`). Two rules need more than the line itself: whether a match expression is closed
depends on the lines that follow, and the bounds of a range may have too many digits to be compared.
`LineRule.findings` is what a rule has to tell about a line, in order, and `LineRule.run` places it in
the document. Only there are the columns checked.
-/

namespace ScriptLint

/-- A finding of a line rule: columns of the line and, if it is not the usual one, the message. -/
structure Finding where
  columns : Columns
  message : Option String := none
  deriving DecidableEq, Repr

/-- The finding as a diagnostic on the line at an index, if its columns make a range there. -/
def Finding.place (finding : Finding) (spec : Spec) (index : Int) : Except Fault Diagnostic := do
  let range ← Range.ofColumns index finding.columns
  return spec.at range finding.message

/-- The rules that look at one line at a time. -/
inductive LineRule where
  | loneBar
  | danglingPipe
  | unclosedMatch
  | armWithoutPattern
  | queryVariable
  | queryWithoutSelect
  | operatorOverload
  | functionName
  | arrowWithoutBody
  | mixedIndentation
  | unclosedString
  | leadingDigit
  | redundantSemicolon
  | structName
  | emptyProperty
  | backwardRange
  | withContext
  deriving DecidableEq, Repr

namespace LineRule

/-- The kind of finding that a rule reports. -/
def spec : LineRule → Spec
  | .loneBar => .loneBar
  | .danglingPipe => .danglingPipe
  | .unclosedMatch => .unclosedMatch
  | .armWithoutPattern => .armWithoutPattern
  | .queryVariable => .queryVariable
  | .queryWithoutSelect => .queryWithoutSelect
  | .operatorOverload => .operatorOverload
  | .functionName => .functionName
  | .arrowWithoutBody => .arrowWithoutBody
  | .mixedIndentation => .mixedIndentation
  | .unclosedString => .unclosedString
  | .leadingDigit => .leadingDigit
  | .redundantSemicolon => .redundantSemicolon
  | .structName => .structName
  | .emptyProperty => .emptyProperty
  | .backwardRange => .backwardRange
  | .withContext => .withContext

/-- The name of the leftmost declaration of a form, if it is not acceptable. -/
def badName? (form : Form) (acceptable : List Char → Bool) (line : Line) : Option Span :=
  match form.declared? line with
  | some (span, name) => if acceptable name then none else some span
  | none => none

/-- The message about an operator that cannot be overloaded (§4.4). -/
def overloadMessage (symbol : List Char) : String :=
  "Invalid operator \"" ++ String.ofList symbol ++ "\" for overloading. Valid operators: " ++
    ", ".intercalate overloadable

/-- The operator of the leftmost operator declaration, if it cannot be overloaded. -/
def badOperator? (line : Line) : Option Finding :=
  match Form.operator.declared? line with
  | some (span, symbol) =>
    if overloadable.contains (String.ofList symbol) then none
    else some ⟨span.columns, some (overloadMessage symbol)⟩
  | none => none

/-- The line with a literal that it does not close; a template literal has a message of its own. -/
def unclosedLiteral? (line : Line) : Option Finding :=
  (Quote.unclosed? line).map fun quote =>
    { columns := (Span.wholeLine line.length).columns
      message := if quote = .backtick then some "Unclosed template literal." else none }

/-- The keyword of the leftmost match head, if no line of the document closes its block. -/
def openMatch (line : Line) (index : Int) (document : Document) : List (Except Fault Finding) :=
  match Match.head? line with
  | none => []
  | some span =>
    match document.blockClose .braces index with
    | .error fault => [.error fault]
    | .ok (some _) => []
    | .ok none => [.ok ⟨span.columns, none⟩]

/-- A range that does not ascend, or whose bounds cannot be read. -/
def judgeRange (found : Nat × RangeToken) : Option (Except Fault Finding) :=
  match found.2.isBackward with
  | .error fault => some (.error fault)
  | .ok false => none
  | .ok true => some (.ok ⟨(Span.mk found.1 found.2.width).columns, none⟩)

/-- Findings that are there for sure, with the usual message. -/
def certain (found : List Columns) : List (Except Fault Finding) :=
  found.map fun columns => .ok ⟨columns, none⟩

/-- Spans that are found for sure. -/
def spans (found : List Span) : List (Except Fault Finding) := certain (found.map Span.columns)

/-- What a rule finds in a line at an index of a document, from left to right. Where a finding
cannot be told, the fault stands in its place. -/
def findings (rule : LineRule) (line : Line) (index : Int) (document : Document) :
    List (Except Fault Finding) :=
  match rule with
  | .loneBar => spans (Pipeline.loneBars line)
  | .danglingPipe => certain (Pipeline.dangling? line).toList
  | .unclosedMatch => openMatch line index document
  | .armWithoutPattern =>
    spans (if Match.startsWithArrow line then [.wholeLine line.length] else [])
  | .queryVariable => spans (badName? .query isIdentifier line).toList
  | .queryWithoutSelect => spans (Clause.unselected? line).toList
  | .operatorOverload => (badOperator? line).toList.map .ok
  | .functionName => spans (badName? .function isIdentifier line).toList
  | .arrowWithoutBody => certain (Layout.bodilessArrow? line).toList
  | .mixedIndentation => certain (Layout.mixedIndent? line).toList
  | .unclosedString => (unclosedLiteral? line).toList.map .ok
  | .leadingDigit => spans (digitLedWords line)
  | .redundantSemicolon => certain (Layout.redundantSemicolon? line).toList
  | .structName => spans (badName? .struct isPascalCase line).toList
  | .emptyProperty => spans (Property.emptyBlocks line)
  | .backwardRange => (RangeToken.tokens line).filterMap judgeRange
  | .withContext => spans (Clause.unusedWith? line).toList

/-- The diagnostics of a rule for a line, which it takes to be the one at `index` in the document.
Findings are placed one after the other, and the first fault ends the run. -/
def run (rule : LineRule) (line : Line) (index : Int) (document : Document) :
    Except Fault (List Diagnostic) :=
  (rule.findings line index document).mapM fun finding => do
    (← finding).place rule.spec index

end LineRule

end ScriptLint
