import ScriptLint.Rule.OnDocument
import ScriptLint.Rule.OnLine

/-!
# Lists of rules

A scan is given its rules as two lists. A rule is listed with metadata that says how it is to be
presented and trusted; the metadata can be changed, and is checked before a scan, but what the rule
reports does not depend on it (§3 and §7 of `SPEC_FULL.md`).
-/

namespace ScriptLint

/-- What is said about a rule. -/
structure Metadata where
  code : String
  name : String
  /-- The group that the rule is listed in. -/
  category : String
  /-- What the rule is concerned with: correctness, suspicious code or style. -/
  domain : String
  /-- How sure its findings are: by policy or by a heuristic. -/
  confidence : String
  /-- What the rule is evaluated on: a line or a document. -/
  scope : String
  deriving DecidableEq, Repr

namespace Metadata

/-- What a rule may be concerned with. -/
def domains : List String := ["correctness", "suspicious", "style"]

/-- How sure the findings of a rule may be. -/
def confidences : List String := ["policy", "heuristic"]

/-- What the codes of rules begin with. -/
def codePrefix : List Char := ['L', 'I', 'N', 'T', '_']

/-- The first defect that metadata has for a rule that is to be evaluated on `scope`. -/
def defect? (m : Metadata) (scope : String) : Option RuleDefect :=
  if m.domain ∉ domains then some (.domain m.domain)
  else if m.confidence ∉ confidences then some (.confidence m.confidence)
  else if m.scope ≠ scope then some (.scope m.scope scope)
  else if codePrefix.isPrefixOf m.code.toList then none
  else some (.code m.code)

/-- Checks the metadata of rules that are to be evaluated on `scope`, in the order of the list. -/
def validate (scope : String) : List Metadata → Except Fault Unit
  | [] => .ok ()
  | m :: rest =>
    match m.defect? scope with
    | some defect => .error (.invalidRule m.name defect)
    | none => validate scope rest

end Metadata

/-- A rule of either kind. -/
inductive Rule where
  | line (rule : LineRule)
  | document (rule : DocumentRule)
  deriving DecidableEq, Repr

namespace LineRule

/-- The rules for lines, by category, code and name. -/
def all : List LineRule :=
  [.functionName, .arrowWithoutBody, .queryVariable, .queryWithoutSelect, .armWithoutPattern,
    .unclosedMatch, .operatorOverload, .loneBar, .danglingPipe, .mixedIndentation,
    .redundantSemicolon, .structName, .emptyProperty, .backwardRange, .leadingDigit,
    .unclosedString, .withContext]

/-- The title that a rule is chosen by. -/
def title : LineRule → String
  | .loneBar => "PipelineInvalidOperatorRule"
  | .danglingPipe => "PipelineMissingContinuationRule"
  | .unclosedMatch => "MatchUnclosedRule"
  | .armWithoutPattern => "MatchArmMissingPatternRule"
  | .queryVariable => "LinqInvalidVariableRule"
  | .queryWithoutSelect => "LinqMissingSelectRule"
  | .operatorOverload => "OperatorInvalidOverloadRule"
  | .functionName => "FunctionInvalidNameRule"
  | .arrowWithoutBody => "FunctionMissingArrowBodyRule"
  | .mixedIndentation => "MixedIndentationRule"
  | .unclosedString => "UnclosedStringRule"
  | .leadingDigit => "LeadingDigitIdentifierRule"
  | .redundantSemicolon => "RedundantSemicolonRule"
  | .structName => "StructNameRule"
  | .emptyProperty => "EmptyAutoPropertyRule"
  | .backwardRange => "InvalidRangeRule"
  | .withContext => "WithContextRule"

/-- The name of a rule in its metadata. -/
def name : LineRule → String
  | .loneBar => "pipelineInvalidOperator"
  | .danglingPipe => "pipelineMissingContinuation"
  | .unclosedMatch => "matchUnclosed"
  | .armWithoutPattern => "matchArmMissingPattern"
  | .queryVariable => "linqInvalidVariable"
  | .queryWithoutSelect => "linqMissingSelect"
  | .operatorOverload => "operatorInvalidOverload"
  | .functionName => "functionInvalidName"
  | .arrowWithoutBody => "functionMissingArrowBody"
  | .mixedIndentation => "styleMixedIndentation"
  | .unclosedString => "syntaxUnclosedString"
  | .leadingDigit => "syntaxLeadingDigitIdentifier"
  | .redundantSemicolon => "styleRedundantSemicolon"
  | .structName => "styleStructName"
  | .emptyProperty => "syntaxEmptyAutoProperty"
  | .backwardRange => "syntaxInvalidRange"
  | .withContext => "syntaxWithContext"

/-- The group that a rule is listed in. -/
def category : LineRule → String
  | .loneBar | .danglingPipe => "pipeline"
  | .unclosedMatch | .armWithoutPattern => "match"
  | .queryVariable | .queryWithoutSelect => "linq"
  | .operatorOverload => "operator"
  | .functionName | .arrowWithoutBody => "function"
  | .mixedIndentation | .redundantSemicolon | .structName => "style"
  | .unclosedString | .leadingDigit | .emptyProperty | .backwardRange | .withContext => "syntax"

/-- What a rule is concerned with. -/
def domain : LineRule → String
  | .loneBar | .unclosedMatch | .armWithoutPattern | .queryVariable | .operatorOverload
  | .functionName | .unclosedString | .leadingDigit | .emptyProperty
  | .backwardRange => "correctness"
  | .danglingPipe | .queryWithoutSelect | .arrowWithoutBody | .withContext => "suspicious"
  | .mixedIndentation | .redundantSemicolon | .structName => "style"

/-- How sure the findings of a rule are. -/
def confidence : LineRule → String
  | .loneBar | .danglingPipe | .unclosedMatch | .armWithoutPattern | .queryWithoutSelect
  | .arrowWithoutBody | .unclosedString | .leadingDigit | .redundantSemicolon
  | .emptyProperty | .withContext => "heuristic"
  | .queryVariable | .operatorOverload | .functionName | .mixedIndentation | .structName
  | .backwardRange => "policy"

/-- The metadata of a rule, unless it is changed. -/
def metadata (rule : LineRule) : Metadata :=
  ⟨rule.spec.code, rule.name, rule.category, rule.domain, rule.confidence, "line"⟩

end LineRule

namespace DocumentRule

/-- The rules for documents, by category, code and name. -/
def all : List DocumentRule := [.braces, .brackets, .parens]

/-- The title that a rule is chosen by. -/
def title : DocumentRule → String
  | .braces => "BraceBalanceRule"
  | .brackets => "BracketBalanceRule"
  | .parens => "ParenBalanceRule"

/-- The name of a rule in its metadata. -/
def name : DocumentRule → String
  | .braces => "balanceBraces"
  | .brackets => "balanceBrackets"
  | .parens => "balanceParens"

/-- The metadata of a rule, unless it is changed. -/
def metadata (rule : DocumentRule) : Metadata :=
  ⟨rule.unclosed.code, rule.name, "balance", "correctness", "heuristic", "document"⟩

end DocumentRule

namespace Rule

/-- The title that a rule is chosen by. -/
def title : Rule → String
  | .line rule => rule.title
  | .document rule => rule.title

/-- The metadata of a rule, unless it is changed. -/
def metadata : Rule → Metadata
  | .line rule => rule.metadata
  | .document rule => rule.metadata

/-- Every rule. -/
def all : List Rule := LineRule.all.map .line ++ DocumentRule.all.map .document

/-- The rule with a title. -/
def ofTitle? (title : String) : Option Rule := all.find? fun rule => rule.title == title

end Rule

/-- A rule in a list of rules, with the metadata it is listed with. -/
structure ListedRule where
  rule : Rule
  metadata : Metadata
  deriving DecidableEq, Repr

namespace ListedRule

/-- A rule for lines with its own metadata. -/
def ofLine (rule : LineRule) : ListedRule := ⟨.line rule, rule.metadata⟩

/-- A rule for documents with its own metadata. -/
def ofDocument (rule : DocumentRule) : ListedRule := ⟨.document rule, rule.metadata⟩

/-- Runs a listed rule on a line, for which it has to be a rule for lines. -/
def runOnLine (listed : ListedRule) (line : Line) (index : Int) (document : Document) :
    Except Fault (List Diagnostic) :=
  match listed.rule with
  | .line rule => rule.run line index document
  | .document rule => .error (.notALineRule rule.title)

/-- Runs a listed rule on a document, for which it has to be a rule for documents. -/
def runOnDocument (listed : ListedRule) (document : Document) : Except Fault (List Diagnostic) :=
  match listed.rule with
  | .line rule => .error (.notADocumentRule rule.title)
  | .document rule => rule.run document

/-- Checks listed rules that are to be evaluated on `scope`. -/
def validate (scope : String) (rules : List ListedRule) : Except Fault Unit :=
  Metadata.validate scope (rules.map (·.metadata))

/-- The rules for lines that a scan uses when none are given. -/
def defaultLine : List ListedRule := LineRule.all.map ofLine

/-- The rules for documents that a scan uses when none are given. -/
def defaultDocument : List ListedRule := DocumentRule.all.map ofDocument

end ListedRule

end ScriptLint
