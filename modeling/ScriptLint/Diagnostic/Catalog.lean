import ScriptLint.Diagnostic.Basic

/-!
# The kinds of findings

Every kind of finding that a rule of this library reports. The codes and the wording are what users
of the reports see and filter by; `Spec.catalog` lists the kinds by code.
-/

namespace ScriptLint

namespace Spec

/-- A bar that is no pipeline operator. -/
def loneBar : Spec where
  code := "LINT_PIPELINE_INVALID_OPERATOR"
  message := "Invalid pipeline operator. Use \"|>\" for pipeline operations."
  hint := some "A lone `|` is not a pipeline; write `value |> transform`."
  severity := .error
  category := some "lint/pipeline"

/-- A pipeline operator with nothing after it. -/
def danglingPipe : Spec where
  code := "LINT_PIPELINE_MISSING_CONTINUATION"
  message := "Pipeline operator at end of line requires a continuation on the next line."
  severity := .warning
  category := some "lint/pipeline"

/-- A match block that no later line closes. -/
def unclosedMatch : Spec where
  code := "LINT_MATCH_UNCLOSED"
  message := "Match expression is not properly closed with \x7d"
  hint := some "Add the closing `\x7d` of the match block."
  severity := .error
  category := some "lint/match"

/-- A match arm with nothing before its arrow. -/
def armWithoutPattern : Spec where
  code := "LINT_MATCH_ARM_MISSING_PATTERN"
  message := "Match arm must have a pattern before \"=>\""
  hint := some "Use `_ => ...` for a catch-all arm."
  severity := .error
  category := some "lint/match"

/-- A query variable that is no identifier. -/
def queryVariable : Spec where
  code := "LINT_LINQ_INVALID_VARIABLE"
  message := "Invalid variable name in LINQ query. Must be a valid identifier."
  severity := .error
  category := some "lint/linq"

/-- A query without a select clause. -/
def queryWithoutSelect : Spec where
  code := "LINT_LINQ_MISSING_SELECT"
  message := "LINQ query should end with a select clause."
  severity := .information
  category := some "lint/linq"

/-- An operator that cannot be overloaded. -/
def operatorOverload : Spec where
  code := "LINT_OPERATOR_INVALID_OVERLOAD"
  message := "Invalid operator for overloading."
  severity := .error
  category := some "lint/operator"

/-- A function name that is no identifier. -/
def functionName : Spec where
  code := "LINT_FUNCTION_INVALID_NAME"
  message := "Invalid function name. Must be a valid identifier."
  severity := .error
  category := some "lint/function"

/-- An arrow function without a body on its line. -/
def arrowWithoutBody : Spec where
  code := "LINT_FUNCTION_MISSING_ARROW_BODY"
  message := "Arrow function body is missing."
  hint := some "Write the body after `=>` on the same line."
  severity := .warning
  category := some "lint/function"

/-- An indentation of both tabs and spaces. -/
def mixedIndentation : Spec where
  code := "LINT_STYLE_MIXED_INDENTATION"
  message := "Mixed tabs and spaces for indentation. Choose either tabs or spaces consistently."
  severity := .warning
  category := some "lint/style"

/-- A string literal that its line does not close. -/
def unclosedString : Spec where
  code := "LINT_SYNTAX_UNCLOSED_STRING"
  message := "Unclosed string."
  severity := .error
  category := some "lint/syntax"

/-- A word that begins with a digit. -/
def leadingDigit : Spec where
  code := "LINT_SYNTAX_LEADING_DIGIT_IDENTIFIER"
  message := "Identifiers cannot start with a number."
  severity := .error
  category := some "lint/syntax"

/-- A semicolon that ends a line with a colon. -/
def redundantSemicolon : Spec where
  code := "LINT_STYLE_REDUNDANT_SEMICOLON"
  message := "Semicolon not needed when using Python-style syntax with colons."
  severity := .information
  category := some "lint/style"

/-- A struct name that does not begin with a capital letter. -/
def structName : Spec where
  code := "LINT_STYLE_STRUCT_NAME"
  message := "Struct names should start with an uppercase letter and follow PascalCase convention."
  severity := .warning
  category := some "lint/style"

/-- A property without a getter or a setter. -/
def emptyProperty : Spec where
  code := "LINT_SYNTAX_EMPTY_AUTO_PROPERTY"
  message := "Auto-property must include at least one of \"get\" or \"set\"."
  hint := some "Use `\x7b get; set; \x7d` or `\x7b get; \x7d`."
  severity := .error
  category := some "lint/syntax"

/-- A numeric range that does not ascend. -/
def backwardRange : Spec where
  code := "LINT_SYNTAX_INVALID_RANGE"
  message := "Range start must be less than range end."
  hint := some "Use `_` as the upper bound for an open-ended range."
  severity := .error
  category := some "lint/syntax"

/-- A with expression whose value is not used. -/
def withContext : Spec where
  code := "LINT_SYNTAX_WITH_CONTEXT"
  message := "\"with\" expression must be used with an assignment or return statement."
  severity := .warning
  category := some "lint/syntax"

/-- More opening than closing braces. -/
def unclosedBrace : Spec where
  code := "LINT_BALANCE_UNCLOSED_BRACE"
  message := "unclosed brace(s). Missing closing brace '\x7d'."
  severity := .error
  category := some "lint/balance"

/-- More closing than opening braces. -/
def extraBrace : Spec where
  code := "LINT_BALANCE_EXTRA_BRACE"
  message := "extra closing brace(s)."
  severity := .error
  category := some "lint/balance"

/-- More opening than closing brackets. -/
def unclosedBracket : Spec where
  code := "LINT_BALANCE_UNCLOSED_BRACKET"
  message := "unclosed bracket(s). Missing closing bracket ']'."
  severity := .error
  category := some "lint/balance"

/-- More opening than closing parentheses. -/
def unclosedParen : Spec where
  code := "LINT_BALANCE_UNCLOSED_PAREN"
  message := "unclosed parenthesis(es). Missing closing parenthesis ')'."
  severity := .error
  category := some "lint/balance"

/-- Every kind of finding, in the order of the codes. -/
def catalog : List Spec :=
  [extraBrace, unclosedBrace, unclosedBracket, unclosedParen, functionName, arrowWithoutBody,
    queryVariable, queryWithoutSelect, armWithoutPattern, unclosedMatch, operatorOverload,
    loneBar, danglingPipe, mixedIndentation, redundantSemicolon, structName, emptyProperty,
    backwardRange, leadingDigit, unclosedString, withContext]

/-- The kind of finding with a code. -/
def ofCode? (code : String) : Option Spec := catalog.find? fun spec => spec.code == code

end Spec

end ScriptLint
