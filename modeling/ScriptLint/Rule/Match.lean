import ScriptLint.Text.Line
import ScriptLint.Text.Range

/-!
# Match expressions

A match expression begins with a *head*: the keyword and, before any closing brace or semicolon, the
brace that opens its block. A call of a function or a method of that name is no head. An arm of the
block is a pattern, an arrow and an expression. These are the rules `MatchUnclosedRule` and
`MatchArmMissingPatternRule` (§4.2 of `SPEC_FULL.md`, `LINT_MATCH_*`).
-/

namespace ScriptLint.Match

/-- The keyword of a match expression. -/
def word : List Char := ['m', 'a', 't', 'c', 'h']

/-- Whether the keyword after the text `before` would be a member or a part of a longer name. -/
def belongsToName (before : List Char) : Bool :=
  before.head?.any fun c => c == '.' || c == '$' || isWordChar c

/-- Whether the text after the keyword passes it arguments. -/
def isCall (after : List Char) : Bool := (after.dropWhile isSpace).head? == some '('

/-- Whether a block is opened before one is closed or a statement ends. -/
def opensBlock (after : List Char) : Bool :=
  (after.dropWhile fun c => c != '{' && c != '}' && c != ';').head? == some '{'

/-- Reads the head of a match expression (`LINT_MATCH_UNCLOSED`). -/
def head : Reader Unit := fun before after =>
  let rest := after.drop word.length
  if !belongsToName before && word.isPrefixOf after && Line.endsWord rest && !isCall rest &&
      opensBlock rest then
    some ()
  else none

/-- The keyword of the leftmost head of a line. -/
def head? (line : Line) : Option Span :=
  (Line.findFirst? head line).map fun found => ⟨found.1, word.length⟩

/-- The arrow of an arm, which is that of a function, too. -/
def arrow : List Char := ['=', '>']

/-- Whether there is nothing but blanks before the first arrow of a line that has one
(`LINT_MATCH_ARM_MISSING_PATTERN`). -/
def startsWithArrow (line : Line) : Bool :=
  let column := Line.firstColumn arrow line
  0 ≤ column && (Line.trim (line.take column.toNat)).isEmpty

end ScriptLint.Match
