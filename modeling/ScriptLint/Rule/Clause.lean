import ScriptLint.Rule.Declaration

/-!
# Clauses

Two rules look for clauses that belong together on one line. A query that begins with `from` has a
`select` (`LinqMissingSelectRule`, §4.3 of `SPEC_FULL.md`), and a `with` expression is assigned or
returned (`WithContextRule`, §4.7).
-/

namespace ScriptLint.Clause

/-- The keyword that ends a query. -/
def selectWord : List Char := ['s', 'e', 'l', 'e', 'c', 't']

/-- The keyword of a statement that returns a value. -/
def returnWord : List Char := ['r', 'e', 't', 'u', 'r', 'n']

/-- The keyword of a changed copy. -/
def withWord : List Char := ['w', 'i', 't', 'h']

/-- Whether a line has a word. -/
def mentions (word : List Char) (line : Line) : Bool :=
  (Line.findFirst? (Line.keyword word) line).isSome

/-- The keyword of the leftmost query of a line without a `select` (`LINT_LINQ_MISSING_SELECT`). -/
def unselected? (line : Line) : Option Span :=
  match Line.findFirst? (Line.keyword Form.query.keyword) line with
  | some (column, _) =>
    if mentions selectWord line then none else some ⟨column, Form.query.keyword.length⟩
  | none => none

/-- Reads the keyword of a `with` expression, which a brace follows. -/
def withBlock : Reader Unit := fun before after =>
  if Line.startsWord before && withWord.isPrefixOf after &&
      ((after.drop withWord.length).dropWhile isSpace).head? == some '{' then
    some ()
  else none

/-- Whether a line uses the value of an expression on it: it assigns or returns, and does not begin
with the expression. -/
def usesValue (line : Line) : Bool :=
  (line.contains '=' || mentions returnWord line) && !withWord.isPrefixOf (Line.trimStart line)

/-- The leftmost `with` expression of a line that does not use its value
(`LINT_SYNTAX_WITH_CONTEXT`). -/
def unusedWith? (line : Line) : Option Span :=
  match Line.findFirst? withBlock line with
  | some (column, _) => if usesValue line then none else some ⟨column, withWord.length⟩
  | none => none

end ScriptLint.Clause
