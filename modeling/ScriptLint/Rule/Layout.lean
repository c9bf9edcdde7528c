import ScriptLint.Rule.Match

/-!
# Layout

These rules look at the edges of a line only: at what it is indented with, and at what it ends in
once the blanks after that are put aside. They are `MixedIndentationRule`, `RedundantSemicolonRule` and
`FunctionMissingArrowBodyRule` (§4.5 to §4.7 of `SPEC_FULL.md`).
-/

namespace ScriptLint.Layout

/-- Whether a line begins with a run of `first` and a `second` directly after it. -/
def changesFrom (first second : Char) (line : Line) : Bool :=
  line.head? == some first && (line.dropWhile (· == first)).head? == some second

/-- The indentation of a line that begins with tabs and then a space, or the other way round, up to
what trimming its start leaves (§4.6, `LINT_STYLE_MIXED_INDENTATION`). -/
def mixedIndent? (line : Line) : Option Columns :=
  if changesFrom '\t' ' ' line || changesFrom ' ' '\t' line then
    some ⟨0, line.length - (Line.trimStart line).length⟩
  else none

/-- The last semicolon of a line with a colon that ends in one, up to the line's end (§4.7,
`LINT_STYLE_REDUNDANT_SEMICOLON`). -/
def redundantSemicolon? (line : Line) : Option Columns :=
  if line.contains ':' && [';'].isSuffixOf (Line.trim line) then
    some ⟨Line.lastColumn [';'] line, line.length⟩
  else none

/-- The line without one semicolon that it may end in, and without the blanks around it. -/
def dropSemicolon (line : Line) : Line :=
  let kept := Line.trimEnd line
  if kept.getLast? = some ';' then Line.trimEnd kept.dropLast else kept

/-- The arrow that ends a line, or that only a semicolon follows, up to the line's end (§4.5,
`LINT_FUNCTION_MISSING_ARROW_BODY`). -/
def bodilessArrow? (line : Line) : Option Columns :=
  let kept := dropSemicolon line
  if Match.arrow.isSuffixOf kept then some ⟨kept.length - 2, line.length⟩ else none

end ScriptLint.Layout
