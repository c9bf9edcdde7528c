import ScriptLint.Text.Line
import ScriptLint.Text.Numeral
import ScriptLint.Text.Range

/-!
# Words with digits

Words that begin with a digit (`LeadingDigitIdentifierRule`), and ranges of numbers
(`InvalidRangeRule`), both of §4.7 of `SPEC_FULL.md`. A range is written `1..5`, or `1.._` when it has
no upper bound; its lower bound has to be the smaller one. The bounds are numerals, and have no more
than `Numeral.maxDigits` digits.
-/

namespace ScriptLint

/-- Reads digits and more characters of a word behind them, up to the end of the word and from its
beginning. -/
def digitLedWord : Reader (List Char) := fun before after =>
  if Line.startsWord before then
    Line.takeSome isDigit (Line.takeSome isWordChar fun taken _ after =>
      if Line.endsWord after then some taken.reverse else none) [] before after
  else none

/-- The digit-led words of a line (`LINT_SYNTAX_LEADING_DIGIT_IDENTIFIER`). -/
def digitLedWords (line : Line) : List Span :=
  (Line.findAll List.length digitLedWord line).map fun found => ⟨found.1, found.2.length⟩

/-- A range of numbers as it is written, without an upper bound when it is open. -/
structure RangeToken where
  lower : List Char
  upper : Option (List Char)
  deriving DecidableEq, Repr

namespace RangeToken

/-- How many columns the token takes. -/
def width (token : RangeToken) : Nat :=
  token.lower.length + 2 +
    match token.upper with
    | some upper => upper.length
    | none => 1

/-- Reads an upper bound, which is a numeral or, where there is none, an underscore. -/
def readUpper : Reader (Option (List Char)) := fun before after =>
  match Line.takeSome isDigit (fun taken _ _ => some taken.reverse) [] before after with
  | some upper => some (some upper)
  | none => if after.head? = some '_' then some none else none

/-- Reads a range: a numeral, two dots and an upper bound. -/
def read : Reader RangeToken :=
  Line.takeSome isDigit (fun lower before after =>
    match after with
    | '.' :: '.' :: rest =>
      (readUpper ('.' :: '.' :: before) rest).map fun upper => ⟨lower.reverse, upper⟩
    | _ => none) []

/-- The ranges of a line, each with its column. -/
def tokens (line : Line) : List (Nat × RangeToken) := Line.findAll width read line

/-- Whether the lower bound is not below the upper bound (`LINT_SYNTAX_INVALID_RANGE`). The lower
bound is read first, and neither is read when the range is open. -/
def isBackward (token : RangeToken) : Except Fault Bool :=
  match token.upper with
  | none => .ok false
  | some upper => do
    let low ← Numeral.value token.lower
    let high ← Numeral.value upper
    return high ≤ low

end RangeToken

end ScriptLint
