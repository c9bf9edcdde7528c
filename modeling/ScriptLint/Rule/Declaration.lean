import ScriptLint.Text.Line
import ScriptLint.Text.Range

/-!
# Declarations

Query variables, functions, structs and operators are declared by a keyword, white space and a name.
A `Form` describes one such kind of declaration: its keyword, what its names are made of, and what
has to follow the name. Of a line only the leftmost declaration of a form is looked at, and its name
is the longest run there is. The rules about them are `LinqInvalidVariableRule` (§4.3 of
`SPEC_FULL.md`), `OperatorInvalidOverloadRule` (§4.4), `FunctionInvalidNameRule` (§4.5) and
`StructNameRule` (§4.7).
-/

namespace ScriptLint

/-- A kind of declaration. -/
structure Form where
  keyword : List Char
  /-- The characters of a name. -/
  isNamePart : Char → Bool
  /-- Whether a text may follow the name. -/
  continues : List Char → Bool

/-- A name that is declared, with its distance from the start of the keyword. -/
structure Declared where
  offset : Nat
  name : List Char
  deriving DecidableEq, Repr

namespace Form

/-- Reads a declaration. -/
def declaration (form : Form) : Reader Declared := fun before after =>
  if Line.startsWord before && form.keyword.isPrefixOf after then
    let rest := after.drop form.keyword.length
    let gap := rest.takeWhile isSpace
    let rest := rest.dropWhile isSpace
    let name := rest.takeWhile form.isNamePart
    if gap.isEmpty || name.isEmpty || !form.continues (rest.dropWhile form.isNamePart) then none
    else some ⟨form.keyword.length + gap.length, name⟩
  else none

/-- The name that the leftmost declaration of a line declares, and where it stands. -/
def declared? (form : Form) (line : Line) : Option (Span × List Char) :=
  (Line.findFirst? form.declaration line).map fun found =>
    (⟨found.1 + found.2.offset, found.2.name.length⟩, found.2.name)

/-- Whether a text is an opening parenthesis, after white space. -/
def opensParameters (rest : List Char) : Bool := (rest.dropWhile isSpace).head? == some '('

/-- Whether a text is white space and a whole word `in` with white space after it. -/
def drawsFromSource (rest : List Char) : Bool :=
  match rest.dropWhile isSpace with
  | 'i' :: 'n' :: c :: _ => !(rest.takeWhile isSpace).isEmpty && isSpace c
  | _ => false

/-- A query variable: `from x in xs`. -/
def query : Form where
  keyword := ['f', 'r', 'o', 'm']
  isNamePart := isWordChar
  continues := drawsFromSource

/-- A function: `function f(x)`. -/
def function : Form where
  keyword := ['f', 'u', 'n', 'c', 't', 'i', 'o', 'n']
  isNamePart := isWordChar
  continues := opensParameters

/-- A struct: `struct S`. -/
def struct : Form where
  keyword := ['s', 't', 'r', 'u', 'c', 't']
  isNamePart := isWordChar
  continues := fun _ => true

/-- A character that operators are made of. -/
def isOperatorSymbol (c : Char) : Bool :=
  ['+', '-', '*', '/', '%', '=', '<', '>', '!', '&', '|', '^', '~'].contains c

/-- An operator: `operator +(x)`. -/
def operator : Form where
  keyword := ['o', 'p', 'e', 'r', 'a', 't', 'o', 'r']
  isNamePart := isOperatorSymbol
  continues := opensParameters

end Form

/-- Whether a word is an identifier, which does not begin with a digit: the grammar that §4 begins
with. -/
def isIdentifier (word : List Char) : Bool :=
  match word with
  | [] => false
  | c :: rest => ((isWordChar c && !isDigit c) || c == '$') &&
      rest.all fun c => isWordChar c || c == '$'

/-- Whether a word begins with a capital letter and has only letters, digits and underscores. -/
def isPascalCase (word : List Char) : Bool :=
  match word with
  | [] => false
  | c :: rest => isUpper c && rest.all isWordChar

/-- The operators that can be overloaded, in the order of §4.4. -/
def overloadable : List String :=
  ["+", "-", "*", "/", "%", "==", "!=", "<", ">", "<=", ">=", "&&", "||", "&", "|", "^", "~",
    "<<", ">>", "+=", "-=", "*=", "/=", "%="]

end ScriptLint
