import ScriptLint.Text.Alphanumeric
import ScriptLint.Text.Line
import ScriptLint.Text.Range

/-!
# Properties

A property is declared by a name, a colon, a type and a block of accessors, as in
`size: number { get; }`. A block is taken for one of accessors when it has only words, semicolons
and white space, and at least one semicolon; it has to name a getter or a setter
(`EmptyAutoPropertyRule`, §4.7 of `SPEC_FULL.md`).
-/

namespace ScriptLint.Property

/-- A character of a block of accessors. -/
def isBlockChar (c : Char) : Bool := isWordChar c || isSpace c || c == ';'

/-- A character of the name of a type. -/
def isTypeChar (c : Char) : Bool :=
  isWordChar c || ['$', '.', '<', '>', '[', ']', '?'].contains c

/-- Whether the text before a block, nearest character first, declares a property: a name, a colon
and a type. -/
def declares (before : List Char) : Bool :=
  let before := before.dropWhile isBlank
  let type := Line.trim (before.takeWhile (· != ':'))
  match before.dropWhile (· != ':') with
  | _ :: name =>
    !type.isEmpty && type.all isTypeChar &&
      (name.dropWhile isBlank).head?.any fun c => isAlphanumeric c || c == '_' || c == '$'
  | [] => false

/-- Whether the inside of a block names a getter or a setter. -/
def hasAccessor (body : List Char) : Bool :=
  (Line.runs isWordChar body).any fun found =>
    found.2 == ['g', 'e', 't'] || found.2 == ['s', 'e', 't']

/-- Reads a block of a property without a getter or a setter, and gives its inside. -/
def emptyBlock : Reader (List Char) := fun before after =>
  match after with
  | '{' :: rest =>
    let body := rest.takeWhile isBlockChar
    if (rest.dropWhile isBlockChar).head? == some '}' && body.contains ';' && declares before &&
        !hasAccessor body then
      some body
    else none
  | _ => none

/-- The blocks of a line's properties that have neither a getter nor a setter
(`LINT_SYNTAX_EMPTY_AUTO_PROPERTY`). -/
def emptyBlocks (line : Line) : List Span :=
  (Line.findAll (fun body => body.length + 2) emptyBlock line).map fun found =>
    ⟨found.1, found.2.length + 2⟩

end ScriptLint.Property
