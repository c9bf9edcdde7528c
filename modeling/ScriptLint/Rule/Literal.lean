import ScriptLint.Text.Line

/-!
# String literals

A literal is written between two equal quotes of one of three kinds. A backslash and the character
after it stand for themselves neither inside a literal nor outside. Every line is read on its own,
so a literal that goes on over the end of its line counts as unclosed (`UnclosedStringRule`, §4.7 of
`SPEC_FULL.md`).
-/

namespace ScriptLint

/-- A kind of quote. -/
inductive Quote where
  | single
  | double
  | backtick
  deriving DecidableEq, Repr

namespace Quote

/-- The quote as a character. -/
def toChar : Quote → Char
  | .single => '\''
  | .double => '"'
  | .backtick => '\x60'

/-- The kind of quote that a character is. -/
def ofChar? (c : Char) : Option Quote :=
  if c = '\'' then some .single
  else if c = '"' then some .double
  else if c = '\x60' then some .backtick
  else none

/-- The quote that is open after a text, when `opened` is the one that is open before it. -/
def openAfter (opened : Option Quote) : List Char → Option Quote
  | [] => opened
  | '\\' :: [] => opened
  | '\\' :: _ :: rest => openAfter opened rest
  | c :: rest =>
    match opened with
    | none => openAfter (ofChar? c) rest
    | some q => openAfter (if c = q.toChar then none else some q) rest

/-- The quote of the literal that a line leaves open. -/
def unclosed? (line : Line) : Option Quote := openAfter none line

end Quote

end ScriptLint
