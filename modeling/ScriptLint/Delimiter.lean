import ScriptLint.Text.Document

/-!
# Delimiters

Delimiters come in pairs. What the rules look at is the *net* of a text, its openers less its
closers, counted without regard to nesting or to string literals: over a whole document for the
balance rules (§4.8 of `SPEC_FULL.md`), and line by line for match expressions (§4.2).
`Document.blockClose` follows the running net of the lines from some line on to the first later line
at which it is zero.
-/

namespace ScriptLint

/-- A pair of delimiters. -/
structure Delimiters where
  opener : List Char
  closer : List Char
  deriving DecidableEq, Repr

namespace Delimiters

def braces : Delimiters := ⟨['{'], ['}']⟩

def brackets : Delimiters := ⟨['['], [']']⟩

def parens : Delimiters := ⟨['('], [')']⟩

/-- Openers less closers in a line. -/
def net (pair : Delimiters) (line : Line) : Int :=
  (Line.occurrences pair.opener line : Int) - Line.occurrences pair.closer line

/-- The first of some lines at which the running net, which is `depth` before them, is zero. The
lines are numbered from `index` on. -/
def closeFrom (pair : Delimiters) (depth : Int) (index : Nat) : List Line → Option Nat
  | [] => none
  | line :: rest =>
    let depth := depth + pair.net line
    if depth = 0 then some index else pair.closeFrom depth (index + 1) rest

end Delimiters

namespace Document

/-- Openers less closers in a document: one of the counters of §4.8. -/
def net (d : Document) (pair : Delimiters) : Int :=
  d.lines.foldr (fun line total => pair.net line + total) 0

/-- The first line after the one at `index` such that the lines from there up to it are balanced in
total, as §4.2 looks for the end of a match expression. The whole of the line at `index` counts, and
a block never closes on its own line. A line that closes the block too often at once does not end it,
but a later one at which the running net comes back to zero does. -/
def blockClose (d : Document) (pair : Delimiters) (index : Int) : Except Fault (Option Nat) := do
  let line ← d.line index
  let next := index.toNat + 1
  return pair.closeFrom (pair.net line) next (d.lines.drop next)

end Document

end ScriptLint
