import ScriptLint.Delimiter
import ScriptLint.Diagnostic.Catalog

/-!
# Rules for documents

The rules for whole documents compare how many delimiters of a pair open and how many close. Only
the totals are known, not which delimiter has no partner, so what they report is on the last line.
Too many closers are reported for braces alone (§4.8 of `SPEC_FULL.md`, `LINT_BALANCE_*`).
-/

namespace ScriptLint

/-- The rules that look at a whole document: `BraceBalanceRule`, `BracketBalanceRule` and
`ParenBalanceRule`. -/
inductive DocumentRule where
  | braces
  | brackets
  | parens
  deriving DecidableEq, Repr

namespace DocumentRule

/-- The delimiters that a rule counts. -/
def pair : DocumentRule → Delimiters
  | .braces => .braces
  | .brackets => .brackets
  | .parens => .parens

/-- The kind of finding for delimiters that are not closed. -/
def unclosed : DocumentRule → Spec
  | .braces => .unclosedBrace
  | .brackets => .unclosedBracket
  | .parens => .unclosedParen

/-- The kind of finding for delimiters that close nothing, if it is reported. -/
def extra? : DocumentRule → Option Spec
  | .braces => some .extraBrace
  | .brackets => none
  | .parens => none

/-- The report, on the last line, that `count` delimiters have no partner. -/
def imbalance (document : Document) (spec : Spec) (count : Nat) : Except Fault (List Diagnostic) := do
  let range ← document.wholeLine document.lastIndex
  return [spec.at range (some s!"{count} {spec.message}")]

/-- The diagnostics of a rule for a document. -/
def run (rule : DocumentRule) (document : Document) : Except Fault (List Diagnostic) :=
  let net := document.net rule.pair
  if 0 < net then imbalance document rule.unclosed net.toNat
  else if net < 0 then
    match rule.extra? with
    | some spec => imbalance document spec (-net).toNat
    | none => .ok []
  else .ok []

end DocumentRule

end ScriptLint
