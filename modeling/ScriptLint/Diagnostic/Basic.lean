import ScriptLint.Text.Range

/-!
# Diagnostics

A diagnostic is one finding in a text: what was found, where, and how grave it is. The kinds of
findings are described by `Spec`s, and `Spec.at` makes a diagnostic of one at a range.
-/

namespace ScriptLint

/-- How grave a finding is. A severity that an editor made up itself is kept under its name. -/
inductive Severity where
  | error
  | warning
  | information
  | custom (name : String)
  deriving DecidableEq, Repr

namespace Severity

/-- The severity's name. -/
def name : Severity → String
  | .error => "error"
  | .warning => "warning"
  | .information => "information"
  | .custom name => name

/-- The severity with a name. -/
def ofName (name : String) : Severity :=
  if name = "error" then .error
  else if name = "warning" then .warning
  else if name = "information" then .information
  else .custom name

end Severity

/-- One finding in a text. -/
structure Diagnostic where
  /-- The tag of the kind of finding. -/
  code : String
  message : String
  range : Range
  severity : Severity := .error
  /-- Advice on what to write instead. -/
  hint : Option String := none
  /-- The group that the kind of finding belongs to. -/
  category : Option String := none
  /-- The tool that made the finding. -/
  source : String := "cscript"
  deriving DecidableEq, Repr

/-- A kind of finding, with what its diagnostics have in common. -/
structure Spec where
  code : String
  message : String
  hint : Option String := none
  severity : Severity := .error
  category : Option String := none
  deriving DecidableEq, Repr

/-- The diagnostic of a kind at a range. A message or a hint that is given takes the place of the
kind's own. -/
def Spec.at (spec : Spec) (range : Range) (message hint : Option String := none) : Diagnostic where
  code := spec.code
  message := message.getD spec.message
  range := range
  severity := spec.severity
  hint := hint.or spec.hint
  category := spec.category

end ScriptLint
