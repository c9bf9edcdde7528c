import ScriptLint.Diagnostic.Basic

/-!
# Reports

A report lists diagnostics in the order of their places: by the start of the range, its stop, the
code and the message, and otherwise as they were found. A diagnostic is printed on one line, with
lines and columns counted from one.
-/

namespace ScriptLint

namespace Diagnostic

/-- Whether a diagnostic may stand before another in a report. -/
def precedes (a b : Diagnostic) : Bool :=
  if a.range.start ≠ b.range.start then a.range.start < b.range.start
  else if a.range.stop ≠ b.range.stop then a.range.stop < b.range.stop
  else if a.code ≠ b.code then a.code < b.code
  else a.message ≤ b.message

/-- The diagnostics in the order of a report. -/
def sort (ds : List Diagnostic) : List Diagnostic := ds.mergeSort precedes

/-- Whether one of the diagnostics is an error. -/
def hasErrors (ds : List Diagnostic) : Bool := ds.any fun d => d.severity == .error

/-- How many different diagnostics there are. -/
def distinct (ds : List Diagnostic) : Nat := ds.eraseDups.length

/-- The diagnostic on one line, after the path of the file it is in, if there is one, and the
numerals of its line and column. -/
def renderAt (d : Diagnostic) (path : Option String) (line column : String) : String :=
  let place := s!"{line}:{column}"
  let place := match path with
    | some path => s!"{path}:{place}"
    | none => place
  s!"{place}: {d.severity.name} {d.code} {d.message}"

/-- The diagnostic on one line, wherever it is. -/
def render (d : Diagnostic) (path : Option String := none) : String :=
  d.renderAt path (toString (d.range.start.line + 1)) (toString (d.range.start.column + 1))

/-- The diagnostic on one line, if the numerals of its line and column do not have too many
digits. -/
def write (d : Diagnostic) (path : Option String := none) : Except Fault String := do
  let line ← Numeral.write (d.range.start.line + 1)
  let column ← Numeral.write (d.range.start.column + 1)
  return d.renderAt path line column

end Diagnostic

/-- How many diagnostics there are of each severity. -/
structure Tally where
  errors : Nat := 0
  warnings : Nat := 0
  information : Nat := 0
  deriving DecidableEq, Repr

namespace Tally

/-- The tally with one more diagnostic of a severity, which has to be one that is counted. -/
def count (t : Tally) : Severity → Except Fault Tally
  | .error => .ok { t with errors := t.errors + 1 }
  | .warning => .ok { t with warnings := t.warnings + 1 }
  | .information => .ok { t with information := t.information + 1 }
  | .custom name => .error (.unknownSeverity name)

/-- The tally of a list of diagnostics. -/
def ofDiagnostics (ds : List Diagnostic) : Except Fault Tally :=
  ds.foldlM (fun t d => t.count d.severity) {}

/-- The tally of two lists together. -/
def add (a b : Tally) : Tally :=
  ⟨a.errors + b.errors, a.warnings + b.warnings, a.information + b.information⟩

end Tally

end ScriptLint
