import ScriptLint.Batch.Arguments
import ScriptLint.Batch.Tree
import ScriptLint.Batch.Utf8
import ScriptLint.Scan.Session

/-!
# Batch scans

A batch scan goes through files in order and prints every diagnostic on a line of its own and then a
summary: the command-line scanner of §6 of `SPEC_FULL.md`. What is printed and logged is kept in a
`Report` beside how the scan ends, so that a fault takes nothing back that was printed before it. All
files are scanned before the first line is printed, so a file that cannot be read or scanned leaves
nothing on the output. With errors only, diagnostics of other severities are not printed, but they are
counted all the same.
-/

namespace ScriptLint.Batch

/-- How the program ends: with a code, or with a message about why it could not begin. -/
inductive Exit where
  | code (n : Nat)
  | message (text : String)
  deriving DecidableEq, Repr

/-- What a part of the program comes to, and what it printed and logged until then. -/
structure Report (α : Type) where
  outcome : Except Fault α
  /-- What is printed. -/
  output : String := ""
  /-- What is logged, if that is asked for. -/
  log : List LogRecord := []

namespace Report

instance : Monad Report where
  pure a := { outcome := .ok a }
  bind first next :=
    match first.outcome with
    | .error fault => ⟨.error fault, first.output, first.log⟩
    | .ok a =>
      let rest := next a
      ⟨rest.outcome, first.output ++ rest.output, first.log ++ rest.log⟩

/-- Prints and logs nothing. -/
def ofOutcome {α : Type} (outcome : Except Fault α) : Report α := { outcome }

/-- Prints a line. -/
def printLine (line : String) : Report Unit := { outcome := .ok (), output := line ++ "\n" }

/-- Logs some records. -/
def record (log : List LogRecord) : Report Unit := { outcome := .ok (), log }

end Report

/-- What was found in one file. -/
structure FileReport where
  path : Path
  diagnostics : List Diagnostic
  log : List LogRecord

/-- Scans a file. -/
def scanFile (file : SourceFile) : Except Fault FileReport := do
  let text ← Utf8.readText file.content
  let session ← Session.create (.text text) (.options {}) ListedRule.defaultLine
    ListedRule.defaultDocument
  let run := session.run
  let result ← run.outcome
  return ⟨file.path, result.diagnostics, run.log⟩

/-- The lines that are printed about a file. -/
def fileLines (errorsOnly : Bool) (report : FileReport) : List String :=
  (report.diagnostics.filter fun d => !errorsOnly || d.severity == .error).map fun d =>
    d.render (some report.path.display)

/-- What was collected from the files that a scan went through. -/
structure Collected where
  /-- The lines that are to be printed. -/
  lines : List String := []
  total : Tally := {}
  deriving DecidableEq, Repr

/-- Goes through one more file. -/
def collect (errorsOnly : Bool) (collected : Collected) (file : SourceFile) :
    Report Collected := do
  let report ← .ofOutcome (scanFile file)
  Report.record report.log
  let tally ← .ofOutcome (Tally.ofDiagnostics report.diagnostics)
  return ⟨collected.lines ++ fileLines errorsOnly report, collected.total.add tally⟩

/-- The last line of a report. -/
def summary (files : Nat) (t : Tally) : String :=
  s!"Files: {files}  Errors: {t.errors}  Warnings: {t.warnings}  Information: {t.information}"

/-- Scans files, of which there is one at least, and then prints what was collected from them. -/
def scanFiles (errorsOnly : Bool) (files : List SourceFile) : Report Exit := do
  let collected ← files.foldlM (collect errorsOnly) {}
  collected.lines.forM Report.printLine
  Report.printLine (summary files.length collected.total)
  return .code (if collected.total.errors = 0 then 0 else 1)

/-- Scans what a path leads to, if there is anything. -/
def scanPath (errorsOnly : Bool) (path : Path) (found : Option Tree) : Report Exit := do
  match found with
  | none => return .message s!"Invalid path: {path.display}"
  | some tree =>
    match ← .ofOutcome (tree.sourceFiles path) with
    | [] => return .message s!"No .csc files found under {path.display}"
    | files => scanFiles errorsOnly files

/-- How the program is called. -/
def usage : String :=
  "usage: scan_files.py [-h] [--no-progress] [--errors-only] [--verbose] path"

/-- What is printed when help is asked for. -/
def helpLines : List String :=
  [usage,
    "",
    "Report heuristic syntax diagnostics for .csc files",
    "",
    "positional arguments:",
    "  path           A .csc file or a directory to search recursively",
    "",
    "options:",
    "  -h, --help     show this help message and exit",
    "  --no-progress  Disable tqdm progress bars",
    "  --errors-only  Only print error diagnostics",
    "  --verbose      Enable debug logging"]

/-- What a command comes to, where `find` tells what a path leads to. -/
def run (command : Command) (find : Path → Except Fault (Option Tree)) : Report Exit :=
  match command with
  | .refuse => return .code 2
  | .help => do
    helpLines.forM Report.printLine
    return .code 0
  | .scan arguments =>
    let path := Path.ofString arguments.path
    let report := do
      let found ← Report.ofOutcome (find path)
      scanPath arguments.errorsOnly path found
    { report with log := if arguments.verbose then report.log else [] }

end ScriptLint.Batch
