import ScriptLint.Diagnostic.Report
import ScriptLint.Rule.Listed
import ScriptLint.Scan.Log
import ScriptLint.Scan.Options

/-!
# Scans

A scan runs every listed rule over a document: the rules for lines on each line in turn, then the
rules for documents, and sorts what they report. A `Session` is the scan of one version of one
document. It is made from values that are checked first, and it scans at most once: a session that
has a result gives it again (`ScanSession` in §3 of `SPEC_FULL.md`). `runLint` and `scan` are the ways
to scan a text without keeping the session (§6), and what they refuse is listed in §7.
-/

namespace ScriptLint

/-- What the rules for lines report on a document, line by line. -/
def lineDiagnostics (rules : List ListedRule) (document : Document) :
    Except Fault (List Diagnostic) := do
  let found ← document.lines.zipIdx.mapM fun (line, index) => do
    let found ← rules.mapM fun rule => rule.runOnLine line index document
    return found.flatten
  return found.flatten

/-- What the rules for documents report on a document. -/
def documentDiagnostics (rules : List ListedRule) (document : Document) :
    Except Fault (List Diagnostic) := do
  let found ← rules.mapM fun rule => rule.runOnDocument document
  return found.flatten

/-- What all rules report on a document, in the order of a report. -/
def allDiagnostics (lineRules documentRules : List ListedRule) (document : Document) :
    Except Fault (List Diagnostic) := do
  let onLines ← lineDiagnostics lineRules document
  let onDocument ← documentDiagnostics documentRules document
  return Diagnostic.sort (onLines ++ onDocument)

/-- What came out of a scan. -/
structure ScanResult where
  document : Document
  diagnostics : List Diagnostic
  hasErrors : Bool
  /-- Whether the text was not scanned, since scans are switched off. -/
  skipped : Bool := false
  deriving DecidableEq

/-- The scan of one version of a document. -/
structure Session where
  document : Document
  options : ScanOptions
  lineRules : List ListedRule
  documentRules : List ListedRule
  identity : Value := .null
  version : Option Int := none
  /-- What came out of the scan, once it was done. -/
  result : Option ScanResult := none

/-- What came out of asking a session for its result. -/
structure Session.Run where
  outcome : Except Fault ScanResult
  session : Session
  log : List LogRecord

namespace Session

/-- The session of a text. The options are looked at first, then the rules for lines and for
documents, and last the text. -/
def create (text : Value) (options : OptionsArgument) (lineRules documentRules : List ListedRule)
    (identity : Value := .null) (version : Option Int := none) : Except Fault Session := do
  let options ← options.resolve
  ListedRule.validate "line" lineRules
  ListedRule.validate "document" documentRules
  let document ← Document.ofValue text
  return { document, options, lineRules, documentRules, identity, version }

/-- Whether the scan was done. -/
def isComplete (s : Session) : Bool := s.result.isSome

/-- The result of a session whose scan was not done yet, and the record of the scan. -/
def scanNow (s : Session) : Except Fault (ScanResult × LogRecord) :=
  if s.options.diagnosticsEnabled then do
    let diagnostics ← allDiagnostics s.lineRules s.documentRules s.document
    return (⟨s.document, diagnostics, Diagnostic.hasErrors diagnostics, false⟩,
      .scanned s.identity s.version s.document.lineCount diagnostics.length)
  else .ok (⟨s.document, [], false, true⟩, .skipped s.identity)

/-- The result of a session. It is kept, so that the scan is done once; a scan that fails leaves
nothing behind. -/
def run (s : Session) : Run :=
  match s.result with
  | some result => ⟨.ok result, s, []⟩
  | none =>
    match s.scanNow with
    | .ok (result, record) => ⟨.ok result, { s with result := some result }, [record]⟩
    | .error fault => ⟨.error fault, s, []⟩

end Session

/-- Scans a text with the given rules. -/
def runLint (text : Value) (options : OptionsArgument := .absent)
    (lineRules : List ListedRule := ListedRule.defaultLine)
    (documentRules : List ListedRule := ListedRule.defaultDocument) : Except Fault ScanResult := do
  let session ← Session.create text options lineRules documentRules
  session.run.outcome

/-- The diagnostics of a text. There are none when scans are switched off. -/
def scan (text : Value) (options : OptionsArgument := .absent) :
    Except Fault (List Diagnostic) := do
  let result ← runLint text options
  return result.diagnostics

end ScriptLint
