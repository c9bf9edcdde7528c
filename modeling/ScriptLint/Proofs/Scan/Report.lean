import ScriptLint.Proofs.Rule.Metadata
import ScriptLint.Proofs.Rule.Spans
import ScriptLint.Proofs.Text.Document
import ScriptLint.Scan.Session

/-!
# What a scan reports

A scan goes through the lines, at each through the rules, and at each of these through the findings,
and any of them may end in a fault. That a finding is placed on its line is not among the faults:
its columns are checked, but what a rule finds always passes (`Finding.place_eq_ok`), and there is
always a last line to report on (`DocumentRule.run_eq_ok`). Here the two sides of a scan are taken
apart. `lineReport` and `documentReport` are what the rules report when there is no fault, as plain
lists (`lineDiagnostics_eq_ok`, `documentDiagnostics_eq_ok`), and `mem_lineReport` says where each
diagnostic comes from. The faults are left to `fault?`, which commutes with each of the three loops.

`runLint_eq` is the scan of a text as the checks that come before it and one scan of the document.
-/

namespace ScriptLint

/-! ## One rule on one line -/

/-- The finding as a diagnostic on a line of a document. -/
def Finding.on (finding : Finding) (spec : Spec) (index : Nat) : Diagnostic :=
  spec.at (.onLine index finding.span) finding.message

/-- A finding with the columns of a span is on that span. -/
theorem Finding.on_columns (span : Span) (message : Option String) (spec : Spec) (index : Nat) :
    (⟨span.columns, message⟩ : Finding).on spec index = spec.at (.onLine index span) message := by
  rw [Finding.on, Finding.span, Columns.span_columns]

/-- What a rule finds can be placed on the line where it was found. -/
theorem Finding.place_eq_ok {finding : Finding} {rule : LineRule} {line : Line} {index : Nat}
    {document : Document} (h : .ok finding ∈ rule.findings line index document) :
    finding.place rule.spec index = .ok (finding.on rule.spec index) := by
  rw [Finding.place, ← LineRule.columns_span h, Range.ofColumns_columns]
  rfl

namespace LineRule

/-- The diagnostics of a rule for a line, of the findings that can be told. -/
def reported (rule : LineRule) (line : Line) (index : Nat) (document : Document) :
    List Diagnostic :=
  (rule.findings line index document).filterMap fun finding =>
    finding.toOption.map fun finding => finding.on rule.spec index

variable {rule : LineRule} {line : Line} {index : Nat} {document : Document}

/-- A run without a fault gives all that the rule finds. -/
theorem run_eq_ok {ds : List Diagnostic} (h : rule.run line index document = .ok ds) :
    ds = rule.reported line index document := by
  refine eq_filterMap_of_mapM ?_ h
  intro finding hfinding d hplace
  cases finding with
  | error fault => cases hplace
  | ok finding =>
    have hd : finding.place rule.spec index = .ok d := hplace
    rw [Finding.place_eq_ok hfinding] at hd
    cases hd
    rfl

/-- Findings that can all be told are all reported. -/
theorem run_of_findings {findings : List Finding}
    (h : rule.findings line index document = findings.map .ok) :
    rule.run line index document = .ok (findings.map fun finding => finding.on rule.spec index) := by
  rw [run, h, List.mapM_map]
  refine mapM_eq_ok_map fun finding hfinding => ?_
  have hfound : .ok finding ∈ rule.findings line index document := h ▸ List.mem_map_of_mem hfinding
  exact Finding.place_eq_ok hfound

/-- Columns that are found for sure are all reported, with the usual message. -/
theorem run_of_certain {found : List Columns}
    (h : rule.findings line index document = certain found) :
    ∃ ds, rule.run line index document = .ok ds ∧ (∀ d ∈ ds, d = rule.spec.at d.range) ∧
      ds.map (fun d => (d.range.start, d.range.stop)) =
        found.map fun columns => (⟨index, columns.span.column⟩, ⟨index, columns.span.stop⟩) := by
  have hfindings : rule.findings line index document =
      (found.map fun columns => (⟨columns, none⟩ : Finding)).map .ok := by
    rw [h, certain, List.map_map]
    rfl
  refine ⟨_, run_of_findings hfindings, ?_, ?_⟩
  · intro d hd
    obtain ⟨finding, hfinding, rfl⟩ := List.mem_map.mp hd
    obtain ⟨columns, -, rfl⟩ := List.mem_map.mp hfinding
    rfl
  · rw [List.map_map, List.map_map]
    rfl

/-- Spans that are found for sure are all reported, with the usual message. -/
theorem run_of_spans {found : List Span} (h : rule.findings line index document = spans found) :
    ∃ ds, rule.run line index document = .ok ds ∧ (∀ d ∈ ds, d = rule.spec.at d.range) ∧
      ds.map (fun d => (d.range.start, d.range.stop)) =
        found.map fun span => (⟨index, span.column⟩, ⟨index, span.stop⟩) := by
  obtain ⟨ds, hrun, hspec, hranges⟩ := run_of_certain h
  refine ⟨ds, hrun, hspec, ?_⟩
  rw [hranges, List.map_map]
  refine List.map_congr_left fun span _ => ?_
  rw [Function.comp_apply, Columns.span_columns]

/-- A run ends in the first fault among the findings. -/
theorem fault?_run (rule : LineRule) (line : Line) (index : Nat) (document : Document) :
    fault? (rule.run line index document) =
      (rule.findings line index document).findSome? fault? := by
  rw [run, fault?_mapM, ← List.head?_filterMap, ← List.head?_filterMap]
  congr 1
  refine List.filterMap_congr fun finding hfinding => ?_
  cases finding with
  | error fault => rfl
  | ok finding =>
    show fault? (finding.place rule.spec index) = none
    rw [Finding.place_eq_ok hfinding, fault?_ok]

/-- What is reported on a line was found in it. -/
theorem mem_reported {d : Diagnostic} :
    d ∈ rule.reported line index document ↔
      ∃ finding, .ok finding ∈ rule.findings line index document ∧
        d = finding.on rule.spec index := by
  rw [reported, List.mem_filterMap]
  constructor
  · rintro ⟨finding, hmem, hd⟩
    cases finding with
    | error fault => cases hd
    | ok finding =>
      cases hd
      exact ⟨finding, hmem, rfl⟩
  · rintro ⟨finding, hmem, rfl⟩
    exact ⟨.ok finding, hmem, rfl⟩

end LineRule

/-! ## One rule on a document -/

namespace DocumentRule

/-- The kinds of findings that a rule for documents reports. -/
def specs (rule : DocumentRule) : List Spec := rule.unclosed :: rule.extra?.toList

/-- The diagnostic, on the last line, that `count` delimiters have no partner. -/
def unpaired (document : Document) (spec : Spec) (count : Nat) : Diagnostic :=
  spec.at document.wholeLastLine (some s!"{count} {spec.message}")

/-- The diagnostics of a rule for a document. -/
def reported (rule : DocumentRule) (document : Document) : List Diagnostic :=
  let net := document.net rule.pair
  if 0 < net then [unpaired document rule.unclosed net.toNat]
  else if net < 0 then rule.extra?.toList.map fun spec => unpaired document spec (-net).toNat
  else []

/-- There is a last line, so an imbalance can be reported. -/
theorem imbalance_eq_ok (document : Document) (spec : Spec) (count : Nat) :
    imbalance document spec count = .ok [unpaired document spec count] := by
  rw [imbalance, Document.wholeLine_lastIndex]
  rfl

/-- A rule for documents has no faults. -/
theorem run_eq_ok (rule : DocumentRule) (document : Document) :
    rule.run document = .ok (rule.reported document) := by
  simp only [run, reported, imbalance_eq_ok]
  split
  · rfl
  · split
    · cases rule.extra? with
      | none => rfl
      | some spec => rfl
    · rfl

/-- A rule for documents reports that delimiters have no partner, in one of its kinds. -/
theorem mem_reported {rule : DocumentRule} {document : Document} {d : Diagnostic}
    (h : d ∈ rule.reported document) :
    ∃ spec ∈ rule.specs, ∃ count, d = unpaired document spec count := by
  simp only [reported] at h
  split at h
  · rw [List.mem_singleton] at h
    exact ⟨rule.unclosed, List.mem_cons_self, _, h⟩
  · split at h
    · obtain ⟨spec, hextra, rfl⟩ := List.mem_map.mp h
      exact ⟨spec, List.mem_cons_of_mem _ hextra, _, rfl⟩
    · cases h

end DocumentRule

/-! ## All rules on all lines -/

namespace ListedRule

/-- The rule for lines that is listed, if it is one. -/
def line? (listed : ListedRule) : Option LineRule :=
  match listed.rule with
  | .line rule => some rule
  | .document _ => none

/-- The rule for documents that is listed, if it is one. -/
def document? (listed : ListedRule) : Option DocumentRule :=
  match listed.rule with
  | .line _ => none
  | .document rule => some rule

/-- A rule for lines, listed with any metadata. -/
def lineWith (entry : LineRule × Metadata) : ListedRule := ⟨.line entry.1, entry.2⟩

/-- A rule for documents, listed with any metadata. -/
def documentWith (entry : DocumentRule × Metadata) : ListedRule := ⟨.document entry.1, entry.2⟩

/-- The rules for lines in a list of them with metadata. -/
theorem filterMap_line?_lineWith (entries : List (LineRule × Metadata)) :
    (entries.map lineWith).filterMap line? = entries.map Prod.fst := by
  rw [List.filterMap_map, ← List.filterMap_eq_map]
  rfl

/-- The rules for documents in a list of them with metadata. -/
theorem filterMap_document?_documentWith (entries : List (DocumentRule × Metadata)) :
    (entries.map documentWith).filterMap document? = entries.map Prod.fst := by
  rw [List.filterMap_map, ← List.filterMap_eq_map]
  rfl

/-- A listed rule that runs on a line without a fault is a rule for lines. -/
theorem runOnLine_eq_ok {listed : ListedRule} {line : Line} {index : Nat} {document : Document}
    {ds : List Diagnostic} (h : listed.runOnLine line index document = .ok ds) :
    ∃ rule, listed.line? = some rule ∧ ds = rule.reported line index document := by
  unfold runOnLine at h
  split at h
  · next rule hrule => exact ⟨rule, by rw [line?, hrule], LineRule.run_eq_ok h⟩
  · cases h

/-- A listed rule that runs on a document without a fault is a rule for documents. -/
theorem runOnDocument_eq_ok {listed : ListedRule} {document : Document} {ds : List Diagnostic}
    (h : listed.runOnDocument document = .ok ds) :
    ∃ rule, listed.document? = some rule ∧ ds = rule.reported document := by
  unfold runOnDocument at h
  split at h
  · cases h
  · next rule hrule =>
    rw [DocumentRule.run_eq_ok] at h
    cases h
    exact ⟨rule, by rw [document?, hrule], rfl⟩

end ListedRule

/-- What rules for lines report on a document, line by line. -/
def lineReport (rules : List LineRule) (document : Document) : List Diagnostic :=
  document.lines.zipIdx.flatMap fun entry =>
    rules.flatMap fun rule => rule.reported entry.1 entry.2 document

/-- What rules for documents report on a document. -/
def documentReport (rules : List DocumentRule) (document : Document) : List Diagnostic :=
  rules.flatMap fun rule => rule.reported document

/-- The rules for lines, run on one line without a fault, give what they report there. -/
theorem rulesOnLine_eq_ok {rules : List ListedRule} {line : Line} {index : Nat}
    {document : Document} {found : List (List Diagnostic)}
    (h : (rules.mapM fun rule => rule.runOnLine line index document) = .ok found) :
    found.flatten = (rules.filterMap ListedRule.line?).flatMap fun rule =>
      rule.reported line index document := by
  have hfound := eq_filterMap_of_mapM
    (g := fun listed => listed.line?.map fun rule => rule.reported line index document)
    (fun listed _ ds hrun => by
      obtain ⟨rule, hrule, rfl⟩ := ListedRule.runOnLine_eq_ok hrun
      rw [hrule, Option.map_some]) h
  rw [hfound, List.flatMap_def, List.map_filterMap]

/-- The rules for lines, run without a fault, give their report. -/
theorem lineDiagnostics_eq_ok {rules : List ListedRule} {document : Document}
    {ds : List Diagnostic} (h : lineDiagnostics rules document = .ok ds) :
    ds = lineReport (rules.filterMap ListedRule.line?) document := by
  obtain ⟨found, hfound, hds⟩ := bind_eq_ok h
  cases hds
  have hlines := eq_filterMap_of_mapM
    (g := fun entry => some ((rules.filterMap ListedRule.line?).flatMap fun rule =>
      rule.reported entry.1 entry.2 document))
    (fun entry _ onLine hline => by
      obtain ⟨perRule, hrules, honLine⟩ := bind_eq_ok hline
      cases honLine
      rw [rulesOnLine_eq_ok hrules]) hfound
  rw [hlines, lineReport, List.flatMap_def, ← List.filterMap_eq_map]
  rfl

/-- The rules for documents, run without a fault, give their report. -/
theorem documentDiagnostics_eq_ok {rules : List ListedRule} {document : Document}
    {ds : List Diagnostic} (h : documentDiagnostics rules document = .ok ds) :
    ds = documentReport (rules.filterMap ListedRule.document?) document := by
  obtain ⟨found, hfound, hds⟩ := bind_eq_ok h
  cases hds
  have hrules := eq_filterMap_of_mapM
    (g := fun listed => listed.document?.map fun rule => rule.reported document)
    (fun listed _ ds hrun => by
      obtain ⟨rule, hrule, rfl⟩ := ListedRule.runOnDocument_eq_ok hrun
      rw [hrule, Option.map_some]) hfound
  rw [hrules, documentReport, List.flatMap_def, List.map_filterMap]

/-- A scan without a fault sorts the two reports. -/
theorem allDiagnostics_eq_ok {lineRules documentRules : List ListedRule} {document : Document}
    {ds : List Diagnostic} (h : allDiagnostics lineRules documentRules document = .ok ds) :
    ds = Diagnostic.sort (lineReport (lineRules.filterMap ListedRule.line?) document ++
      documentReport (documentRules.filterMap ListedRule.document?) document) := by
  obtain ⟨onLines, hlines, h⟩ := bind_eq_ok h
  obtain ⟨onDocument, hdocument, h⟩ := bind_eq_ok h
  cases h
  rw [lineDiagnostics_eq_ok hlines, documentDiagnostics_eq_ok hdocument]

/-- Every diagnostic of a line report was found by one of the rules in one of the lines. -/
theorem mem_lineReport {rules : List LineRule} {document : Document} {d : Diagnostic} :
    d ∈ lineReport rules document ↔
      ∃ (index : Nat) (line : Line), document.lines[index]? = some line ∧
        ∃ rule ∈ rules, ∃ finding, .ok finding ∈ rule.findings line index document ∧
          d = finding.on rule.spec index := by
  simp only [lineReport, List.mem_flatMap, LineRule.mem_reported, Prod.exists,
    List.mk_mem_zipIdx_iff_getElem?]
  constructor
  · rintro ⟨line, index, hline, rule, hrule, finding⟩
    exact ⟨index, line, hline, rule, hrule, finding⟩
  · rintro ⟨index, line, hline, rule, hrule, finding⟩
    exact ⟨line, index, hline, rule, hrule, finding⟩

/-! ## Faults of a scan -/

/-- The rules for lines end in the first fault, line by line and rule by rule. -/
theorem fault?_lineDiagnostics (rules : List ListedRule) (document : Document) :
    fault? (lineDiagnostics rules document) =
      document.lines.zipIdx.findSome? fun entry =>
        rules.findSome? fun rule => fault? (rule.runOnLine entry.1 entry.2 document) := by
  rw [lineDiagnostics, fault?_bind_pure, fault?_mapM]
  congr 1
  funext entry
  rw [fault?_bind_pure, fault?_mapM]

/-- Rules for documents have no faults, so that they always give their report. -/
theorem documentDiagnostics_documentWith (entries : List (DocumentRule × Metadata))
    (document : Document) :
    documentDiagnostics (entries.map ListedRule.documentWith) document =
      .ok (documentReport (entries.map Prod.fst) document) := by
  have hrules : ((entries.map ListedRule.documentWith).mapM fun rule => rule.runOnDocument document) =
      .ok (entries.map fun entry => entry.1.reported document) := by
    rw [List.mapM_map]
    exact mapM_eq_ok_map fun entry _ => entry.1.run_eq_ok document
  rw [documentDiagnostics, hrules, documentReport, List.flatMap_map]
  rfl

/-- With rules for documents in the second list, a scan ends in a fault of the first. -/
theorem fault?_allDiagnostics (lineRules : List ListedRule)
    (entries : List (DocumentRule × Metadata)) (document : Document) :
    fault? (allDiagnostics lineRules (entries.map ListedRule.documentWith) document) =
      fault? (lineDiagnostics lineRules document) := by
  rw [allDiagnostics, fault?_bind_bind_pure, documentDiagnostics_documentWith, fault?_ok,
    Option.or_none]

/-! ## The scan of a text -/

/-- The scan of a document with options and rules that were accepted. -/
def scanDocument (options : ScanOptions) (lineRules documentRules : List ListedRule)
    (document : Document) : Except Fault ScanResult :=
  if options.diagnosticsEnabled then do
    let diagnostics ← allDiagnostics lineRules documentRules document
    return ⟨document, diagnostics, Diagnostic.hasErrors diagnostics, false⟩
  else .ok ⟨document, [], false, true⟩

/-- What comes out of a session that has no result yet depends on its document, its options and its
rules alone. -/
theorem Session.run_outcome {s : Session} (h : s.result = none) :
    s.run.outcome = scanDocument s.options s.lineRules s.documentRules s.document := by
  unfold Session.run Session.scanNow scanDocument
  rw [h]
  cases s.options.diagnosticsEnabled with
  | false => rfl
  | true =>
    cases allDiagnostics s.lineRules s.documentRules s.document with
    | error fault => rfl
    | ok diagnostics => rfl

/-- A text is scanned after the options, the two lists of rules and the text were accepted. -/
theorem runLint_eq (text : Value) (options : OptionsArgument)
    (lineRules documentRules : List ListedRule) :
    runLint text options lineRules documentRules = (do
      let options ← options.resolve
      ListedRule.validate "line" lineRules
      ListedRule.validate "document" documentRules
      let document ← Document.ofValue text
      scanDocument options lineRules documentRules document) := by
  unfold runLint Session.create
  cases options.resolve with
  | error fault => rfl
  | ok options =>
    cases ListedRule.validate "line" lineRules with
    | error fault => rfl
    | ok _ =>
      cases ListedRule.validate "document" documentRules with
      | error fault => rfl
      | ok _ =>
        cases Document.ofValue text with
        | error fault => rfl
        | ok document => exact Session.run_outcome rfl

/-- The diagnostics of a scan that gives a result are those of all its rules, unless the text was
skipped. -/
theorem runLint_eq_ok {text : Value} {options : OptionsArgument}
    {lineRules documentRules : List ListedRule} {result : ScanResult}
    (h : runLint text options lineRules documentRules = .ok result) :
    result.diagnostics = [] ∨
      allDiagnostics lineRules documentRules result.document = .ok result.diagnostics := by
  rw [runLint_eq] at h
  obtain ⟨options, -, h⟩ := bind_eq_ok h
  obtain ⟨-, -, h⟩ := bind_eq_ok h
  obtain ⟨-, -, h⟩ := bind_eq_ok h
  obtain ⟨document, -, h⟩ := bind_eq_ok h
  unfold scanDocument at h
  split at h
  · obtain ⟨diagnostics, hall, h⟩ := bind_eq_ok h
    cases h
    exact Or.inr hall
  · cases h
    exact Or.inl rfl

/-- The full scan of a text gives what all rules report on its document. -/
theorem scan_eq_ok_iff {text : Value} {ds : List Diagnostic} :
    scan text = .ok ds ↔ ∃ document, Document.ofValue text = .ok document ∧
      allDiagnostics ListedRule.defaultLine ListedRule.defaultDocument document = .ok ds := by
  -- Nothing is left to check but the text, since the usual rules are acceptable.
  have hscan : scan text = (do
      let document ← Document.ofValue text
      allDiagnostics ListedRule.defaultLine ListedRule.defaultDocument document) := by
    unfold scan
    rw [runLint_eq, ListedRule.validate_defaultLine, ListedRule.validate_defaultDocument]
    cases Document.ofValue text with
    | error fault => rfl
    | ok document =>
      show (do
        let result ← scanDocument {} ListedRule.defaultLine ListedRule.defaultDocument document
        return result.diagnostics) = _
      rw [scanDocument, if_pos rfl]
      show _ = allDiagnostics ListedRule.defaultLine ListedRule.defaultDocument document
      cases allDiagnostics ListedRule.defaultLine ListedRule.defaultDocument document with
      | error fault => rfl
      | ok diagnostics => rfl
  rw [hscan]
  constructor
  · intro h
    exact bind_eq_ok h
  · rintro ⟨document, hdocument, hall⟩
    rw [hdocument]
    exact hall

end ScriptLint
