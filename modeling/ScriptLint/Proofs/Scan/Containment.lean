import ScriptLint.Proofs.Scan.Report
import ScriptLint.Proofs.Text.Range

/-!
# Diagnostics lie in their document

An editor that is given a range outside the text, or one over several lines, cannot mark it.
`runLint_ranges_within` says that no scan gives one: with any rules and any text, every range is a
stretch of one line, and it is empty only where a rule for documents reports on a last line that has
no characters.

Rules for lines report spans of their lines, which is `LineRule.findings_within`. Rules for documents
report on all of the last line.
-/

namespace ScriptLint

/-- The range is a stretch of one line of the document. -/
def Document.Holds (document : Document) (range : Range) : Prop :=
  range.start.line = range.stop.line ∧
    ∃ line, document.lines[range.stop.line]? = some line ∧ range.stop.column ≤ line.length

/-- A stretch of one line has both its ends in the document. -/
theorem Document.Holds.contains {document : Document} {range : Range}
    (h : document.Holds range) : document.contains range = true := by
  obtain ⟨hsame, line, hline, hstop⟩ := h
  have hstart : range.start.column ≤ range.stop.column := by
    have hordered := Position.le_def.mp range.ordered
    omega
  rw [Document.contains_iff]
  refine ⟨⟨line, ?_, hstart.trans hstop⟩, line, hline, hstop⟩
  rw [hsame]
  exact hline

/-- A span that ends within a line of the document is a stretch of that line. -/
theorem Document.holds_onLine {document : Document} {index : Nat} {line : Line} {span : Span}
    (hline : document.lines[index]? = some line) (hspan : span.stop ≤ line.length) :
    document.Holds (.onLine index span) :=
  ⟨rfl, line, hline, hspan⟩

/-- A range on a line is empty exactly when its span has no columns. -/
theorem Range.isEmpty_onLine (index : Nat) (span : Span) :
    (Range.onLine index span).isEmpty = true ↔ span.length = 0 := by
  simp only [Range.isEmpty, Range.onLine, Span.stop, beq_iff_eq, Position.mk.injEq, true_and]
  omega

/-- What a rule for lines finds in a line of the document is a stretch of that line, and is not
empty. -/
theorem Finding.holds_on {rule : LineRule} {document : Document} {index : Nat} {line : Line}
    {finding : Finding} (hline : document.lines[index]? = some line)
    (hfinding : .ok finding ∈ rule.findings line index document) :
    document.Holds (finding.on rule.spec index).range ∧
      (finding.on rule.spec index).range.isEmpty = false := by
  obtain ⟨hpos, hstop⟩ := LineRule.findings_within hfinding
  refine ⟨Document.holds_onLine hline hstop, ?_⟩
  rw [Bool.eq_false_iff]
  intro hempty
  have hzero := (Range.isEmpty_onLine index finding.span).mp hempty
  omega

/-- What the codes of findings about the balance of delimiters begin with. -/
def Spec.balancePrefix : List Char := "LINT_BALANCE_".toList

/-- The kinds of findings of rules for documents are about the balance of delimiters. -/
theorem DocumentRule.balancePrefix_code {rule : DocumentRule} {spec : Spec}
    (h : spec ∈ rule.specs) : Spec.balancePrefix <+: spec.code.toList := by
  have hall : ∀ spec ∈ rule.specs, Spec.balancePrefix <+: spec.code.toList := by
    cases rule with
    | braces => decide
    | brackets => decide
    | parens => decide
  exact hall spec h

/-- What a rule for documents reports is all of the last line, which may have no characters. -/
theorem DocumentRule.holds_of_mem_reported {rule : DocumentRule} {document : Document}
    {d : Diagnostic} (h : d ∈ rule.reported document) :
    document.Holds d.range ∧
      (d.range.isEmpty = true →
        Spec.balancePrefix <+: d.code.toList ∧ document.lastLine = []) := by
  obtain ⟨spec, hspec, count, rfl⟩ := DocumentRule.mem_reported h
  refine ⟨Document.holds_onLine document.getElem?_lastIndex ?_, ?_⟩
  · simp [Span.wholeLine, Span.stop]
  · intro hempty
    refine ⟨DocumentRule.balancePrefix_code hspec, ?_⟩
    exact List.length_eq_zero_iff.mp ((Range.isEmpty_onLine _ _).mp hempty)

/-- A diagnostic of a scan is on a stretch of one line, which is empty only on a last line without
characters. -/
theorem holds_of_mem_allDiagnostics {lineRules documentRules : List ListedRule}
    {document : Document} {ds : List Diagnostic} {d : Diagnostic}
    (h : allDiagnostics lineRules documentRules document = .ok ds) (hd : d ∈ ds) :
    document.Holds d.range ∧
      (d.range.isEmpty = true →
        Spec.balancePrefix <+: d.code.toList ∧ document.lastLine = []) := by
  -- Sorting keeps the diagnostics, so each comes from one of the two reports.
  rw [allDiagnostics_eq_ok h, Diagnostic.sort, List.mem_mergeSort, List.mem_append] at hd
  rcases hd with hd | hd
  · obtain ⟨index, line, hline, rule, -, finding, hfinding, rfl⟩ := mem_lineReport.mp hd
    obtain ⟨hholds, hempty⟩ := Finding.holds_on hline hfinding
    refine ⟨hholds, fun hcontra => ?_⟩
    rw [hempty] at hcontra
    cases hcontra
  · obtain ⟨rule, -, hd⟩ := List.mem_flatMap.mp hd
    exact DocumentRule.holds_of_mem_reported hd

/-- Every diagnostic of a scan is on a stretch of one line of the scanned document, and no range is
empty but that of a finding about the balance of delimiters on a last line without characters. In
particular what a rule for lines reports is never empty. -/
theorem runLint_ranges_within {text : Value} {options : OptionsArgument}
    {lineRules documentRules : List ListedRule} {result : ScanResult}
    (h : runLint text options lineRules documentRules = .ok result) :
    (∀ d ∈ result.diagnostics,
      result.document.contains d.range = true ∧
      d.range.start.line = d.range.stop.line ∧
      d.range.stop.line < result.document.lineCount ∧
      (∃ line, result.document.lines[d.range.stop.line]? = some line ∧
        d.range.stop.column ≤ line.length) ∧
      (d.range.isEmpty = true →
        Spec.balancePrefix <+: d.code.toList ∧ result.document.lastLine = [])) ∧
    ∀ listed ∈ lineRules, ∀ (index : Nat) (line : Line),
      result.document.lines[index]? = some line →
        ∀ ds, listed.runOnLine line index result.document = .ok ds →
          ∀ d ∈ ds, d.range.isEmpty = false := by
  constructor
  · intro d hd
    rcases runLint_eq_ok h with hnone | hall
    · rw [hnone] at hd
      cases hd
    · obtain ⟨hholds, hempty⟩ := holds_of_mem_allDiagnostics hall hd
      have hcontains := hholds.contains
      obtain ⟨hsame, line, hline, hstop⟩ := hholds
      have hindex := (List.getElem?_eq_some_iff.mp hline).1
      exact ⟨hcontains, hsame, hindex, ⟨line, hline, hstop⟩, hempty⟩
  · intro listed _ index line hline ds hrun d hd
    obtain ⟨rule, -, rfl⟩ := ListedRule.runOnLine_eq_ok hrun
    obtain ⟨finding, hfinding, rfl⟩ := LineRule.mem_reported.mp hd
    exact (Finding.holds_on hline hfinding).2

/-- A pipeline that ends its line is marked from the operator on, and a brace that nothing closes is
reported as an empty range, since the text ends in a line feed. -/
theorem runLint_ranges_within_trailing_newline :
    let document := Document.ofText "x |>\n\x7b\n"
    let ds := Diagnostic.sort
      [Spec.danglingPipe.at (.onLine 0 ⟨2, 2⟩),
        Spec.unclosedBrace.at (.onLine 2 ⟨0, 0⟩) (some s!"1 {Spec.unclosedBrace.message}")]
    runLint (.text "x |>\n\x7b\n") .absent [.ofLine .danglingPipe] [.ofDocument .braces] =
        .ok ⟨document, ds, Diagnostic.hasErrors ds, false⟩ ∧
      ∀ d ∈ ds,
        document.contains d.range = true ∧
        d.range.start.line = d.range.stop.line ∧
        d.range.stop.line < document.lineCount ∧
        (∃ line, document.lines[d.range.stop.line]? = some line ∧
          d.range.stop.column ≤ line.length) ∧
        (d.range.isEmpty = true →
          Spec.balancePrefix <+: d.code.toList ∧ document.lastLine = []) := by
  intro document ds
  have hscan : runLint (.text "x |>\n\x7b\n") .absent [.ofLine .danglingPipe]
      [.ofDocument .braces] = .ok ⟨document, ds, Diagnostic.hasErrors ds, false⟩ := rfl
  exact ⟨hscan, (runLint_ranges_within hscan).1⟩

end ScriptLint
