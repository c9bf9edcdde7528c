import ScriptLint.Proofs.Diagnostic.Rendering
import ScriptLint.Proofs.Scan.Containment
import ScriptLint.Proofs.Scan.Outcome
import ScriptLint.Proofs.Scan.Selection
import ScriptLint.Proofs.Text.Document

/-!
# No diagnostic is reported twice

The report of a scan is in strict order, and its printed lines are all different
(`scan_strictly_ordered`). Both come from one fact: no two diagnostics with the same code start at the same
place (`report_pairwise_apart`). On one line, a rule finds things from left to right and no two in one
column (`findings_pairwise`); different rules have different codes; and findings on different lines start
in different places. A rule for documents has one thing to say at most.
-/

namespace ScriptLint

/-! ## One rule on one line -/

/-- Two findings of which the first starts to the left of the second, if both can be told. -/
def Finding.LeftOf (a b : Except Fault Finding) : Prop :=
  ∀ f g, a = .ok f → b = .ok g → f.span.column < g.span.column

namespace LineRule

/-- Spans from left to right are findings from left to right. -/
theorem spans_pairwise {found : List Span} (h : found.Pairwise fun a b => a.column < b.column) :
    (spans found).Pairwise Finding.LeftOf := by
  unfold spans certain
  rw [List.map_map, List.pairwise_map]
  refine h.imp fun {a b} hlt f g hf hg => ?_
  cases hf
  cases hg
  exact hlt

/-- A list with at most one member has no two of them. -/
theorem pairwise_toList {α : Type} (R : α → α → Prop) (a? : Option α) : a?.toList.Pairwise R := by
  cases a? with
  | none => exact List.Pairwise.nil
  | some a => exact List.pairwise_singleton _ _

/-- A range that is judged is found in its column. -/
theorem column_of_judgeRange {found : Nat × RangeToken} {finding : Finding}
    (h : judgeRange found = some (.ok finding)) : finding.span.column = found.1 := by
  unfold judgeRange at h
  split at h
  · cases h
  · cases h
  · cases h
    rfl

/-- A rule finds things from left to right, and no two in one column. -/
theorem findings_pairwise (rule : LineRule) (line : Line) (index : Int) (document : Document) :
    (rule.findings line index document).Pairwise Finding.LeftOf := by
  cases rule with
  | loneBar | leadingDigit | emptyProperty =>
    exact spans_pairwise (List.pairwise_map.mpr (Line.findAll_pairwise _ _ line))
  | unclosedMatch =>
    show (openMatch line index document).Pairwise _
    unfold openMatch
    split
    · exact List.Pairwise.nil
    · split
      · exact List.pairwise_singleton _ _
      · exact List.Pairwise.nil
      · exact List.pairwise_singleton _ _
  | armWithoutPattern =>
    refine spans_pairwise ?_
    split
    · exact List.pairwise_singleton _ _
    · exact List.Pairwise.nil
  | backwardRange =>
    show ((RangeToken.tokens line).filterMap judgeRange).Pairwise _
    rw [List.pairwise_filterMap]
    refine (Line.findAll_pairwise _ _ line).imp fun {a b} hlt x hx y hy f g hf hg => ?_
    subst hf hg
    rw [column_of_judgeRange hx, column_of_judgeRange hy]
    exact hlt
  | queryVariable | queryWithoutSelect | functionName | structName | withContext =>
    exact spans_pairwise (pairwise_toList _ _)
  | danglingPipe | arrowWithoutBody | mixedIndentation | redundantSemicolon | operatorOverload
  | unclosedString => exact List.pairwise_map.mpr (pairwise_toList _ _)

/-- What a rule reports on a line starts from left to right. -/
theorem reported_pairwise (rule : LineRule) (line : Line) (index : Nat) (document : Document) :
    (rule.reported line index document).Pairwise fun a b =>
      a.range.start.column < b.range.start.column := by
  unfold reported
  rw [List.pairwise_filterMap]
  refine (rule.findings_pairwise line index document).imp fun {a b} hleft x hx y hy => ?_
  cases a with
  | error fault => cases hx
  | ok f =>
    cases b with
    | error fault => cases hy
    | ok g =>
      cases hx
      cases hy
      exact hleft f g rfl rfl

end LineRule

/-! ## All rules -/

/-- Two diagnostics that do not start at one place with one code. -/
def Diagnostic.Apart (a b : Diagnostic) : Prop :=
  ¬ (a.range.start = b.range.start ∧ a.code = b.code)

/-- Diagnostics are apart from either side. -/
theorem Diagnostic.Apart.symm {a b : Diagnostic} (h : a.Apart b) : b.Apart a :=
  fun hsame => h ⟨hsame.1.symm, hsame.2.symm⟩

/-- What different rules report is apart. -/
theorem Diagnostic.apart_of_codes {a b : Diagnostic} {rule other : Rule} (hne : rule ≠ other)
    (ha : a.code ∈ rule.codes) (hb : b.code ∈ other.codes) : a.Apart b := by
  rintro ⟨-, hcode⟩
  rw [hcode] at ha
  exact hne (Rule.eq_of_mem_codes ha hb)

/-- What rules for lines report on a line is on that line. -/
theorem LineRule.line_of_mem_reported {rule : LineRule} {line : Line} {index : Nat}
    {document : Document} {d : Diagnostic} (h : d ∈ rule.reported line index document) :
    d.range.start.line = index := by
  obtain ⟨finding, -, rfl⟩ := LineRule.mem_reported.mp h
  rfl

/-- What rules for lines, listed once each, report on a document is apart. -/
theorem lineReport_pairwise_apart {rules : List LineRule} (hrules : rules.Nodup)
    (document : Document) : (lineReport rules document).Pairwise Diagnostic.Apart := by
  unfold lineReport
  rw [List.pairwise_flatMap]
  constructor
  · -- On one line, the rules have different codes, and one rule reports from left to right.
    rintro ⟨line, index⟩ -
    rw [List.pairwise_flatMap]
    refine ⟨fun rule _ => ?_, hrules.imp fun {rule other} hne a ha b hb => ?_⟩
    · refine (rule.reported_pairwise line index document).imp fun {a b} hlt hsame => ?_
      rw [hsame.1] at hlt
      exact Nat.lt_irrefl _ hlt
    · exact Diagnostic.apart_of_codes (fun heq => hne (Rule.line.inj heq))
        (LineRule.code_mem_codes ha) (LineRule.code_mem_codes hb)
  · -- On different lines, they start in different places.
    have hindices : document.lines.zipIdx.Pairwise fun a b => a.2 < b.2 := by
      rw [← List.pairwise_map (f := Prod.snd) (R := (· < ·)), List.zipIdx_map_snd]
      exact List.pairwise_lt_range'
    refine hindices.imp fun {entry other} hlt a ha b hb hsame => ?_
    obtain ⟨rule, -, ha⟩ := List.mem_flatMap.mp ha
    obtain ⟨rule', -, hb⟩ := List.mem_flatMap.mp hb
    have hline := LineRule.line_of_mem_reported ha
    have hother := LineRule.line_of_mem_reported hb
    rw [hsame.1] at hline
    omega

/-- What rules for documents, listed once each, report on a document is apart. -/
theorem documentReport_pairwise_apart {rules : List DocumentRule} (hrules : rules.Nodup)
    (document : Document) : (documentReport rules document).Pairwise Diagnostic.Apart := by
  unfold documentReport
  rw [List.pairwise_flatMap]
  refine ⟨fun rule _ => ?_, hrules.imp fun {rule other} hne a ha b hb => ?_⟩
  · -- A rule reports that there are too many openers, or too many closers, or nothing.
    simp only [DocumentRule.reported]
    split
    · exact List.pairwise_singleton _ _
    · split
      · cases rule.extra? with
        | none => exact List.Pairwise.nil
        | some spec => exact List.pairwise_singleton _ _
      · exact List.Pairwise.nil
  · exact Diagnostic.apart_of_codes (fun heq => hne (Rule.document.inj heq))
      (DocumentRule.code_mem_codes ha) (DocumentRule.code_mem_codes hb)

/-- What rules, listed once each, report on a document is apart. -/
theorem report_pairwise_apart {lineRules : List LineRule} {documentRules : List DocumentRule}
    (hlines : lineRules.Nodup) (hdocuments : documentRules.Nodup) (document : Document) :
    (lineReport lineRules document ++ documentReport documentRules document).Pairwise
      Diagnostic.Apart := by
  rw [List.pairwise_append]
  refine ⟨lineReport_pairwise_apart hlines document,
    documentReport_pairwise_apart hdocuments document, fun a ha b hb => ?_⟩
  obtain ⟨entry, -, ha⟩ := List.mem_flatMap.mp ha
  obtain ⟨rule, -, ha⟩ := List.mem_flatMap.mp ha
  obtain ⟨other, -, hb⟩ := List.mem_flatMap.mp hb
  have hne : Rule.line rule ≠ Rule.document other := nofun
  exact Diagnostic.apart_of_codes hne (LineRule.code_mem_codes ha) (DocumentRule.code_mem_codes hb)

/-! ## The sorted report and its lines -/

/-- Diagnostics that are apart stand in strict order in a report. -/
theorem Diagnostic.sort_pairwise_lt {ds : List Diagnostic} (h : ds.Pairwise Apart) :
    (sort ds).Pairwise fun a b => a.key < b.key ∧ a.Apart b := by
  have hapart : (sort ds).Pairwise Apart :=
    ((sort_perm ds).pairwise_iff fun hab => hab.symm).mpr h
  refine ((sort_pairwise ds).and hapart).imp fun {a b} hab => ⟨?_, hab.2⟩
  refine lt_of_le_of_ne (precedes_iff.mp hab.1) fun hkey => hab.2 ?_
  obtain ⟨hrange, hcode, -⟩ := eq_of_key_eq hkey
  exact ⟨congrArg Range.start hrange, hcode⟩

/-- The severity and the code of every kind of finding are one word each. -/
theorem Spec.isPlain_at {spec : Spec} (h : spec ∈ Spec.catalog) (range : Range)
    (message : Option String) : (spec.at range message).IsPlain := by
  have hall : ∀ spec ∈ Spec.catalog,
      ' ' ∉ spec.severity.name.toList ∧ ' ' ∉ spec.code.toList := by
    decide +kernel
  exact ⟨(hall spec h).1, (hall spec h).2⟩

/-- A diagnostic of a text is written as its line, unless the text is so long that the numbers of lines
or columns may have too many digits. -/
theorem write_eq_of_holds {s : String} {d : Diagnostic} (h : (Document.ofText s).Holds d.range)
    (path : Option String) :
    d.write path = .ok (d.render path) ∨
      (d.write path = .error .tooManyDigits ∧ 10 ^ Numeral.maxDigits ≤ s.length + 1) := by
  obtain ⟨hsame, line, hline, hstop⟩ := h
  have hcount := Document.lineCount_ofText_le s
  have hlength := Document.length_le_of_mem_ofText (List.mem_of_getElem? hline)
  have hindex : d.range.stop.line < (Document.ofText s).lineCount :=
    (List.getElem?_eq_some_iff.mp hline).1
  have hordered := Position.le_def.mp d.range.ordered
  rw [Diagnostic.write_eq]
  generalize 10 ^ Numeral.maxDigits = limit
  split
  · exact Or.inl rfl
  · refine Or.inr ⟨rfl, ?_⟩
    omega

/-- The report of a scan is in strict order: by the start of the range, its stop, the code and the
message. No two diagnostics with one code start at one place, and so the lines that are printed, after
any path or none, are all different. A diagnostic is printed as its line unless the text is too long for
the numbers of its lines and columns. -/
theorem scan_strictly_ordered {s : String} {ds : List Diagnostic}
    (hscan : scan (.text s) = .ok ds) :
    ds.Pairwise (fun a b => a.key < b.key) ∧
    ds.Pairwise (fun a b => ¬ (a.range.start = b.range.start ∧ a.code = b.code)) ∧
    ∀ path : Option String,
      ds.Pairwise (fun a b => a.render path ≠ b.render path) ∧
      ∀ d ∈ ds, d.write path = .ok (d.render path) ∨
        (d.write path = .error .tooManyDigits ∧ 10 ^ Numeral.maxDigits ≤ s.length + 1) := by
  obtain ⟨-, hds⟩ := scan_text_eq_ok_iff.mp hscan
  have hstrict : ds.Pairwise fun a b => a.key < b.key ∧ a.Apart b := by
    rw [hds]
    exact Diagnostic.sort_pairwise_lt (report_pairwise_apart (by decide) (by decide) _)
  have hplain : ∀ d ∈ ds, d.IsPlain := by
    intro d hd
    rw [hds, (Diagnostic.sort_perm _).mem_iff] at hd
    obtain ⟨spec, hspec, range, message, rfl⟩ := exists_spec_of_mem_report hd
    exact Spec.isPlain_at hspec range message
  have hholds : ∀ d ∈ ds, (Document.ofText s).Holds d.range := by
    obtain ⟨document, hdocument, hall⟩ := scan_eq_ok_iff.mp hscan
    cases hdocument
    exact fun d hd => (holds_of_mem_allDiagnostics hall hd).1
  refine ⟨hstrict.imp And.left, hstrict.imp And.right, fun path => ⟨?_, fun d hd => ?_⟩⟩
  · -- Lines that are equal would be those of diagnostics with one place and one code.
    refine hstrict.imp_of_mem fun {a b} ha hb hab hline => hab.2 ?_
    obtain ⟨hstart, -, hcode, -⟩ := Diagnostic.render_inj (hplain a ha) (hplain b hb) hline
    exact ⟨hstart, hcode⟩
  · exact write_eq_of_holds (hholds d hd) path

/-- Two bars that are no operators, on the last line of a text with an open brace: the first bar and the
line of the brace start at one place, and the bars have one code. -/
theorem scan_strictly_ordered_two_bars :
    let ds := Diagnostic.sort
      [Spec.loneBar.at (.onLine 1 ⟨0, 2⟩), Spec.loneBar.at (.onLine 1 ⟨3, 2⟩),
        Spec.unclosedBrace.at (.onLine 1 ⟨0, 5⟩) (some s!"1 {Spec.unclosedBrace.message}")]
    scan (.text "\x7b\n|a |b") = .ok ds ∧ ds.Pairwise (fun a b => a.key < b.key) ∧
      ds.Pairwise (fun a b => ¬ (a.range.start = b.range.start ∧ a.code = b.code)) ∧
      ds.Pairwise (fun a b => a.render (some "a.csc") ≠ b.render (some "a.csc")) := by
  intro ds
  have hscan : scan (.text "\x7b\n|a |b") = .ok ds := scan_eq_ok_iff.mpr ⟨_, rfl, rfl⟩
  obtain ⟨hstrict, hapart, hlines⟩ := scan_strictly_ordered hscan
  exact ⟨hscan, hstrict, hapart, (hlines (some "a.csc")).1⟩

end ScriptLint
