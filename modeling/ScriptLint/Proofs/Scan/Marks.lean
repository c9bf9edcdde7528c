import ScriptLint.Proofs.Scan.Containment
import ScriptLint.Proofs.Scan.Outcome
import ScriptLint.Proofs.Scan.Selection
import ScriptLint.Proofs.Text.Document

/-!
# Diagnostics mark what they are about

An editor underlines the range of a diagnostic, so the range has to be that of the construct that the
code names, and not only some range of the document. `scan_marks_constructs` says that it is: a
diagnostic with the code of a rule for lines marks what `LineRule.Marks` says for that rule, and one
about the balance of delimiters marks the last line.

A code belongs to one rule only, so the rule that made the finding is the one that the code stands for,
and `findings_marks` is all there is to know about it.
-/

namespace ScriptLint

/-- What a diagnostic of a document marks: the part of its line that its range covers. -/
structure Diagnostic.MarksIn (d : Diagnostic) (document : Document) (line marked : Line) : Prop where
  read : document.line d.range.start.line = .ok line
  sliced : d.range.slice line = .ok marked

/-- A diagnostic at a span of a line of the document marks the part of the line at the span. -/
theorem Spec.marksIn_at {document : Document} {index : Nat} {line : Line}
    (hline : document.lines[index]? = some line) (spec : Spec) (span : Span)
    (message : Option String) :
    (spec.at (.onLine index span) message).MarksIn document line (span.cut line) :=
  ⟨Document.line_eq_ok hline, Range.slice_onLine index span line⟩

/-- What a rule for lines reports on a line marks what the rule is to mark there. -/
theorem LineRule.marksIn_of_findings {rule : LineRule} {document : Document} {index : Nat}
    {line : Line} {finding : Finding} (hline : document.lines[index]? = some line)
    (hfinding : .ok finding ∈ rule.findings line index document) :
    ∃ marked, (finding.on rule.spec index).MarksIn document line marked ∧
      rule.Marks line (finding.on rule.spec index).message marked := by
  obtain ⟨marked, hcovers, hmarks⟩ := LineRule.findings_marks hfinding
  refine ⟨marked, ?_, hmarks⟩
  rw [← hcovers.span.cut_eq]
  exact rule.spec.marksIn_at hline finding.span finding.message

/-- What a rule for documents reports marks all of the last line. -/
theorem DocumentRule.marksIn_of_mem_reported {rule : DocumentRule} {document : Document}
    {d : Diagnostic} (h : d ∈ rule.reported document) :
    d.range.start.line = document.lastIndex ∧
      d.MarksIn document document.lastLine document.lastLine := by
  obtain ⟨spec, -, count, rfl⟩ := DocumentRule.mem_reported h
  have hmarks := spec.marksIn_at document.getElem?_lastIndex
    (Span.wholeLine document.lastLine.length) (some s!"{count} {spec.message}")
  rw [Span.cut_wholeLine] at hmarks
  exact ⟨rfl, hmarks⟩

/-- Every diagnostic of a text has the code of a rule, and marks a part of one line of the text: for a
rule for lines what the rule is to mark there, and for a rule for documents all of the last line. -/
theorem scan_marks_constructs {s : String} {ds : List Diagnostic}
    (hscan : scan (.text s) = .ok ds) {d : Diagnostic} (hd : d ∈ ds) :
    ∃ line marked, (Document.ofText s).line d.range.start.line = .ok line ∧
      d.range.slice line = .ok marked ∧
      (∃ rule : Rule, d.code ∈ rule.codes) ∧
      (∀ rule : LineRule, d.code = rule.spec.code → rule.Marks line d.message marked) ∧
      ∀ rule : DocumentRule, d.code ∈ (Rule.document rule).codes →
        d.range.start.line = (Document.ofText s).lastIndex ∧ marked = line := by
  obtain ⟨-, rfl⟩ := scan_text_eq_ok_iff.mp hscan
  rw [(Diagnostic.sort_perm _).mem_iff] at hd
  rcases List.mem_append.mp hd with hd | hd
  · obtain ⟨index, line, hline, rule, -, finding, hfinding, rfl⟩ := mem_lineReport.mp hd
    obtain ⟨marked, hmarksIn, hmarks⟩ := LineRule.marksIn_of_findings hline hfinding
    have hcode : (finding.on rule.spec index).code ∈ (Rule.line rule).codes :=
      List.mem_singleton.mpr rfl
    refine ⟨line, marked, hmarksIn.read, hmarksIn.sliced, ⟨_, hcode⟩, ?_, ?_⟩
    · intro other hother
      cases Rule.eq_of_mem_codes (a := .line other) (List.mem_singleton.mpr hother) hcode
      exact hmarks
    · intro other hother
      cases Rule.eq_of_mem_codes hother hcode
  · obtain ⟨rule, -, hd⟩ := List.mem_flatMap.mp hd
    obtain ⟨hlast, hmarksIn⟩ := DocumentRule.marksIn_of_mem_reported hd
    have hcode := DocumentRule.code_mem_codes hd
    refine ⟨_, _, hmarksIn.read, hmarksIn.sliced, ⟨_, hcode⟩, ?_, fun _ _ => ⟨hlast, rfl⟩⟩
    intro other hother
    cases Rule.eq_of_mem_codes (a := .line other) (List.mem_singleton.mpr hother) hcode

/-- On the second line of a text, the arrow that is declared as an operator is marked. -/
theorem scan_marks_constructs_operator :
    let d := Spec.operatorOverload.at (.onLine 1 ⟨9, 2⟩)
      (some ("Invalid operator \"=>\" for overloading. Valid operators: " ++
        "+, -, *, /, %, ==, !=, <, >, <=, >=, &&, ||, &, |, ^, ~, <<, >>, +=, -=, *=, /=, %="))
    scan (.text "a\noperator =>(x)") = .ok (Diagnostic.sort [d]) ∧
      ∃ line marked, (Document.ofText "a\noperator =>(x)").line 1 = .ok line ∧
        d.range.slice line = .ok marked ∧
        LineRule.operatorOverload.Marks line d.message marked := by
  intro d
  have hscan : scan (.text "a\noperator =>(x)") = .ok (Diagnostic.sort [d]) :=
    scan_eq_ok_iff.mpr ⟨_, rfl, rfl⟩
  have hd : d ∈ Diagnostic.sort [d] := List.mem_mergeSort.mpr List.mem_cons_self
  obtain ⟨line, marked, hline, hslice, -, hmarks, -⟩ := scan_marks_constructs hscan hd
  exact ⟨hscan, line, marked, hline, hslice, hmarks .operatorOverload rfl⟩

end ScriptLint
