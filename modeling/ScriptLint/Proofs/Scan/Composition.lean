import ScriptLint.Proofs.Scan.Containment
import ScriptLint.Proofs.Scan.Outcome
import ScriptLint.Proofs.Scan.Selection
import ScriptLint.Proofs.Text.Document

/-!
# Scanning a text in parts

Most findings are about one line and nothing else, so a text can be scanned in parts. When two texts
are joined by a line feed, the findings of this kind are those of the first text and then those of
the second, moved down by the lines of the first (`scan_append_lineFeed`). Only two kinds are about
more than a line: whether a match block is closed, and the balance of delimiters.

The proof goes from one line outwards. A rule that looks at its line alone finds the same at any
index of any document (`findings_congr`), so what it reports there moves with the line
(`reported_moveDown`), and so does the whole report of such rules (`lineReport_append`). Sorting does
not mix the two parts, because no line of the first comes after one of the second.
-/

namespace ScriptLint

/-! ## Moving down -/

/-- The range, moved down by a number of lines. -/
def Range.moveDown (lines : Nat) (r : Range) : Range where
  start := ⟨r.start.line + lines, r.start.column⟩
  stop := ⟨r.stop.line + lines, r.stop.column⟩
  ordered := by
    have hordered := Position.le_def.mp r.ordered
    rw [Position.le_def]
    dsimp only
    omega

/-- The diagnostic, moved down by a number of lines. -/
def Diagnostic.moveDown (lines : Nat) (d : Diagnostic) : Diagnostic :=
  { d with range := d.range.moveDown lines }

/-- A finding on a line further down is the finding moved down. -/
theorem Finding.on_add (finding : Finding) (spec : Spec) (index lines : Nat) :
    finding.on spec (index + lines) = (finding.on spec index).moveDown lines := rfl

/-- Positions that are moved down by the same number of lines keep their order. -/
theorem Position.lt_moveDown_iff {p q : Position} (lines : Nat) :
    (⟨p.line + lines, p.column⟩ : Position) < ⟨q.line + lines, q.column⟩ ↔ p < q := by
  rw [Position.lt_def, Position.lt_def]
  dsimp only
  omega

/-- Positions that are moved down by the same number of lines are not made equal. -/
theorem Position.moveDown_inj {p q : Position} (lines : Nat) :
    (⟨p.line + lines, p.column⟩ : Position) = ⟨q.line + lines, q.column⟩ ↔ p = q := by
  obtain ⟨line, column⟩ := p
  obtain ⟨line', column'⟩ := q
  simp only [Position.mk.injEq, Nat.add_right_cancel_iff]

namespace Diagnostic

/-- Diagnostics that are moved down together keep their order. -/
theorem precedes_moveDown (lines : Nat) (a b : Diagnostic) :
    (a.moveDown lines).precedes (b.moveDown lines) = a.precedes b := by
  rw [Bool.eq_iff_iff, precedes_iff, precedes_iff]
  simp only [key, Prod.Lex.toLex_le_toLex, moveDown, Range.moveDown, Position.moveDown_inj,
    Position.lt_moveDown_iff]

/-- Sorting and moving down can be done in either order. -/
theorem map_moveDown_sort (lines : Nat) (ds : List Diagnostic) :
    (sort ds).map (moveDown lines) = sort (ds.map (moveDown lines)) :=
  List.map_mergeSort fun a _ b _ => (precedes_moveDown lines a b).symm

/-- A diagnostic that starts on an earlier line precedes one on a later line. -/
theorem precedes_of_line_lt {a b : Diagnostic} (h : a.range.start.line < b.range.start.line) :
    a.precedes b = true := by
  have hstart : a.range.start < b.range.start := Position.lt_def.mpr (Or.inl h)
  rw [precedes, if_pos hstart.ne]
  exact decide_eq_true hstart

end Diagnostic

/-! ## Rules that look at one line alone -/

namespace LineRule

/-- The rules for lines that look at nothing but their line. -/
def lineLocal : List LineRule := all.filter (· ≠ .unclosedMatch)

/-- A rule that looks at its line alone finds the same wherever the line stands. -/
theorem findings_congr {rule : LineRule} (h : rule ∈ lineLocal) (line : Line) (i j : Int)
    (document document' : Document) :
    rule.findings line i document = rule.findings line j document' := by
  have hrule : rule ≠ .unclosedMatch := of_decide_eq_true (List.mem_filter.mp h).2
  cases rule with
  | unclosedMatch => exact absurd rfl hrule
  | _ => rfl

/-- What a rule that looks at its line alone reports moves down with the line. -/
theorem reported_moveDown {rule : LineRule} (h : rule ∈ lineLocal) (line : Line)
    (index lines : Nat) (document document' : Document) :
    rule.reported line (index + lines) document =
      (rule.reported line index document').map (Diagnostic.moveDown lines) := by
  unfold reported
  rw [findings_congr h line (index + lines : Nat) index document document', List.map_filterMap]
  congr 1
  funext finding
  cases finding with
  | error fault => rfl
  | ok finding => exact congrArg some (finding.on_add rule.spec index lines)

end LineRule

section Report

variable {rules : List LineRule} {a b joined : Document}

/-- The report of rules that look at one line alone, on a document that has the lines of one and then
those of another, is that on the first and then that on the second, moved down. -/
theorem lineReport_append (hrules : ∀ rule ∈ rules, rule ∈ LineRule.lineLocal)
    (hlines : joined.lines = a.lines ++ b.lines) :
    lineReport rules joined =
      lineReport rules a ++ (lineReport rules b).map (Diagnostic.moveDown a.lineCount) := by
  -- One line of the joined document, which has `lines` more lines above it than in its own one.
  have hline : ∀ (document : Document) (line : Line) (index lines : Nat),
      (rules.flatMap fun rule => rule.reported line (index + lines) joined) =
        (rules.flatMap fun rule => rule.reported line index document).map
          (Diagnostic.moveDown lines) := by
    intro document line index lines
    rw [List.map_flatMap]
    exact List.flatMap_congr fun rule hrule =>
      LineRule.reported_moveDown (hrules rule hrule) line index lines joined document
  -- The first part is moved down by nothing.
  have hfirst : (a.lines.zipIdx.flatMap fun entry =>
      rules.flatMap fun rule => rule.reported entry.1 entry.2 joined) = lineReport rules a := by
    apply List.flatMap_congr
    intro entry _
    exact (hline a entry.1 entry.2 0).trans (List.map_id _)
  have hsecond : ((b.lines.zipIdx a.lineCount).flatMap fun entry =>
      rules.flatMap fun rule => rule.reported entry.1 entry.2 joined) =
      (lineReport rules b).map (Diagnostic.moveDown a.lineCount) := by
    rw [List.zipIdx_eq_map_add, List.flatMap_map, lineReport, List.map_flatMap]
    apply List.flatMap_congr
    intro entry _
    dsimp only
    rw [Nat.add_comm, hline b]
  rw [← hfirst, ← hsecond, lineReport, hlines, List.zipIdx_append, List.flatMap_append,
    Nat.zero_add]
  rfl

/-- What is reported on a line of a document starts on one of its lines. -/
theorem line_lt_of_mem_lineReport {d : Diagnostic} (h : d ∈ lineReport rules a) :
    d.range.start.line < a.lineCount := by
  obtain ⟨index, line, hline, rule, -, finding, -, rfl⟩ := mem_lineReport.mp h
  exact (List.getElem?_eq_some_iff.mp hline).1

/-- No two different diagnostics of a line report have one key. -/
theorem keysTellApart_lineReport (rules : List LineRule) (document : Document) :
    Diagnostic.KeysTellApart (lineReport rules document) := by
  have hkeys := keysTellApart_report rules [] document
  rwa [documentReport, List.flatMap_nil, List.append_nil] at hkeys

/-- Sorted, the report on the lines of two documents is still that on the first and then that on the
second. -/
theorem sort_lineReport_append (hrules : ∀ rule ∈ rules, rule ∈ LineRule.lineLocal)
    (hlines : joined.lines = a.lines ++ b.lines) :
    Diagnostic.sort (lineReport rules joined) =
      Diagnostic.sort (lineReport rules a) ++
        (Diagnostic.sort (lineReport rules b)).map (Diagnostic.moveDown a.lineCount) := by
  have hkeys := keysTellApart_lineReport rules joined
  rw [lineReport_append hrules hlines] at hkeys ⊢
  rw [Diagnostic.map_moveDown_sort]
  refine Diagnostic.sort_append hkeys ?_
  intro d hd e he
  obtain ⟨e, -, rfl⟩ := List.mem_map.mp he
  apply Diagnostic.precedes_of_line_lt
  have hline := line_lt_of_mem_lineReport hd
  show d.range.start.line < e.range.start.line + a.lineCount
  omega

end Report

/-! ## Findings about one line -/

/-- Whether a code is that of findings about one line: neither about a match block nor about the
balance of delimiters. -/
def Spec.isLineLocal (code : String) : Bool :=
  code ≠ Spec.unclosedMatch.code && !Spec.balancePrefix.isPrefixOf code.toList

/-- Whether a diagnostic is about one line. -/
def Diagnostic.isLineLocal (d : Diagnostic) : Bool := Spec.isLineLocal d.code

/-- The codes of findings about one line belong to the rules that look at one line alone. -/
theorem Rule.isLineLocal_iff {rule : Rule} {code : String} (h : code ∈ rule.codes) :
    Spec.isLineLocal code = true ↔ rule ∈ allChosen LineRule.lineLocal [] := by
  have hall : ∀ rule ∈ Rule.all, ∀ code ∈ rule.codes,
      (Spec.isLineLocal code = true ↔ rule ∈ allChosen LineRule.lineLocal []) := by
    decide +kernel
  exact hall rule rule.mem_all code h

/-- Of the full report on a document, what is about one line is the report of the rules that look at
one line alone. -/
theorem filter_isLineLocal_sort (document : Document) :
    (Diagnostic.sort (lineReport LineRule.all document ++
        documentReport DocumentRule.all document)).filter Diagnostic.isLineLocal =
      Diagnostic.sort (lineReport LineRule.lineLocal document) := by
  have hchosen := @sort_report_eq_filter LineRule.lineLocal [] (by decide) List.nodup_nil document
  rw [documentReport, List.flatMap_nil, List.append_nil] at hchosen
  rw [hchosen]
  apply List.filter_congr
  intro d hd
  -- Every diagnostic has the code of some rule, and the two tests agree on it.
  obtain ⟨rule, hcode⟩ : ∃ rule : Rule, d.code ∈ rule.codes := by
    rw [(Diagnostic.sort_perm _).mem_iff] at hd
    rcases List.mem_append.mp hd with hd | hd
    · obtain ⟨entry, -, hd⟩ := List.mem_flatMap.mp hd
      obtain ⟨rule, -, hd⟩ := List.mem_flatMap.mp hd
      exact ⟨.line rule, LineRule.code_mem_codes hd⟩
    · obtain ⟨rule, -, hd⟩ := List.mem_flatMap.mp hd
      exact ⟨.document rule, DocumentRule.code_mem_codes hd⟩
  rw [Bool.eq_iff_iff, isOf, any_codes_iff hcode]
  exact Rule.isLineLocal_iff hcode

/-- The ranges that are written in a joined document are those of both parts. -/
theorem Document.rangeTokens_append {a b joined : Document}
    (hlines : joined.lines = a.lines ++ b.lines) :
    joined.rangeTokens = a.rangeTokens ++ b.rangeTokens := by
  unfold rangeTokens
  rw [hlines, List.flatMap_append]

/-- Two texts that can be scanned can be scanned when they are joined by a line feed. The diagnostics
about single lines are then those of the first text and, moved down by its lines, those of the
second. -/
theorem scan_append_lineFeed {a b : String} {ds es : List Diagnostic}
    (ha : scan (.text a) = .ok ds) (hb : scan (.text b) = .ok es) :
    ∃ joined, scan (.text (a ++ "\n" ++ b)) = .ok joined ∧
      joined.filter Diagnostic.isLineLocal =
        ds.filter Diagnostic.isLineLocal ++
          (es.filter Diagnostic.isLineLocal).map
            (Diagnostic.moveDown (Document.ofText a).lineCount) := by
  obtain ⟨hshort, rfl⟩ := scan_text_eq_ok_iff.mp ha
  obtain ⟨hshort', rfl⟩ := scan_text_eq_ok_iff.mp hb
  have hlines := Document.lines_ofText_append a b
  refine ⟨_, scan_text_eq_ok_iff.mpr ⟨?_, rfl⟩, ?_⟩
  · rw [Document.rangeTokens_append hlines]
    intro token htoken
    obtain htoken | htoken := List.mem_append.mp htoken
    · exact hshort token htoken
    · exact hshort' token htoken
  · rw [filter_isLineLocal_sort, filter_isLineLocal_sort, filter_isLineLocal_sort,
      sort_lineReport_append (fun _ hrule => hrule) hlines]

/-- A line with a bar and an open brace, which ends in a carriage return, is joined with one that closes
the brace and ends in a pipeline. -/
theorem scan_append_lineFeed_carriage_return :
    let ds := Diagnostic.sort
      [Spec.loneBar.at (.onLine 0 ⟨0, 2⟩),
        Spec.unclosedBrace.at (.onLine 0 ⟨0, 4⟩) (some s!"1 {Spec.unclosedBrace.message}")]
    let es := Diagnostic.sort
      [Spec.danglingPipe.at (.onLine 0 ⟨2, 2⟩),
        Spec.extraBrace.at (.onLine 0 ⟨0, 4⟩) (some s!"1 {Spec.extraBrace.message}")]
    scan (.text "|a \x7b\r") = .ok ds ∧ scan (.text "\x7d |>") = .ok es ∧
      ∃ joined, scan (.text ("|a \x7b\r" ++ "\n" ++ "\x7d |>")) = .ok joined ∧
        joined.filter Diagnostic.isLineLocal =
          ds.filter Diagnostic.isLineLocal ++
            (es.filter Diagnostic.isLineLocal).map (Diagnostic.moveDown 1) := by
  intro ds es
  have hfirst : scan (.text "|a \x7b\r") = .ok ds := rfl
  have hsecond : scan (.text "\x7d |>") = .ok es := rfl
  exact ⟨hfirst, hsecond, scan_append_lineFeed hfirst hsecond⟩

end ScriptLint
