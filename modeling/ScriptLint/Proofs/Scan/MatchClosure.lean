import ScriptLint.Proofs.Delimiter
import ScriptLint.Proofs.Scan.Composition

/-!
# Open match blocks

Whether a match block is closed depends on the lines that follow its head, up to the end of the document,
and on nothing before it. `Match.report` is the report on open blocks in this form: it goes through the
lines, and looks at each together with the lines after it. A scan gives exactly this report
(`filter_isUnclosedMatch_scan`).

The laws of the report follow the lines. Lines that are appended can close a block and never open one
(`report_append`). A line that is replaced by one with the same net makes no difference to the others
(`filter_report_replace`). And since a block that is left open is open at the last line, the lines from
its head on are not balanced (`total_ne_zero_of_openBefore?`), which the balance of the whole document
either shows as well or makes up for by the lines before (`scan_unclosedMatch_unbalanced`).
-/

namespace ScriptLint

namespace Match

/-- The keyword of the leftmost match head of a line, if the lines after it leave its block open. -/
def openBefore? (line : Line) (after : List Line) : Option Span :=
  if Delimiters.braces.closeFrom (Delimiters.braces.net line) 0 after = none then head? line
  else none

/-- The report on open match blocks in lines that are numbered from `index` on. -/
def report (index : Nat) : List Line → List Diagnostic
  | [] => []
  | line :: after =>
    (openBefore? line after).toList.map (fun span => Spec.unclosedMatch.at (.onLine index span)) ++
      report (index + 1) after

variable {line line' : Line} {after after' : List Line} {span : Span}

/-- A block that is open has a head, and no later line brings the running net to zero. -/
theorem openBefore?_eq_some_iff :
    openBefore? line after = some span ↔
      Delimiters.braces.closeFrom (Delimiters.braces.net line) 0 after = none ∧
        head? line = some span :=
  Option.ite_none_right_eq_some

/-- Lines with the same nets leave the same blocks open. -/
theorem openBefore?_congr
    (h : after.map Delimiters.braces.net = after'.map Delimiters.braces.net) :
    openBefore? line after = openBefore? line after' := by
  have hnone : Delimiters.braces.closeFrom (Delimiters.braces.net line) 0 after = none ↔
      Delimiters.braces.closeFrom (Delimiters.braces.net line) 0 after' = none :=
    Delimiters.closeFrom_eq_none_congr h
  unfold openBefore?
  simp only [hnone]

/-- A block that is open with more lines after it is open without them. -/
theorem openBefore?_of_append {more : List Line} (h : openBefore? line (after ++ more) = some span) :
    openBefore? line after = some span := by
  rw [openBefore?_eq_some_iff] at h ⊢
  exact ⟨Delimiters.closeFrom_eq_none_of_append h.1, h.2⟩

/-- Where a block is left open by lines after its head, the lines from the head on are not balanced. -/
theorem total_ne_zero_of_openBefore? (h : openBefore? line after = some span) (hne : after ≠ []) :
    Delimiters.braces.total (line :: after) ≠ 0 := by
  have hopen := Delimiters.closeFrom_eq_none_iff.mp (openBefore?_eq_some_iff.mp h).1
  have hpos : 0 < after.length := List.length_pos_iff.mpr hne
  have hlast := hopen (after.length - 1) (by omega)
  rwa [Nat.sub_add_cancel hpos, List.take_length, ← Delimiters.total_cons] at hlast

/-! ## The report -/

variable {index : Nat} {lines : List Line} {d : Diagnostic}

/-- Every diagnostic of the report is on the keyword of an open block. -/
theorem mem_report :
    d ∈ report index lines ↔ ∃ before line after span, lines = before ++ line :: after ∧
      openBefore? line after = some span ∧
      d = Spec.unclosedMatch.at (.onLine (index + before.length) span) := by
  induction lines generalizing index with
  | nil => simp [report]
  | cons line rest ih =>
    simp only [report, List.mem_append, List.mem_map, Option.mem_toList, ih]
    constructor
    · rintro (⟨span, hopen, rfl⟩ | ⟨before, head, after, span, rfl, hopen, rfl⟩)
      · exact ⟨[], line, rest, span, rfl, hopen, rfl⟩
      · refine ⟨line :: before, head, after, span, rfl, hopen, ?_⟩
        rw [List.length_cons, Nat.add_assoc, Nat.add_comm 1]
    · rintro ⟨before, head, after, span, hlines, hopen, rfl⟩
      cases before with
      | nil =>
        obtain ⟨rfl, rfl⟩ := List.cons.inj hlines
        exact Or.inl ⟨span, hopen, rfl⟩
      | cons first before =>
        obtain ⟨rfl, rfl⟩ := List.cons.inj hlines
        refine Or.inr ⟨before, head, after, span, rfl, hopen, ?_⟩
        rw [List.length_cons, Nat.add_assoc, Nat.add_comm 1]

/-- The report is about the lines that it is made from. -/
theorem line_of_mem_report (h : d ∈ report index lines) :
    index ≤ d.range.start.line ∧ d.range.start.line < index + lines.length := by
  obtain ⟨before, line, after, span, rfl, -, rfl⟩ := mem_report.mp h
  show index ≤ index + before.length ∧ index + before.length < index + _
  rw [List.length_append, List.length_cons]
  omega

/-- There is at most one diagnostic on a line, and those on later lines come later. -/
theorem report_pairwise (index : Nat) (lines : List Line) :
    (report index lines).Pairwise fun a b => a.range.start.line < b.range.start.line := by
  induction lines generalizing index with
  | nil => exact List.Pairwise.nil
  | cons line after ih =>
    rw [report, List.pairwise_append]
    refine ⟨?_, ih (index + 1), ?_⟩
    · cases openBefore? line after with
      | none => exact List.Pairwise.nil
      | some span => exact List.pairwise_singleton _ _
    · intro a ha b hb
      obtain ⟨span, -, rfl⟩ := List.mem_map.mp ha
      exact (line_of_mem_report hb).1

/-- The report on lines that are moved down is moved down with them. -/
theorem report_add (index n : Nat) (lines : List Line) :
    report (index + n) lines = (report index lines).map (Diagnostic.moveDown n) := by
  induction lines generalizing index with
  | nil => rfl
  | cons line after ih =>
    rw [report, report, List.map_append, List.map_map, ← ih, Nat.add_right_comm]
    rfl

/-- The report on lines with others after them: of the blocks that are open without these, some are
closed, and the report on the others follows. -/
theorem report_append (index : Nat) (a b : List Line) :
    ∃ kept, report index (a ++ b) = kept ++ report (index + a.length) b ∧
      kept.Sublist (report index a) := by
  induction a generalizing index with
  | nil => exact ⟨[], rfl, List.nil_sublist _⟩
  | cons line a ih =>
    obtain ⟨kept, hreport, hkept⟩ := ih (index + 1)
    -- What is open with `b` after it is open without.
    have hfirst : (openBefore? line (a ++ b)).toList.Sublist (openBefore? line a).toList := by
      cases hopen : openBefore? line (a ++ b) with
      | none => exact List.nil_sublist _
      | some span => rw [openBefore?_of_append hopen]
    refine ⟨_ ++ kept, ?_, (hfirst.map _).append hkept⟩
    rw [List.cons_append, report, hreport, List.length_cons, Nat.add_assoc, Nat.add_comm 1,
      List.append_assoc]

/-- Of the report on lines with others after them, the part on the others is their report, and the part
on the first lines has nothing that the report on these alone does not have. -/
theorem filter_report_append (a b : List Line) :
    (report 0 (a ++ b)).filter (fun d => a.length ≤ d.range.start.line) =
        (report 0 b).map (Diagnostic.moveDown a.length) ∧
      ((report 0 (a ++ b)).filter (fun d => d.range.start.line < a.length)).Sublist
        (report 0 a) := by
  obtain ⟨kept, hreport, hkept⟩ := report_append 0 a b
  have hbefore : ∀ d ∈ kept, d.range.start.line < a.length := by
    intro d hd
    have hline := (line_of_mem_report (hkept.subset hd)).2
    omega
  have hbehind : ∀ d ∈ report (0 + a.length) b, a.length ≤ d.range.start.line := by
    intro d hd
    have hline := (line_of_mem_report hd).1
    omega
  rw [hreport, List.filter_append, List.filter_append]
  constructor
  · have hfirst : kept.filter (fun d => a.length ≤ d.range.start.line) = [] := by
      rw [List.filter_eq_nil_iff]
      intro d hd
      have hline := hbefore d hd
      simp only [decide_eq_true_eq]
      omega
    rw [hfirst, List.nil_append, ← report_add, List.filter_eq_self]
    exact fun d hd => decide_eq_true (hbehind d hd)
  · have hsecond : (report (0 + a.length) b).filter (fun d => d.range.start.line < a.length) = [] := by
      rw [List.filter_eq_nil_iff]
      intro d hd
      have hline := hbehind d hd
      simp only [decide_eq_true_eq]
      omega
    rw [hsecond, List.append_nil]
    exact List.filter_sublist.trans hkept

/-- A line that is replaced by one with the same net makes no difference to the report on the other
lines. -/
theorem filter_report_replace (hnet : Delimiters.braces.net line = Delimiters.braces.net line')
    (index : Nat) (before after : List Line) :
    (report index (before ++ line :: after)).filter
        (fun d => d.range.start.line ≠ index + before.length) =
      (report index (before ++ line' :: after)).filter
        (fun d => d.range.start.line ≠ index + before.length) := by
  induction before generalizing index with
  | nil =>
    -- All that is reported on the line itself is left out.
    have hleft : ∀ span? : Option Span, (span?.toList.map fun span =>
        Spec.unclosedMatch.at (.onLine index span)).filter
          (fun d => d.range.start.line ≠ index + 0) = [] := by
      intro span?
      rw [List.filter_eq_nil_iff]
      intro d hd
      obtain ⟨span, -, rfl⟩ := List.mem_map.mp hd
      simp [Spec.at, Range.onLine]
    simp only [List.nil_append, List.length_nil, report, List.filter_append, hleft]
  | cons first before ih =>
    have hnets : (before ++ line :: after).map Delimiters.braces.net =
        (before ++ line' :: after).map Delimiters.braces.net := by
      simp [hnet]
    have hindex : index + (first :: before).length = index + 1 + before.length := by
      rw [List.length_cons]
      omega
    simp only [List.cons_append, report, List.filter_append, hindex, openBefore?_congr hnets, ih]

end Match

/-! ## The report of a scan -/

/-- The rule for match blocks finds what is open before the lines that follow. -/
theorem LineRule.openMatch_eq {document : Document} {before after : List Line} {line : Line}
    (hlines : document.lines = before ++ line :: after) :
    openMatch line before.length document =
      (Match.openBefore? line after).toList.map fun span => .ok ⟨span.columns, none⟩ := by
  -- The number of the closing line does not matter, only whether there is one.
  have hnone : Delimiters.braces.closeFrom (Delimiters.braces.net line) (before.length + 1) after =
      none ↔ Delimiters.braces.closeFrom (Delimiters.braces.net line) 0 after = none :=
    Delimiters.closeFrom_eq_none_congr rfl
  unfold openMatch Match.openBefore?
  rw [Document.blockClose_of_append hlines]
  cases Match.head? line with
  | none => simp
  | some span =>
    cases hfound : Delimiters.braces.closeFrom (Delimiters.braces.net line) (before.length + 1)
        after with
    | none => rw [if_pos (hnone.mp hfound)]; rfl
    | some close =>
      have hclosed : ¬ Delimiters.braces.closeFrom (Delimiters.braces.net line) 0 after = none := by
        rw [← hnone, hfound]
        exact Option.some_ne_none close
      rw [if_neg hclosed]
      rfl

/-- On a document the rule for match blocks gives the report on its lines. -/
theorem lineReport_unclosedMatch (document : Document) :
    lineReport [.unclosedMatch] document = Match.report 0 document.lines := by
  -- The lines are gone through from some line on, with the ones before it already done.
  have hsuffix : ∀ before rest, document.lines = before ++ rest →
      ((rest.zipIdx before.length).flatMap fun entry =>
        [LineRule.unclosedMatch].flatMap fun rule => rule.reported entry.1 entry.2 document) =
      Match.report before.length rest := by
    intro before rest
    induction rest generalizing before with
    | nil => intro _; rfl
    | cons line after ih =>
      intro hlines
      have hrest := ih (before ++ [line]) (by rw [hlines, List.append_assoc, List.singleton_append])
      rw [List.length_append, List.length_singleton] at hrest
      rw [List.zipIdx_cons, List.flatMap_cons, hrest, Match.report, List.flatMap_singleton,
        LineRule.reported, LineRule.findings, LineRule.openMatch_eq hlines, List.filterMap_map,
        ← List.filterMap_eq_map]
      congr 1
      exact List.filterMap_congr fun span _ => congrArg some (Finding.on_columns span none _ _)
  exact hsuffix [] document.lines rfl

/-- Whether a diagnostic is about an open match block. -/
def Diagnostic.isUnclosedMatch (d : Diagnostic) : Bool := d.code = Spec.unclosedMatch.code

/-- The diagnostics of a scan about open match blocks are the report on the lines of the text. -/
theorem filter_isUnclosedMatch_scan {s : String} {ds : List Diagnostic}
    (hscan : scan (.text s) = .ok ds) :
    ds.filter Diagnostic.isUnclosedMatch = Match.report 0 (Document.ofText s).lines := by
  obtain ⟨-, rfl⟩ := scan_text_eq_ok_iff.mp hscan
  have hchosen := @sort_report_eq_filter [.unclosedMatch] [] (by decide) List.nodup_nil (.ofText s)
  have hcode : isOf (allChosen [.unclosedMatch] []) = Diagnostic.isUnclosedMatch := by
    funext d
    simp [isOf, allChosen, Rule.codes, LineRule.spec, Diagnostic.isUnclosedMatch]
  rw [hcode, documentReport, List.flatMap_nil, List.append_nil] at hchosen
  rw [← hchosen, ← lineReport_unclosedMatch]
  -- The report goes through the lines in their order, so there is nothing to sort.
  refine Diagnostic.sort_eq_of_perm (keysTellApart_lineReport _ _) (List.Perm.refl _) ?_
  rw [lineReport_unclosedMatch]
  exact (Match.report_pairwise 0 _).imp Diagnostic.precedes_of_line_lt

/-- Two texts that can be scanned can be scanned when they are joined by a line feed. -/
theorem exists_scan_append_lineFeed {a b : String} {ds es : List Diagnostic}
    (ha : scan (.text a) = .ok ds) (hb : scan (.text b) = .ok es) :
    ∃ joined, scan (.text (a ++ "\n" ++ b)) = .ok joined := by
  obtain ⟨hshort, -⟩ := scan_text_eq_ok_iff.mp ha
  obtain ⟨hshort', -⟩ := scan_text_eq_ok_iff.mp hb
  refine ⟨_, scan_text_eq_ok_iff.mpr ⟨fun token htoken => ?_, rfl⟩⟩
  rw [Document.rangeTokens_append (Document.lines_ofText_append a b)] at htoken
  obtain htoken | htoken := List.mem_append.mp htoken
  · exact hshort token htoken
  · exact hshort' token htoken

/-- The diagnostics about open match blocks depend only on what follows. When two texts are joined by a
line feed, those on the lines of the second are those of the second text, moved down by the lines of the
first, and those on the lines of the first are some of those of the first text. When a line is replaced
by one with the same net of braces, those on the other lines are the same. -/
theorem scan_unclosedMatch_of_following :
    (∀ (a b : String) (ds es : List Diagnostic), scan (.text a) = .ok ds →
      scan (.text b) = .ok es → ∃ joined, scan (.text (a ++ "\n" ++ b)) = .ok joined ∧
        (joined.filter Diagnostic.isUnclosedMatch).filter
            (fun d => (Document.ofText a).lineCount ≤ d.range.start.line) =
          (es.filter Diagnostic.isUnclosedMatch).map
            (Diagnostic.moveDown (Document.ofText a).lineCount) ∧
        ((joined.filter Diagnostic.isUnclosedMatch).filter
            (fun d => d.range.start.line < (Document.ofText a).lineCount)).Sublist
          (ds.filter Diagnostic.isUnclosedMatch)) ∧
    ∀ (s s' : String) (before after : List Line) (line line' : Line) (ds ds' : List Diagnostic),
      (Document.ofText s).lines = before ++ line :: after →
      (Document.ofText s').lines = before ++ line' :: after →
      Delimiters.braces.net line = Delimiters.braces.net line' →
      scan (.text s) = .ok ds → scan (.text s') = .ok ds' →
        (ds.filter Diagnostic.isUnclosedMatch).filter
            (fun d => d.range.start.line ≠ before.length) =
          (ds'.filter Diagnostic.isUnclosedMatch).filter
            (fun d => d.range.start.line ≠ before.length) := by
  constructor
  · intro a b ds es ha hb
    obtain ⟨joined, hjoined⟩ := exists_scan_append_lineFeed ha hb
    refine ⟨joined, hjoined, ?_⟩
    rw [filter_isUnclosedMatch_scan hjoined, filter_isUnclosedMatch_scan ha,
      filter_isUnclosedMatch_scan hb, Document.lines_ofText_append]
    exact Match.filter_report_append _ _
  · intro s s' before after line line' ds ds' hlines hlines' hnet hscan hscan'
    rw [filter_isUnclosedMatch_scan hscan, filter_isUnclosedMatch_scan hscan', hlines, hlines']
    have hreplace := Match.filter_report_replace hnet 0 before after
    rwa [Nat.zero_add] at hreplace

/-- The brace that a second text begins with closes the block that the first leaves open, and the block
that the second text leaves open stays so. Elsewhere, a line with an open brace is replaced by one that
has a bar as well, which makes no difference to the line above. -/
theorem scan_unclosedMatch_of_following_closing_line :
    let first := Spec.unclosedMatch.at (.onLine 0 ⟨0, 5⟩)
    let brace (index length count : Nat) := Spec.unclosedBrace.at (.onLine index ⟨0, length⟩)
      (some s!"{count} {Spec.unclosedBrace.message}")
    let ds := Diagnostic.sort [first, brace 0 9 1]
    let es := Diagnostic.sort [Spec.unclosedMatch.at (.onLine 1 ⟨0, 5⟩)]
    let fs := Diagnostic.sort [first, brace 1 1 2]
    let fs' := Diagnostic.sort [first, Spec.loneBar.at (.onLine 1 ⟨1, 2⟩), brace 1 3 2]
    scan (.text "match x \x7b") = .ok ds ∧ scan (.text "\x7d\nmatch y \x7b") = .ok es ∧
      (∃ joined, scan (.text ("match x \x7b" ++ "\n" ++ "\x7d\nmatch y \x7b")) = .ok joined ∧
        (joined.filter Diagnostic.isUnclosedMatch).filter (fun d => 1 ≤ d.range.start.line) =
          (es.filter Diagnostic.isUnclosedMatch).map (Diagnostic.moveDown 1) ∧
        ((joined.filter Diagnostic.isUnclosedMatch).filter
          (fun d => d.range.start.line < 1)).Sublist (ds.filter Diagnostic.isUnclosedMatch)) ∧
      scan (.text "match x \x7b\n\x7b") = .ok fs ∧
      scan (.text "match x \x7b\n\x7b|a") = .ok fs' ∧
      (fs.filter Diagnostic.isUnclosedMatch).filter (fun d => d.range.start.line ≠ 1) =
        (fs'.filter Diagnostic.isUnclosedMatch).filter (fun d => d.range.start.line ≠ 1) := by
  intro first brace ds es fs fs'
  have ha : scan (.text "match x \x7b") = .ok ds :=
    scan_eq_ok_iff.mpr ⟨_, rfl, rfl⟩
  have hb : scan (.text "\x7d\nmatch y \x7b") = .ok es :=
    scan_eq_ok_iff.mpr ⟨_, rfl, rfl⟩
  have hs : scan (.text "match x \x7b\n\x7b") = .ok fs :=
    scan_eq_ok_iff.mpr ⟨_, rfl, rfl⟩
  have hs' : scan (.text "match x \x7b\n\x7b|a") = .ok fs' :=
    scan_eq_ok_iff.mpr ⟨_, rfl, rfl⟩
  obtain ⟨happend, hreplace⟩ := scan_unclosedMatch_of_following
  exact ⟨ha, hb, happend _ _ ds es ha hb, hs, hs',
    hreplace _ _ ["match x \x7b".toList] [] "\x7b".toList "\x7b|a".toList fs fs' rfl rfl rfl hs hs'⟩

/-! ## The balance of the document -/

/-- The rule for braces is silent exactly when the braces of a document are balanced in total. -/
theorem DocumentRule.reported_braces_eq_nil_iff (document : Document) :
    DocumentRule.braces.reported document = [] ↔ Delimiters.braces.total document.lines = 0 := by
  rw [← document.net_eq_total]
  have hpair : document.net DocumentRule.braces.pair = document.net .braces := rfl
  simp only [reported, extra?, hpair]
  split
  · next hpos =>
    refine iff_of_false (List.cons_ne_nil _ _) ?_
    omega
  · split
    · next hneg =>
      refine iff_of_false (List.cons_ne_nil _ _) ?_
      omega
    · refine iff_of_true rfl ?_
      omega

/-- A rule for documents is silent exactly when the scan has no diagnostic with a code of it. -/
theorem DocumentRule.reported_eq_nil_iff_scan {s : String} {ds : List Diagnostic}
    (hscan : scan (.text s) = .ok ds) (rule : DocumentRule) :
    rule.reported (.ofText s) = [] ↔ ∀ d ∈ ds, d.code ∉ (Rule.document rule).codes := by
  obtain ⟨-, rfl⟩ := scan_text_eq_ok_iff.mp hscan
  simp only [(Diagnostic.sort_perm _).mem_iff, List.mem_append]
  constructor
  · rintro hsilent d (hd | hd) hcode
    · obtain ⟨entry, -, hd⟩ := List.mem_flatMap.mp hd
      obtain ⟨other, -, hd⟩ := List.mem_flatMap.mp hd
      cases Rule.eq_of_mem_codes hcode (LineRule.code_mem_codes hd)
    · obtain ⟨other, -, hd⟩ := List.mem_flatMap.mp hd
      cases Rule.eq_of_mem_codes hcode (DocumentRule.code_mem_codes hd)
      rw [hsilent] at hd
      cases hd
  · intro hnone
    rw [List.eq_nil_iff_forall_not_mem]
    intro d hd
    exact hnone d (Or.inr (List.mem_flatMap.mpr ⟨rule, rule.mem_all, hd⟩))
      (DocumentRule.code_mem_codes hd)

/-- An open match block that does not begin on the last line leaves the braces from its line to the end
of the text unbalanced. Where the braces of the whole text are balanced, those of the lines before are
then not, so that the block does not begin on the first line. -/
theorem scan_unclosedMatch_unbalanced {s : String} {ds : List Diagnostic}
    (hscan : scan (.text s) = .ok ds) :
    (∀ d ∈ ds, d.isUnclosedMatch = true → d.range.start.line ≠ (Document.ofText s).lastIndex →
      Delimiters.braces.total ((Document.ofText s).lines.drop d.range.start.line) ≠ 0 ∧
      (DocumentRule.braces.run (.ofText s) = .ok [] →
        Delimiters.braces.total ((Document.ofText s).lines.take d.range.start.line) ≠ 0)) ∧
    (DocumentRule.braces.run (.ofText s) = .ok [] ↔
      ∀ e ∈ ds, e.code ∉ (Rule.document .braces).codes) ∧
    (1 < (Document.ofText s).lineCount → (∀ e ∈ ds, e.code ∉ (Rule.document .braces).codes) →
      ∀ d ∈ ds, d.isUnclosedMatch = true → d.range.start.line ≠ 0) := by
  have hfrom : ∀ d ∈ ds, d.isUnclosedMatch = true →
      d.range.start.line ≠ (Document.ofText s).lastIndex →
      Delimiters.braces.total ((Document.ofText s).lines.drop d.range.start.line) ≠ 0 := by
    intro d hd hmatch hlast
    have hreport := List.mem_filter.mpr ⟨hd, hmatch⟩
    rw [filter_isUnclosedMatch_scan hscan] at hreport
    obtain ⟨before, line, after, span, hlines, hopen, rfl⟩ := Match.mem_report.mp hreport
    have hindex : (Spec.unclosedMatch.at (.onLine (0 + before.length) span)).range.start.line =
        before.length := Nat.zero_add _
    rw [hindex] at hlast ⊢
    rw [hlines, List.drop_left]
    refine Match.total_ne_zero_of_openBefore? hopen fun hnil => hlast ?_
    rw [Document.lastIndex, hlines, hnil, List.length_append, List.length_singleton,
      Nat.add_sub_cancel]
  have hbalanced := DocumentRule.reported_braces_eq_nil_iff (.ofText s)
  have hsilent := DocumentRule.reported_eq_nil_iff_scan hscan .braces
  rw [DocumentRule.run_eq_ok, Except.ok.injEq]
  refine ⟨fun d hd hmatch hlast => ⟨hfrom d hd hmatch hlast, fun hnone => ?_⟩, hsilent, ?_⟩
  · -- The two parts of the document have opposite totals.
    have hrest := hfrom d hd hmatch hlast
    have htotal := hbalanced.mp hnone
    rw [← List.take_append_drop d.range.start.line (Document.ofText s).lines,
      Delimiters.total_append] at htotal
    omega
  · intro hmany hnone d hd hmatch hzero
    have hlast : d.range.start.line ≠ (Document.ofText s).lastIndex := by
      unfold Document.lastIndex
      unfold Document.lineCount at hmany
      omega
    have hrest := hfrom d hd hmatch hlast
    rw [hzero, List.drop_zero] at hrest
    exact hrest (hbalanced.mp (hsilent.mpr hnone))

/-- A brace that closes nothing makes up for a block that is left open, so that only the lines from the
block on and those before it show that they are unbalanced. -/
theorem scan_unclosedMatch_unbalanced_extra_brace :
    let d := Spec.unclosedMatch.at (.onLine 1 ⟨0, 5⟩)
    let document := Document.ofText "\x7d\nmatch x \x7b\na"
    scan (.text "\x7d\nmatch x \x7b\na") = .ok (Diagnostic.sort [d]) ∧
      DocumentRule.braces.run document = .ok [] ∧
      Delimiters.braces.total (document.lines.drop 1) ≠ 0 ∧
      Delimiters.braces.total (document.lines.take 1) ≠ 0 := by
  intro d document
  have hscan : scan (.text "\x7d\nmatch x \x7b\na") = .ok (Diagnostic.sort [d]) :=
    scan_eq_ok_iff.mpr ⟨_, rfl, rfl⟩
  have hsilent : DocumentRule.braces.run document = .ok [] := rfl
  have hd : d ∈ Diagnostic.sort [d] := List.mem_mergeSort.mpr List.mem_cons_self
  obtain ⟨hfrom, hbefore⟩ :=
    (scan_unclosedMatch_unbalanced hscan).1 d hd rfl (by decide)
  exact ⟨hscan, hsilent, hfrom, hbefore hsilent⟩

end ScriptLint
