import Mathlib.Data.List.Nodup
import Mathlib.Data.List.Perm.Basic
import ScriptLint.Proofs.Diagnostic.Order
import ScriptLint.Proofs.Scan.Report

/-!
# Choosing rules

Rules do not see each other: whichever of them are listed, in whichever order and with whatever
metadata, each reports what it would report in a full scan. `runLint_selected` says so of the whole
report. A scan with some of the rules gives the full report without the findings whose codes belong
to none of them.

Two things carry this. The codes of different rules differ (`Rule.eq_of_mem_codes`), so that leaving
out codes leaves out rules. And in what rules report the code determines all that the key of the
report does not mention (`keysTellApart_report`), so that the sorted report does not show in which
order the rules were listed.
-/

namespace ScriptLint

/-! ## Codes -/

/-- The codes of the findings that a rule reports. -/
def Rule.codes : Rule → List String
  | .line rule => [rule.spec.code]
  | .document rule => rule.specs.map (·.code)

theorem LineRule.mem_all (rule : LineRule) : rule ∈ LineRule.all := by
  cases rule <;> decide

theorem DocumentRule.mem_all (rule : DocumentRule) : rule ∈ DocumentRule.all := by
  cases rule <;> decide

theorem Rule.mem_all (rule : Rule) : rule ∈ Rule.all := by
  rw [Rule.all, List.mem_append]
  cases rule with
  | line rule => exact Or.inl (List.mem_map_of_mem rule.mem_all)
  | document rule => exact Or.inr (List.mem_map_of_mem rule.mem_all)

/-- A code belongs to one rule only. -/
theorem Rule.eq_of_mem_codes {a b : Rule} {code : String} (ha : code ∈ a.codes)
    (hb : code ∈ b.codes) : a = b := by
  have hall : ∀ a ∈ Rule.all, ∀ b ∈ Rule.all, ∀ code ∈ a.codes, code ∈ b.codes → a = b := by
    decide +kernel
  exact hall a a.mem_all b b.mem_all code ha hb

/-- What a rule for lines reports has the rule's code. -/
theorem LineRule.code_mem_codes {rule : LineRule} {line : Line} {index : Nat}
    {document : Document} {d : Diagnostic} (h : d ∈ rule.reported line index document) :
    d.code ∈ (Rule.line rule).codes := by
  obtain ⟨finding, -, rfl⟩ := LineRule.mem_reported.mp h
  exact List.mem_singleton.mpr rfl

/-- What a rule for documents reports has one of the rule's codes. -/
theorem DocumentRule.code_mem_codes {rule : DocumentRule} {document : Document} {d : Diagnostic}
    (h : d ∈ rule.reported document) : d.code ∈ (Rule.document rule).codes := by
  obtain ⟨spec, hspec, count, rfl⟩ := DocumentRule.mem_reported h
  exact List.mem_map_of_mem hspec

/-- A diagnostic with a code of a rule is kept for some rules exactly when the rule is one of
them. -/
theorem any_codes_iff {chosen : List Rule} {rule : Rule} {code : String}
    (h : code ∈ rule.codes) : (chosen.any fun r => code ∈ r.codes) = true ↔ rule ∈ chosen := by
  rw [List.any_eq_true]
  constructor
  · rintro ⟨other, hother, hcode⟩
    rw [Rule.eq_of_mem_codes h (of_decide_eq_true hcode)]
    exact hother
  · intro hrule
    exact ⟨rule, hrule, decide_eq_true h⟩

/-! ## Keys -/

/-- Every rule for lines reports a kind of finding of the catalog. -/
theorem LineRule.spec_mem_catalog (rule : LineRule) : rule.spec ∈ Spec.catalog := by
  cases rule <;> simp [LineRule.spec, Spec.catalog]

/-- Every rule for documents reports kinds of findings of the catalog. -/
theorem DocumentRule.specs_subset_catalog {rule : DocumentRule} {spec : Spec}
    (h : spec ∈ rule.specs) : spec ∈ Spec.catalog := by
  have hall : ∀ spec ∈ rule.specs, spec ∈ Spec.catalog := by
    cases rule <;>
      simp [DocumentRule.specs, DocumentRule.unclosed, DocumentRule.extra?, Spec.catalog]
  exact hall spec h

/-- The catalog has one kind of finding for a code. -/
theorem Spec.nodup_catalog_codes : (Spec.catalog.map (·.code)).Nodup := by
  decide +kernel

/-- What rules report is of a kind that the catalog lists. -/
theorem exists_spec_of_mem_report {lineRules : List LineRule} {documentRules : List DocumentRule}
    {document : Document} {d : Diagnostic}
    (h : d ∈ lineReport lineRules document ++ documentReport documentRules document) :
    ∃ spec ∈ Spec.catalog, ∃ range message, d = spec.at range message := by
  rcases List.mem_append.mp h with h | h
  · obtain ⟨index, line, -, rule, -, finding, -, rfl⟩ := mem_lineReport.mp h
    exact ⟨rule.spec, rule.spec_mem_catalog, _, _, rfl⟩
  · obtain ⟨rule, -, h⟩ := List.mem_flatMap.mp h
    obtain ⟨spec, hspec, count, rfl⟩ := DocumentRule.mem_reported h
    exact ⟨spec, DocumentRule.specs_subset_catalog hspec, _, _, rfl⟩

/-- In what rules report, no two different diagnostics have one key. -/
theorem keysTellApart_report (lineRules : List LineRule) (documentRules : List DocumentRule)
    (document : Document) :
    Diagnostic.KeysTellApart
      (lineReport lineRules document ++ documentReport documentRules document) := by
  intro a ha b hb hkey
  obtain ⟨spec, hspec, range, message, rfl⟩ := exists_spec_of_mem_report ha
  obtain ⟨spec', hspec', range', message', rfl⟩ := exists_spec_of_mem_report hb
  obtain ⟨hrange, hcode, hmessage⟩ := Diagnostic.eq_of_key_eq hkey
  -- The code gives the kind of finding, and that gives all but the range and the message.
  have hsame : spec = spec' := List.inj_on_of_nodup_map Spec.nodup_catalog_codes hspec hspec' hcode
  subst hsame
  simp only [Spec.at] at hrange hmessage ⊢
  rw [hrange, hmessage]

/-! ## Selections -/

section Selection

variable {ρ : Type} [DecidableEq ρ]

/-- Of what all rules emit, that of the chosen ones is left when a test accepts just that. -/
theorem filter_flatMap_perm {all chosen : List ρ} {emit : ρ → List Diagnostic}
    {p : Diagnostic → Bool} (hall : all.Nodup) (hmem : ∀ rule, rule ∈ all)
    (hchosen : chosen.Nodup) (hp : ∀ rule, ∀ d ∈ emit rule, p d = true ↔ rule ∈ chosen) :
    ((all.flatMap emit).filter p).Perm (chosen.flatMap emit) := by
  have hkept : ∀ rule, (emit rule).filter p = if rule ∈ chosen then emit rule else [] := by
    intro rule
    split
    · next hrule => exact List.filter_eq_self.mpr fun d hd => (hp rule d hd).mpr hrule
    · next hrule => exact List.filter_eq_nil_iff.mpr fun d hd => mt (hp rule d hd).mp hrule
  have hfilter : (all.flatMap emit).filter p = (all.filter (· ∈ chosen)).flatMap emit := by
    rw [List.filter_flatMap]
    clear hall hmem
    induction all with
    | nil => rfl
    | cons rule rest ih =>
      rw [List.flatMap_cons, ih, hkept, List.filter_cons]
      by_cases hrule : rule ∈ chosen
      · simp [hrule]
      · simp [hrule]
  rw [hfilter]
  apply List.Perm.flatMap_right
  rw [List.perm_ext_iff_of_nodup (hall.filter _) hchosen]
  intro rule
  rw [List.mem_filter, decide_eq_true_eq]
  exact and_iff_right (hmem rule)

end Selection

variable {lineRules : List LineRule} {documentRules : List DocumentRule}

/-- The rules of both kinds, in one list. -/
def allChosen (lineRules : List LineRule) (documentRules : List DocumentRule) : List Rule :=
  lineRules.map .line ++ documentRules.map .document

theorem line_mem_allChosen {rule : LineRule} :
    Rule.line rule ∈ allChosen lineRules documentRules ↔ rule ∈ lineRules := by
  simp [allChosen]

theorem document_mem_allChosen {rule : DocumentRule} :
    Rule.document rule ∈ allChosen lineRules documentRules ↔ rule ∈ documentRules := by
  simp [allChosen]

/-- Whether a diagnostic has a code of one of the chosen rules. -/
def isOf (chosen : List Rule) (d : Diagnostic) : Bool := chosen.any fun rule => d.code ∈ rule.codes

/-- What is left of the full report when only the codes of some rules are kept is what these rules
report, in another order. -/
theorem report_filter_perm (hlines : lineRules.Nodup) (hdocuments : documentRules.Nodup)
    (document : Document) :
    ((lineReport LineRule.all document ++ documentReport DocumentRule.all document).filter
        (isOf (allChosen lineRules documentRules))).Perm
      (lineReport lineRules document ++ documentReport documentRules document) := by
  rw [List.filter_append]
  apply List.Perm.append
  · rw [lineReport, lineReport, List.filter_flatMap]
    apply List.Perm.flatMap_left
    intro entry _
    refine filter_flatMap_perm (by decide) LineRule.mem_all hlines ?_
    intro rule d hd
    rw [isOf, any_codes_iff (LineRule.code_mem_codes hd), line_mem_allChosen]
  · refine filter_flatMap_perm (by decide) DocumentRule.mem_all hdocuments ?_
    intro rule d hd
    rw [isOf, any_codes_iff (DocumentRule.code_mem_codes hd), document_mem_allChosen]

/-- The sorted report of some rules is the full one with only their codes. -/
theorem sort_report_eq_filter (hlines : lineRules.Nodup) (hdocuments : documentRules.Nodup)
    (document : Document) :
    Diagnostic.sort (lineReport lineRules document ++ documentReport documentRules document) =
      (Diagnostic.sort (lineReport LineRule.all document ++
        documentReport DocumentRule.all document)).filter
          (isOf (allChosen lineRules documentRules)) := by
  rw [Diagnostic.filter_sort _ (keysTellApart_report _ _ _)]
  exact Diagnostic.sort_congr (keysTellApart_report _ _ _) (report_filter_perm hlines hdocuments _)

/-- Every diagnostic of the full report has a code of one of the rules. -/
theorem isOf_of_mem_report (hlines : ∀ rule, rule ∈ lineRules)
    (hdocuments : ∀ rule, rule ∈ documentRules) {document : Document} {d : Diagnostic}
    (h : d ∈ lineReport LineRule.all document ++ documentReport DocumentRule.all document) :
    isOf (allChosen lineRules documentRules) d = true := by
  rcases List.mem_append.mp h with h | h
  · obtain ⟨entry, -, h⟩ := List.mem_flatMap.mp h
    obtain ⟨rule, -, h⟩ := List.mem_flatMap.mp h
    rw [isOf, any_codes_iff (LineRule.code_mem_codes h), line_mem_allChosen]
    exact hlines rule
  · obtain ⟨rule, -, h⟩ := List.mem_flatMap.mp h
    rw [isOf, any_codes_iff (DocumentRule.code_mem_codes h), document_mem_allChosen]
    exact hdocuments rule

/-- Where the usual rules for lines have no fault, no list of rules for lines has one. -/
theorem fault?_lineDiagnostics_of_default {document : Document}
    (h : fault? (lineDiagnostics ListedRule.defaultLine document) = none)
    (entries : List (LineRule × Metadata)) :
    fault? (lineDiagnostics (entries.map ListedRule.lineWith) document) = none := by
  simp only [fault?_lineDiagnostics, List.findSome?_eq_none_iff] at h ⊢
  intro place hplace listed hlisted
  obtain ⟨entry, -, rfl⟩ := List.mem_map.mp hlisted
  -- The metadata has no part in what a rule does.
  exact h place hplace (.ofLine entry.1) (List.mem_map_of_mem entry.1.mem_all)

/-- The rules in the usual lists are all rules. -/
theorem ListedRule.filterMap_line?_defaultLine :
    ListedRule.defaultLine.filterMap ListedRule.line? = LineRule.all := rfl

theorem ListedRule.filterMap_document?_defaultDocument :
    ListedRule.defaultDocument.filterMap ListedRule.document? = DocumentRule.all := rfl

/-- A text that can be scanned with the usual rules can be scanned with any of them, without
repetition, in any order and with any metadata that is acceptable. The report is the full report,
without the diagnostics whose codes no chosen rule has; with all rules it is the full report. -/
theorem runLint_selected {text : Value} {ds : List Diagnostic} (hscan : scan text = .ok ds)
    (lineRules : List (LineRule × Metadata)) (documentRules : List (DocumentRule × Metadata))
    (hlines : (lineRules.map Prod.fst).Nodup) (hdocuments : (documentRules.map Prod.fst).Nodup)
    (hlineMetadata : ListedRule.validate "line" (lineRules.map .lineWith) = .ok ())
    (hdocumentMetadata :
      ListedRule.validate "document" (documentRules.map .documentWith) = .ok ()) :
    ∃ result, runLint text .absent (lineRules.map .lineWith) (documentRules.map .documentWith) =
        .ok result ∧
      result.diagnostics = ds.filter
        (isOf (allChosen (lineRules.map Prod.fst) (documentRules.map Prod.fst))) ∧
      ((lineRules.map Prod.fst).Perm LineRule.all →
        (documentRules.map Prod.fst).Perm DocumentRule.all → result.diagnostics = ds) := by
  obtain ⟨document, hdocument, hall⟩ := scan_eq_ok_iff.mp hscan
  have hfull := allDiagnostics_eq_ok hall
  rw [ListedRule.filterMap_line?_defaultLine, ListedRule.filterMap_document?_defaultDocument]
    at hfull
  -- The chosen rules have no fault, since the usual ones had none.
  obtain ⟨chosen, hchosen⟩ : ∃ chosen, allDiagnostics (lineRules.map .lineWith)
      (documentRules.map .documentWith) document = .ok chosen := by
    rw [← fault?_eq_none_iff, fault?_allDiagnostics]
    apply fault?_lineDiagnostics_of_default
    obtain ⟨onLines, honLines, -⟩ := bind_eq_ok hall
    rw [honLines, fault?_ok]
  have hreport := allDiagnostics_eq_ok hchosen
  rw [ListedRule.filterMap_line?_lineWith, ListedRule.filterMap_document?_documentWith,
    sort_report_eq_filter hlines hdocuments, ← hfull] at hreport
  refine ⟨⟨document, chosen, Diagnostic.hasErrors chosen, false⟩, ?_, hreport, ?_⟩
  · rw [runLint_eq, hlineMetadata, hdocumentMetadata, hdocument]
    show scanDocument {} _ _ document = _
    rw [scanDocument, if_pos rfl, hchosen]
    rfl
  · intro hallLines hallDocuments
    show chosen = ds
    rw [hreport, List.filter_eq_self]
    intro d hd
    rw [hfull, (Diagnostic.sort_perm _).mem_iff] at hd
    exact isOf_of_mem_report (fun rule => hallLines.mem_iff.mpr rule.mem_all)
      (fun rule => hallDocuments.mem_iff.mpr rule.mem_all) hd

/-- Of a line with an open brace and a pipeline without an end, a scan with the second rule alone,
under another name, reports the pipeline. -/
theorem runLint_selected_danglingPipe :
    let ds := Diagnostic.sort
      [Spec.danglingPipe.at (.onLine 0 ⟨3, 2⟩),
        Spec.unclosedBrace.at (.onLine 0 ⟨0, 5⟩) (some s!"1 {Spec.unclosedBrace.message}")]
    let rules := [(LineRule.danglingPipe, { LineRule.danglingPipe.metadata with name := "pipe" })]
    scan (.text "\x7bx |>") = .ok ds ∧
      ∃ result, runLint (.text "\x7bx |>") .absent (rules.map .lineWith) [] = .ok result ∧
        result.diagnostics = ds.filter (isOf [.line .danglingPipe]) := by
  intro ds rules
  have hscan : scan (.text "\x7bx |>") = .ok ds := rfl
  obtain ⟨result, hresult, hreport, -⟩ :=
    runLint_selected hscan rules [] (by decide) (by decide) rfl rfl
  exact ⟨hscan, result, hresult, hreport⟩

end ScriptLint
