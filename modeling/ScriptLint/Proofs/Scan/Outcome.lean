import Mathlib.Data.List.Forall2
import ScriptLint.Proofs.Delimiter
import ScriptLint.Proofs.Rule.RangeTokens

/-!
# What can come out of a scan

A scan is refused for its options, its rules or its text, is skipped, ends in a bound of a range that
has too many digits, or is completed. `Verdict` lists these in the order in which they are found out,
without a word about how, and `runLint_eq_iff_verdict` shows that a scan has the outcome of the one
that applies.

Most of the work is to show that nothing else can go wrong. On a line of the document every rule but
one is without faults (`fault?_run_of_getElem?`): what it finds can be placed there, the search for the
end of a match block is given an index that exists, and only the bounds of ranges are read as numbers.
The fault of all rules on all lines is then that of the first range with a bound that is too long
(`fault?_lineDiagnostics_lineWith`), however often and in which place the rule is listed. Which ranges
a document has is said by the readings of its lines (`Document.Reads`), and there is one such list of
ranges (`Document.reads_iff`).
-/

namespace ScriptLint

/-! ## Ranges with too many digits -/

namespace RangeToken

/-- The range has two bounds and one of `n` digits that cannot be read, the lower if both cannot. -/
inductive Overlong (token : RangeToken) (n : Nat) : Prop where
  | lower (upper : List Char) (hupper : token.upper = some upper)
      (hlower : 4300 < token.lower.length) (hn : n = token.lower.length)
  | upper (upper : List Char) (hupper : token.upper = some upper)
      (hlower : token.lower.length ≤ 4300) (hlong : 4300 < upper.length) (hn : n = upper.length)

/-- The lower bound is read first, so the upper one counts only if the lower one can be read. -/
theorem fault?_isBackward {token : RangeToken} {upper : List Char}
    (hupper : token.upper = some upper) :
    fault? token.isBackward =
      (fault? (Numeral.value token.lower)).or (fault? (Numeral.value upper)) := by
  unfold isBackward
  rw [hupper]
  exact fault?_bind_bind_pure _ _ _

/-- A range with a bound that is too long cannot be judged, and the fault has its length. -/
theorem Overlong.fault?_isBackward {token : RangeToken} {n : Nat} (h : token.Overlong n) :
    fault? token.isBackward = some (.numeralTooLong n) := by
  cases h with
  | lower upper hupper hlower hn =>
    rw [RangeToken.fault?_isBackward hupper, Numeral.fault?_value, if_pos hlower, Option.some_or, hn]
  | upper upper hupper hlower hlong hn =>
    have hreadable : ¬ 4300 < token.lower.length := by omega
    rw [RangeToken.fault?_isBackward hupper, Numeral.fault?_value, if_neg hreadable, Option.none_or,
      Numeral.fault?_value, if_pos hlong, hn]

/-- A range cannot be judged exactly when a bound is too long. -/
theorem fault?_isBackward_eq_some_iff {token : RangeToken} {fault : Fault} :
    fault? token.isBackward = some fault ↔ ∃ n, token.Overlong n ∧ fault = .numeralTooLong n := by
  constructor
  · intro h
    cases hupper : token.upper with
    | none =>
      unfold isBackward at h
      rw [hupper] at h
      cases h
    | some upper =>
      rw [fault?_isBackward hupper, Numeral.fault?_value, Numeral.fault?_value] at h
      by_cases hlower : 4300 < token.lower.length
      · rw [if_pos hlower, Option.some_or] at h
        cases h
        exact ⟨_, .lower upper hupper hlower rfl, rfl⟩
      · rw [if_neg hlower, Option.none_or] at h
        obtain ⟨hlong, hfault⟩ := Option.ite_none_right_eq_some.mp h
        cases hfault
        exact ⟨_, .upper upper hupper (by omega) hlong rfl, rfl⟩
  · rintro ⟨n, hlong, rfl⟩
    exact hlong.fault?_isBackward

end RangeToken

namespace Document

/-- Reading the lines of a document one after the other gives the ranges. -/
def Reads (document : Document) (tokens : List RangeToken) : Prop :=
  ∃ readings, List.Forall₂ (RangeToken.Reading []) document.lines readings ∧
    tokens = readings.flatten.map Prod.snd

/-- The first range of the document with a bound that is too long has one of `n` digits. -/
def FirstOverlong (document : Document) (n : Nat) : Prop :=
  ∃ before token after, document.Reads (before ++ token :: after) ∧ token.Overlong n ∧
    ∀ earlier ∈ before, ∀ k, ¬ earlier.Overlong k

/-- The ranges that are found in a document, line by line and from left to right. -/
def rangeTokens (document : Document) : List RangeToken :=
  document.lines.flatMap fun line => (RangeToken.tokens line).map Prod.snd

/-- The ranges that reading a document gives are those that are found in it. -/
theorem reads_iff {document : Document} {tokens : List RangeToken} :
    document.Reads tokens ↔ tokens = document.rangeTokens := by
  have hreading : RangeToken.Reading [] = fun line found => RangeToken.tokens line = found := by
    funext line found
    exact propext ⟨RangeToken.tokens_eq_of_reading, fun h => h ▸ RangeToken.reading_tokens line⟩
  -- Each line has one reading, so that there is one for all of them.
  have hreadings : ∀ readings, List.Forall₂ (RangeToken.Reading []) document.lines readings ↔
      readings = document.lines.map RangeToken.tokens := by
    intro readings
    rw [hreading, ← List.forall₂_map_left_iff, List.forall₂_eq_eq_eq, eq_comm]
  have hflat : ((document.lines.map RangeToken.tokens).flatten.map Prod.snd) =
      document.rangeTokens := by
    rw [rangeTokens, ← List.flatMap_def, List.map_flatMap]
  simp only [Reads, hreadings, exists_eq_left, hflat]

/-- A text that is a range and nothing else has this range. -/
theorem reads_ofText {token : RangeToken} (h : token.Stands [] []) :
    (ofText (String.ofList token.text)).Reads [token] := by
  -- There are only digits, dots and underscores in it, so that it is one line.
  have hchars : ∀ c ∈ token.text, isDigit c = true ∨ c = '.' ∨ c = '_' := by
    cases h with
    | closed hlower hupper =>
      intro c hc
      rcases List.mem_append.mp hc with hc | hc
      · exact Or.inl (hlower.members c hc)
      · rcases List.mem_cons.mp hc with hc | hc
        · exact Or.inr (Or.inl hc)
        · rcases List.mem_cons.mp hc with hc | hc
          · exact Or.inr (Or.inl hc)
          · exact Or.inl (hupper.members c hc)
    | openEnded hlower =>
      intro c hc
      rcases List.mem_append.mp hc with hc | hc
      · exact Or.inl (hlower.members c hc)
      · simp only [Option.getD_none, List.mem_cons, List.not_mem_nil, or_false] at hc
        rcases hc with hc | hc | hc
        · exact Or.inr (Or.inl hc)
        · exact Or.inr (Or.inl hc)
        · exact Or.inr (Or.inr hc)
  have hline : splitLines token.text = [token.text] := by
    have hfeed : '\n' ∉ token.text := fun hmem => absurd (hchars _ hmem) (by decide)
    have hreturn : token.text.getLast? ≠ some '\r' :=
      fun hlast => absurd (hchars _ (List.mem_of_getLast? hlast)) (by decide)
    rw [splitLines, List.splitOn_eq_singleton hfeed, List.map_singleton, dropReturn, if_neg hreturn]
  have hreading := RangeToken.Reading.token h (.stop _)
  rw [List.append_nil] at hreading
  refine ⟨[[(0, token)]], ?_, rfl⟩
  show List.Forall₂ _ (splitLines (String.ofList token.text).toList) _
  rw [String.toList_ofList, hline]
  exact .cons hreading .nil

/-- Searching the ranges of a document is searching those of one line after the other. -/
theorem findSome?_rangeTokens {α : Type} (document : Document) (f : RangeToken → Option α) :
    document.rangeTokens.findSome? f =
      document.lines.zipIdx.findSome? fun entry =>
        ((RangeToken.tokens entry.1).map Prod.snd).findSome? f := by
  have hlines : document.lines.zipIdx.map Prod.fst = document.lines := List.zipIdx_map_fst 0 _
  unfold rangeTokens
  rw [← List.head?_filterMap, List.filterMap_flatMap, List.head?_flatMap]
  simp only [List.head?_filterMap]
  conv_lhs => rw [← hlines, List.findSome?_map]
  rfl

end Document

/-! ## Faults of the rules for lines -/

namespace LineRule

/-- Findings that are certain have no faults. -/
theorem findSome?_fault?_map_ok {α : Type} (l : List α) (f : α → Finding) :
    (l.map fun a => (.ok (f a) : Except Fault Finding)).findSome? fault? = none := by
  rw [List.findSome?_eq_none_iff]
  intro finding hfinding
  obtain ⟨a, -, rfl⟩ := List.mem_map.mp hfinding
  rfl

/-- The search for the end of a match block has no fault at a line of the document. -/
theorem findSome?_fault?_openMatch {line : Line} {index : Nat} {document : Document}
    (hline : document.lines[index]? = some line) :
    (openMatch line index document).findSome? fault? = none := by
  obtain ⟨close, hclose⟩ : ∃ close, document.blockClose .braces index = .ok close :=
    ⟨_, Document.blockClose_eq_ok hline⟩
  unfold openMatch
  cases Match.head? line with
  | none => rfl
  | some span =>
    rw [hclose]
    cases close with
    | none => rfl
    | some _ => rfl

/-- The ranges of a line have the fault of the first that cannot be judged. -/
theorem findSome?_fault?_judgeRange (tokens : List (Nat × RangeToken)) :
    (tokens.filterMap judgeRange).findSome? fault? =
      (tokens.map Prod.snd).findSome? fun token => fault? token.isBackward := by
  rw [findSome?_filterMap, List.findSome?_map]
  congr 1
  funext found
  rw [judgeRange, Function.comp_apply]
  cases found.2.isBackward with
  | error fault => rfl
  | ok backward =>
    cases backward with
    | false => rfl
    | true => rfl

/-- On a line of the document, only ranges give a rule a fault. -/
theorem fault?_run_of_getElem? (rule : LineRule) {line : Line} {index : Nat} {document : Document}
    (hline : document.lines[index]? = some line) :
    fault? (rule.run line index document) =
      if rule = .backwardRange then
        ((RangeToken.tokens line).map Prod.snd).findSome? fun token => fault? token.isBackward
      else none := by
  rw [fault?_run]
  cases rule with
  | backwardRange => exact findSome?_fault?_judgeRange _
  | unclosedMatch => exact findSome?_fault?_openMatch hline
  | _ => exact findSome?_fault?_map_ok _ _

/-- Of rules that have one fault or none, a list has that fault if it has such a rule. -/
theorem findSome?_if_eq {α : Type} (rules : List LineRule) (rule : LineRule) (found : Option α) :
    (rules.findSome? fun r => if r = rule then found else none) =
      if rule ∈ rules then found else none := by
  induction rules with
  | nil => rfl
  | cons r rest ih =>
    rw [List.findSome?_cons, ih]
    by_cases hr : r = rule
    · subst hr
      rw [if_pos rfl, if_pos List.mem_cons_self]
      cases found with
      | none => exact ite_self none
      | some _ => rfl
    · have hmem : rule ∈ r :: rest ↔ rule ∈ rest := by
        rw [List.mem_cons, or_iff_right (Ne.symm hr)]
      rw [if_neg hr]
      simp only [hmem]

end LineRule

/-- The rules for lines have the fault of the first range that cannot be judged, if ranges are
judged. -/
theorem fault?_lineDiagnostics_lineWith (entries : List (LineRule × Metadata))
    (document : Document) :
    fault? (lineDiagnostics (entries.map ListedRule.lineWith) document) =
      if .backwardRange ∈ entries.map Prod.fst then
        document.rangeTokens.findSome? fun token => fault? token.isBackward
      else none := by
  -- All rules on one line.
  have hrules : ∀ entry ∈ document.lines.zipIdx,
      ((entries.map ListedRule.lineWith).findSome? fun rule =>
        fault? (rule.runOnLine entry.1 entry.2 document)) =
      if .backwardRange ∈ entries.map Prod.fst then
        ((RangeToken.tokens entry.1).map Prod.snd).findSome? fun token => fault? token.isBackward
      else none := by
    rintro ⟨line, index⟩ hentry
    have hline := List.mk_mem_zipIdx_iff_getElem?.mp hentry
    rw [← LineRule.findSome?_if_eq, List.findSome?_map, List.findSome?_map]
    congr 1
    funext entry
    exact entry.1.fault?_run_of_getElem? hline
  rw [fault?_lineDiagnostics]
  by_cases hmem : LineRule.backwardRange ∈ entries.map Prod.fst
  · simp only [if_pos hmem] at hrules ⊢
    rw [Document.findSome?_rangeTokens, ← List.head?_filterMap, List.filterMap_congr hrules,
      List.head?_filterMap]
  · simp only [if_neg hmem] at hrules ⊢
    exact List.findSome?_eq_none_iff.mpr hrules

/-! ## The scan of a document -/

section

variable {lineRules : List (LineRule × Metadata)} {documentRules : List (DocumentRule × Metadata)}
  {document : Document}

/-- All rules have the fault of the first range that cannot be judged, if ranges are judged. -/
theorem fault?_allDiagnostics_with (lineRules : List (LineRule × Metadata))
    (documentRules : List (DocumentRule × Metadata)) (document : Document) :
    fault? (allDiagnostics (lineRules.map ListedRule.lineWith)
        (documentRules.map ListedRule.documentWith) document) =
      if .backwardRange ∈ lineRules.map Prod.fst then
        document.rangeTokens.findSome? fun token => fault? token.isBackward
      else none := by
  rw [fault?_allDiagnostics, fault?_lineDiagnostics_lineWith]

/-- Rules end in a fault exactly at the first range that is too long, if ranges are judged. -/
theorem allDiagnostics_eq_error_iff {fault : Fault} :
    allDiagnostics (lineRules.map ListedRule.lineWith)
        (documentRules.map ListedRule.documentWith) document = .error fault ↔
      ∃ n, .backwardRange ∈ lineRules.map Prod.fst ∧ document.FirstOverlong n ∧
        fault = .numeralTooLong n := by
  rw [← fault?_eq_some_iff, fault?_allDiagnostics_with]
  by_cases hjudged : LineRule.backwardRange ∈ lineRules.map Prod.fst
  · rw [if_pos hjudged, List.findSome?_eq_some_iff]
    constructor
    · rintro ⟨before, token, after, hsplit, hfault, hbefore⟩
      obtain ⟨n, hlong, rfl⟩ := RangeToken.fault?_isBackward_eq_some_iff.mp hfault
      refine ⟨n, hjudged, ⟨before, token, after, Document.reads_iff.mpr hsplit.symm, hlong, ?_⟩, rfl⟩
      intro earlier hearlier k hoverlong
      have hsome := hoverlong.fault?_isBackward
      rw [hbefore earlier hearlier] at hsome
      cases hsome
    · rintro ⟨n, -, ⟨before, token, after, hreads, hlong, hbefore⟩, rfl⟩
      refine ⟨before, token, after, (Document.reads_iff.mp hreads).symm,
        hlong.fault?_isBackward, ?_⟩
      intro earlier hearlier
      rw [Option.eq_none_iff_forall_ne_some]
      intro fault hsome
      obtain ⟨k, hoverlong, -⟩ := RangeToken.fault?_isBackward_eq_some_iff.mp hsome
      exact hbefore earlier hearlier k hoverlong
  · rw [if_neg hjudged]
    constructor
    · intro h
      cases h
    · rintro ⟨n, hmem, -⟩
      exact absurd hmem hjudged

/-- Rules give their reports, sorted, exactly when no range that is judged is too long. -/
theorem allDiagnostics_eq_ok_iff {ds : List Diagnostic} :
    allDiagnostics (lineRules.map ListedRule.lineWith)
        (documentRules.map ListedRule.documentWith) document = .ok ds ↔
      (.backwardRange ∈ lineRules.map Prod.fst →
        ∀ token ∈ document.rangeTokens, ∀ n, ¬ token.Overlong n) ∧
      ds = Diagnostic.sort (lineReport (lineRules.map Prod.fst) document ++
        documentReport (documentRules.map Prod.fst) document) := by
  have hreport : ∀ found, allDiagnostics (lineRules.map ListedRule.lineWith)
      (documentRules.map ListedRule.documentWith) document = .ok found →
      found = Diagnostic.sort (lineReport (lineRules.map Prod.fst) document ++
        documentReport (documentRules.map Prod.fst) document) := by
    intro found hfound
    have hsorted := allDiagnostics_eq_ok hfound
    rwa [ListedRule.filterMap_line?_lineWith, ListedRule.filterMap_document?_documentWith]
      at hsorted
  constructor
  · intro h
    refine ⟨fun hjudged token htoken n hlong => ?_, hreport ds h⟩
    have hnone : fault? (allDiagnostics (lineRules.map ListedRule.lineWith)
        (documentRules.map ListedRule.documentWith) document) = none := by rw [h, fault?_ok]
    rw [fault?_allDiagnostics_with, if_pos hjudged, List.findSome?_eq_none_iff] at hnone
    have hsome := hlong.fault?_isBackward
    rw [hnone token htoken] at hsome
    cases hsome
  · rintro ⟨hshort, rfl⟩
    cases hall : allDiagnostics (lineRules.map ListedRule.lineWith)
        (documentRules.map ListedRule.documentWith) document with
    | ok found => rw [hreport found hall]
    | error fault =>
      obtain ⟨n, hjudged, ⟨before, token, after, hreads, hlong, -⟩, -⟩ :=
        allDiagnostics_eq_error_iff.mp hall
      have htoken : token ∈ document.rangeTokens := by
        rw [← Document.reads_iff.mp hreads]
        exact List.mem_append_right before List.mem_cons_self
      exact absurd hlong (hshort hjudged token htoken n)

end

/-! ## The scan of a text -/

/-- A text can be scanned exactly when no range in it is too long, and its diagnostics are what all
rules report on its lines, sorted. -/
theorem scan_text_eq_ok_iff {s : String} {ds : List Diagnostic} :
    scan (.text s) = .ok ds ↔
      (∀ token ∈ (Document.ofText s).rangeTokens, ∀ n, ¬ token.Overlong n) ∧
      ds = Diagnostic.sort (lineReport LineRule.all (.ofText s) ++
        documentReport DocumentRule.all (.ofText s)) := by
  -- The usual lists are all rules with their own metadata.
  let lineRules := LineRule.all.map fun rule => (rule, rule.metadata)
  let documentRules := DocumentRule.all.map fun rule => (rule, rule.metadata)
  have hrules := @allDiagnostics_eq_ok_iff lineRules documentRules (.ofText s) ds
  have hjudged : LineRule.backwardRange ∈ lineRules.map Prod.fst := by decide
  rw [scan_eq_ok_iff]
  constructor
  · rintro ⟨document, hdocument, hall⟩
    cases hdocument
    obtain ⟨hshort, hds⟩ := hrules.mp hall
    exact ⟨hshort hjudged, hds⟩
  · rintro ⟨hshort, hds⟩
    exact ⟨.ofText s, rfl, hrules.mpr ⟨fun _ => hshort, hds⟩⟩

/-- The options that an argument stands for. -/
inductive OptionsArgument.StandsFor : OptionsArgument → ScanOptions → Prop where
  | given (o : ScanOptions) : StandsFor (.options o) o
  | absent : StandsFor .absent {}

/-- An argument is accepted exactly for the options that it stands for. -/
theorem OptionsArgument.resolve_eq_ok_iff {options : OptionsArgument} {o : ScanOptions} :
    options.resolve = .ok o ↔ options.StandsFor o := by
  constructor
  · intro h
    unfold resolve at h
    split at h
    · cases h
      exact .given _
    · cases h
      exact .absent
    · cases h
  · intro h
    cases h with
    | given => rfl
    | absent => rfl

/-- An argument that is neither options nor nothing is refused. -/
theorem OptionsArgument.resolve_eq_error_iff {options : OptionsArgument} {fault : Fault} :
    options.resolve = .error fault ↔
      ∃ v, options = .other v ∧ v ≠ .null ∧ fault = .notOptions v.kind := by
  constructor
  · intro h
    unfold resolve at h
    split at h
    · cases h
    · cases h
    · next v hnull =>
      cases h
      exact ⟨v, rfl, hnull, rfl⟩
  · rintro ⟨v, rfl, hnull, rfl⟩
    cases v with
    | null => exact absurd rfl hnull
    | _ => rfl

/-- The options and both lists of rules are accepted. -/
structure Admitted (options : OptionsArgument) (lineRules : List (LineRule × Metadata))
    (documentRules : List (DocumentRule × Metadata)) (o : ScanOptions) : Prop where
  options : options.StandsFor o
  lineRules : ∀ m ∈ lineRules.map Prod.snd, m.Acceptable "line"
  documentRules : ∀ m ∈ documentRules.map Prod.snd, m.Acceptable "document"

/-- What comes out of a scan. The cases exclude each other, and stand in the order in which they
are found out: each says that those before it do not apply. -/
inductive Verdict (text : Value) (options : OptionsArgument)
    (lineRules : List (LineRule × Metadata)) (documentRules : List (DocumentRule × Metadata)) :
    Except Fault ScanResult → Prop where
  | badOptions (v : Value) (hother : options = .other v) (hnull : v ≠ .null) :
      Verdict text options lineRules documentRules (.error (.notOptions v.kind))
  | badLineRule (o : ScanOptions) (hoptions : options.StandsFor o) (name : String)
      (defect : RuleDefect)
      (hrejected : Metadata.FirstRejected "line" (lineRules.map Prod.snd) name defect) :
      Verdict text options lineRules documentRules (.error (.invalidRule name defect))
  | badDocumentRule (o : ScanOptions) (hoptions : options.StandsFor o)
      (hline : ∀ m ∈ lineRules.map Prod.snd, m.Acceptable "line") (name : String)
      (defect : RuleDefect)
      (hrejected : Metadata.FirstRejected "document" (documentRules.map Prod.snd) name defect) :
      Verdict text options lineRules documentRules (.error (.invalidRule name defect))
  | badText (o : ScanOptions) (hadmitted : Admitted options lineRules documentRules o)
      (hother : ∀ s, text ≠ .text s) :
      Verdict text options lineRules documentRules (.error (.notText text.kind))
  | skipped (o : ScanOptions) (hadmitted : Admitted options lineRules documentRules o)
      (s : String) (htext : text = .text s) (hdisabled : o.diagnosticsEnabled = false) :
      Verdict text options lineRules documentRules (.ok ⟨.ofText s, [], false, true⟩)
  | overlongRange (o : ScanOptions) (hadmitted : Admitted options lineRules documentRules o)
      (s : String) (htext : text = .text s) (henabled : o.diagnosticsEnabled = true)
      (hjudged : .backwardRange ∈ lineRules.map Prod.fst) (n : Nat)
      (hlong : (Document.ofText s).FirstOverlong n) :
      Verdict text options lineRules documentRules (.error (.numeralTooLong n))
  | completed (o : ScanOptions) (hadmitted : Admitted options lineRules documentRules o)
      (s : String) (htext : text = .text s) (henabled : o.diagnosticsEnabled = true)
      (tokens : List RangeToken) (hreads : (Document.ofText s).Reads tokens)
      (hshort : .backwardRange ∈ lineRules.map Prod.fst →
        ∀ token ∈ tokens, ∀ n, ¬ token.Overlong n)
      (ds : List Diagnostic)
      (hds : ds = Diagnostic.sort (lineReport (lineRules.map Prod.fst) (.ofText s) ++
        documentReport (documentRules.map Prod.fst) (.ofText s))) :
      Verdict text options lineRules documentRules
        (.ok ⟨.ofText s, ds, Diagnostic.hasErrors ds, false⟩)

section

variable {text : Value} {options : OptionsArgument} {lineRules : List (LineRule × Metadata)}
  {documentRules : List (DocumentRule × Metadata)}

/-- The scan with listed rules, as the checks of their metadata and one scan of the document. -/
theorem runLint_with_eq : runLint text options (lineRules.map ListedRule.lineWith)
      (documentRules.map ListedRule.documentWith) = (do
    let options ← options.resolve
    Metadata.validate "line" (lineRules.map Prod.snd)
    Metadata.validate "document" (documentRules.map Prod.snd)
    let document ← Document.ofValue text
    scanDocument options (lineRules.map ListedRule.lineWith)
      (documentRules.map ListedRule.documentWith) document) := by
  rw [runLint_eq]
  unfold ListedRule.validate
  rw [List.map_map, List.map_map]
  rfl

/-- Once options and rules are accepted, what is left is the text. -/
theorem Admitted.runLint_eq {o : ScanOptions} (h : Admitted options lineRules documentRules o) :
    runLint text options (lineRules.map ListedRule.lineWith)
        (documentRules.map ListedRule.documentWith) =
      Document.ofValue text >>= scanDocument o (lineRules.map ListedRule.lineWith)
        (documentRules.map ListedRule.documentWith) := by
  rw [runLint_with_eq, OptionsArgument.resolve_eq_ok_iff.mpr h.options,
    Metadata.validate_eq_ok_iff.mpr h.lineRules, Metadata.validate_eq_ok_iff.mpr h.documentRules]
  rfl

/-- A scan has the outcome of each case that applies. -/
theorem Verdict.runLint_eq {outcome : Except Fault ScanResult}
    (h : Verdict text options lineRules documentRules outcome) :
    runLint text options (lineRules.map ListedRule.lineWith)
      (documentRules.map ListedRule.documentWith) = outcome := by
  cases h with
  | badOptions v hother hnull =>
    rw [runLint_with_eq, OptionsArgument.resolve_eq_error_iff.mpr ⟨v, hother, hnull, rfl⟩]
    rfl
  | badLineRule o hoptions name defect hrejected =>
    rw [runLint_with_eq, OptionsArgument.resolve_eq_ok_iff.mpr hoptions,
      Metadata.validate_eq_error_iff.mpr ⟨name, defect, hrejected, rfl⟩]
    rfl
  | badDocumentRule o hoptions hline name defect hrejected =>
    rw [runLint_with_eq, OptionsArgument.resolve_eq_ok_iff.mpr hoptions,
      Metadata.validate_eq_ok_iff.mpr hline,
      Metadata.validate_eq_error_iff.mpr ⟨name, defect, hrejected, rfl⟩]
    rfl
  | badText o hadmitted hother =>
    rw [hadmitted.runLint_eq]
    cases text with
    | text s => exact absurd rfl (hother s)
    | _ => rfl
  | skipped o hadmitted s htext hdisabled =>
    rw [hadmitted.runLint_eq, htext]
    show scanDocument o _ _ (.ofText s) = _
    rw [scanDocument, if_neg (by rw [hdisabled]; exact Bool.false_ne_true)]
  | overlongRange o hadmitted s htext henabled hjudged n hlong =>
    rw [hadmitted.runLint_eq, htext]
    show scanDocument o _ _ (.ofText s) = _
    rw [scanDocument, if_pos henabled,
      allDiagnostics_eq_error_iff.mpr ⟨n, hjudged, hlong, rfl⟩]
    rfl
  | completed o hadmitted s htext henabled tokens hreads hshort ds hds =>
    rw [Document.reads_iff.mp hreads] at hshort
    rw [hadmitted.runLint_eq, htext]
    show scanDocument o _ _ (.ofText s) = _
    rw [scanDocument, if_pos henabled, allDiagnostics_eq_ok_iff.mpr ⟨hshort, hds⟩]
    rfl

/-- One of the cases applies to every scan. -/
theorem Verdict.exists (text : Value) (options : OptionsArgument)
    (lineRules : List (LineRule × Metadata)) (documentRules : List (DocumentRule × Metadata)) :
    ∃ outcome, Verdict text options lineRules documentRules outcome := by
  cases hresolve : options.resolve with
  | error fault =>
    obtain ⟨v, hother, hnull, -⟩ := OptionsArgument.resolve_eq_error_iff.mp hresolve
    exact ⟨_, .badOptions v hother hnull⟩
  | ok o =>
  have hoptions := OptionsArgument.resolve_eq_ok_iff.mp hresolve
  cases hvalidLine : Metadata.validate "line" (lineRules.map Prod.snd) with
  | error fault =>
    obtain ⟨name, defect, hrejected, -⟩ := Metadata.validate_eq_error_iff.mp hvalidLine
    exact ⟨_, .badLineRule o hoptions name defect hrejected⟩
  | ok _ =>
  have hline := Metadata.validate_eq_ok_iff.mp hvalidLine
  cases hvalidDocument : Metadata.validate "document" (documentRules.map Prod.snd) with
  | error fault =>
    obtain ⟨name, defect, hrejected, -⟩ := Metadata.validate_eq_error_iff.mp hvalidDocument
    exact ⟨_, .badDocumentRule o hoptions hline name defect hrejected⟩
  | ok _ =>
  have hadmitted : Admitted options lineRules documentRules o :=
    ⟨hoptions, hline, Metadata.validate_eq_ok_iff.mp hvalidDocument⟩
  by_cases htext : ∃ s, text = .text s
  · obtain ⟨s, htext⟩ := htext
    cases henabled : o.diagnosticsEnabled with
    | false => exact ⟨_, .skipped o hadmitted s htext henabled⟩
    | true =>
      -- The rules decide the last two cases: they end in a fault or give their reports.
      cases hall : allDiagnostics (lineRules.map ListedRule.lineWith)
          (documentRules.map ListedRule.documentWith) (.ofText s) with
      | error fault =>
        obtain ⟨n, hjudged, hlong, -⟩ := allDiagnostics_eq_error_iff.mp hall
        exact ⟨_, .overlongRange o hadmitted s htext henabled hjudged n hlong⟩
      | ok ds =>
        obtain ⟨hshort, hds⟩ := allDiagnostics_eq_ok_iff.mp hall
        exact ⟨_, .completed o hadmitted s htext henabled _ (Document.reads_iff.mpr rfl) hshort ds
          hds⟩
  · exact ⟨_, .badText o hadmitted (not_exists.mp htext)⟩

end

/-- A scan with any options, rules, metadata and text has the one outcome that applies to it. Its
faults are about the kind of the options or of the text, or about the values in a rule's metadata or
in a range. -/
theorem runLint_eq_iff_verdict (text : Value) (options : OptionsArgument)
    (lineRules : List (LineRule × Metadata)) (documentRules : List (DocumentRule × Metadata)) :
    (∀ outcome, runLint text options (lineRules.map ListedRule.lineWith)
        (documentRules.map ListedRule.documentWith) = outcome ↔
      Verdict text options lineRules documentRules outcome) ∧
    ∀ fault, runLint text options (lineRules.map ListedRule.lineWith)
        (documentRules.map ListedRule.documentWith) = .error fault →
      (fault.family = .kind ∧ ((∃ kind, fault = .notOptions kind) ∨ ∃ kind, fault = .notText kind)) ∨
      (fault.family = .value ∧ ((∃ name defect, fault = .invalidRule name defect) ∨
        ∃ n, fault = .numeralTooLong n)) := by
  have hiff : ∀ outcome, runLint text options (lineRules.map ListedRule.lineWith)
      (documentRules.map ListedRule.documentWith) = outcome ↔
      Verdict text options lineRules documentRules outcome := by
    intro outcome
    refine ⟨?_, Verdict.runLint_eq⟩
    rintro rfl
    obtain ⟨outcome, hverdict⟩ := Verdict.exists text options lineRules documentRules
    rw [hverdict.runLint_eq]
    exact hverdict
  refine ⟨hiff, fun fault hfault => ?_⟩
  cases (hiff _).mp hfault with
  | badOptions v => exact Or.inl ⟨rfl, Or.inl ⟨_, rfl⟩⟩
  | badLineRule => exact Or.inr ⟨rfl, Or.inl ⟨_, _, rfl⟩⟩
  | badDocumentRule => exact Or.inr ⟨rfl, Or.inl ⟨_, _, rfl⟩⟩
  | badText => exact Or.inl ⟨rfl, Or.inr ⟨_, rfl⟩⟩
  | overlongRange => exact Or.inr ⟨rfl, Or.inr ⟨_, rfl⟩⟩

/-- The first of three scans is refused for the first of two checks that its second rule fails, though
the text cannot be scanned either. The second ends in a lower bound of 4301 digits, and the third is
completed. -/
theorem runLint_eq_iff_verdict_three_scans :
    let metadata := { LineRule.danglingPipe.metadata with confidence := "sure", scope := "document" }
    let rules := [(.loneBar, LineRule.loneBar.metadata), (.danglingPipe, metadata)]
    let fault := Fault.invalidRule "pipelineMissingContinuation" (.confidence "sure")
    let ranges := [(LineRule.backwardRange, LineRule.backwardRange.metadata)]
    let long := Value.text (String.ofList (List.replicate 4301 '1' ++ "..2".toList))
    let d := Spec.backwardRange.at (.onLine 0 ⟨0, 4⟩)
    let result : ScanResult := ⟨.ofText "5..2", [d], true, false⟩
    (runLint .null .absent (rules.map ListedRule.lineWith) [] = .error fault ∧
      Verdict .null .absent rules [] (.error fault) ∧ fault.family = .value) ∧
    (runLint long .absent (ranges.map ListedRule.lineWith) [] = .error (.numeralTooLong 4301) ∧
      Verdict long .absent ranges [] (.error (.numeralTooLong 4301))) ∧
    (runLint (.text "5..2") .absent (ranges.map ListedRule.lineWith) [] = .ok result ∧
      Verdict (.text "5..2") .absent ranges [] (.ok result)) := by
  intro metadata rules fault ranges long d result
  refine ⟨?_, ?_, ?_⟩
  · have hfault : runLint .null .absent (rules.map ListedRule.lineWith) [] = .error fault := by
      rw [runLint_eq]
      have hrejected : ListedRule.validate "line" (rules.map ListedRule.lineWith) =
          .error fault := by
        refine Metadata.validate_eq_error_iff.mpr ⟨_, _, ⟨[LineRule.loneBar.metadata], metadata, [],
          rfl, ?_, .confidence ?_ ?_, rfl⟩, rfl⟩
        · intro m hm
          rw [List.mem_singleton.mp hm]
          exact LineRule.loneBar.metadata_acceptable
        · exact LineRule.danglingPipe.metadata_acceptable.domain
        · decide
      rw [hrejected]
      rfl
    obtain ⟨hverdict, hfamily⟩ := runLint_eq_iff_verdict .null .absent rules []
    refine ⟨hfault, (hverdict _).mp hfault, ?_⟩
    obtain ⟨hkind, -⟩ | ⟨hvalue, -⟩ := hfamily fault hfault
    · exact absurd hkind (by decide)
    · exact hvalue
  · have hadmitted : Admitted .absent ranges [] {} := by
      refine ⟨.absent, ?_, nofun⟩
      intro m hm
      rw [List.mem_singleton.mp hm]
      exact LineRule.backwardRange.metadata_acceptable
    have hdigits : ∀ c ∈ List.replicate 4301 '1', isDigit c = true := by
      intro c hc
      rw [List.eq_of_mem_replicate hc]
      decide
    have hstands : RangeToken.Stands [] [] ⟨List.replicate 4301 '1', some ['2']⟩ := by
      refine .closed ⟨?_, hdigits, nofun, ?_⟩ ⟨List.cons_ne_nil _ _, List.forall_mem_singleton.mpr rfl, ?_, nofun⟩
      · exact List.replicate_succ_ne_nil
      · rintro c ⟨⟩
        decide
      · intro c hc
        rw [List.nil_append, List.getLast?_append] at hc
        cases hc
        decide
    have hreads := Document.reads_ofText hstands
    have htext : RangeToken.text ⟨List.replicate 4301 '1', some ['2']⟩ =
        List.replicate 4301 '1' ++ "..2".toList := congrArg (List.replicate 4301 '1' ++ ·) rfl
    rw [htext] at hreads
    have hlength : (List.replicate 4301 '1').length = 4301 := List.length_replicate
    have hverdict : Verdict long .absent ranges [] (.error (.numeralTooLong 4301)) :=
      .overlongRange {} hadmitted _ rfl rfl (List.mem_singleton.mpr rfl) 4301
        ⟨[], _, [], hreads, .lower _ rfl (by rw [hlength]; decide) hlength.symm, nofun⟩
    exact ⟨((runLint_eq_iff_verdict long .absent ranges []).1 _).mpr hverdict, hverdict⟩
  · have hsort : Diagnostic.sort [d] = [d] := List.mergeSort_singleton _
    have hresult : runLint (.text "5..2") .absent (ranges.map ListedRule.lineWith) [] =
        .ok result := by
      show Except.ok (ScanResult.mk (.ofText "5..2") (Diagnostic.sort [d])
        (Diagnostic.hasErrors (Diagnostic.sort [d])) false) = _
      rw [hsort]
      rfl
    exact ⟨hresult, ((runLint_eq_iff_verdict (.text "5..2") .absent ranges []).1 _).mp hresult⟩

end ScriptLint
