import ScriptLint.Proofs.Diagnostic.Order
import ScriptLint.Proofs.Rule.Declarations

/-!
# Words that begin with a digit

A digit-led word is a whole word, not a part of one, so that it is a maximal run of the characters
of words (`IsDigitLedAt`), and those that are found in a line are all that it has
(`mem_findAll_digitLedWord_iff`). Three rules meet at such words: the one for digit-led words
itself, and the two that judge the names of functions and of the variables of queries. What the
latter reject is a maximal run, too (`exists_isRunAt_of_finding?`), and is rejected for its first
character only. A rejected name is therefore a digit-led word, as soon as it has more than one
character (`mem_digitLedWords_of_finding?`), and the first rule reports the same range
(`run_leadingDigit`).
-/

namespace ScriptLint

/-- A word of more than one character that begins with a digit stands at a column of a line, and is
not a part of a longer word. -/
structure IsDigitLedAt (line : Line) (column : Nat) (word : List Char) : Prop where
  isRunAt : Line.IsRunAt isWordChar line column word
  long : 2 ≤ word.length
  digit : ∃ c, word.head? = some c ∧ isDigit c = true

/-! ## Digit-led words -/

variable {line : Line} {column : Nat} {word : List Char}

/-- A digit-led word is read at a column exactly when it stands there. -/
theorem takesAt_digitLedWord_iff :
    Reader.TakesAt digitLedWord line column word ↔ IsDigitLedAt line column word := by
  constructor
  · rintro ⟨before, text, rfl, rfl, hread⟩
    obtain ⟨after, rfl, hrun, hlong, hdigit⟩ := digitLedWord_eq_some_iff.mp hread
    exact ⟨⟨before, after, (List.append_assoc _ _ _).symm, rfl, hrun⟩, hlong, hdigit⟩
  · rintro ⟨⟨before, after, rfl, rfl, hrun⟩, hlong, hdigit⟩
    exact ⟨before, word ++ after, List.append_assoc _ _ _, rfl,
      digitLedWord_eq_some_iff.mpr ⟨after, rfl, hrun, hlong, hdigit⟩⟩

/-- A digit-led word is a run, so that none is read within another. -/
theorem isolated_digitLedWord : Reader.Isolated List.length digitLedWord := by
  intro before passed rest found later hpassed hfound hlater
  have hruns : ∀ {before text word}, digitLedWord before text = some word →
      Line.run isWordChar before text = some word := by
    intro before text word hread
    rw [← List.reverse_reverse before] at hread ⊢
    obtain ⟨after, htext, hrun, -⟩ := digitLedWord_eq_some_iff.mp hread
    exact Line.run_eq_some_iff.mpr ⟨after, htext, hrun⟩
  exact Line.isolated_run isWordChar before passed rest found later hpassed (hruns hfound)
    (hruns hlater)

/-- What is found in a line are its digit-led words. -/
theorem mem_findAll_digitLedWord_iff :
    (column, word) ∈ Line.findAll List.length digitLedWord line ↔ IsDigitLedAt line column word := by
  have hend : ∀ before, digitLedWord before [] = none := by
    intro before
    simp [digitLedWord, Line.takeSome]
  rw [isolated_digitLedWord.mem_findAll_iff hend, takesAt_digitLedWord_iff]

/-- The span of a digit-led word is found. -/
theorem IsDigitLedAt.mem_digitLedWords (h : IsDigitLedAt line column word) :
    ⟨column, word.length⟩ ∈ digitLedWords line :=
  List.mem_map.mpr ⟨(column, word), mem_findAll_digitLedWord_iff.mpr h, rfl⟩

/-! ## Names that are rejected -/

namespace DeclarationKind

variable {kind : DeclarationKind} {finding : Finding}

/-- The name of a declaration is a maximal run of the line. -/
theorem OccursAt.isRunAt {start : Nat} {name : List Char}
    (h : kind.OccursAt line column start name) : Line.IsRunAt kind.isPart line start name := by
  obtain ⟨before, gap, after, hline, -, hstart, hoccurs⟩ := h
  refine ⟨before ++ (kind.keyword ++ gap), after, ?_, hstart, hoccurs.isRun⟩
  rw [hline]
  simp only [List.append_assoc]

/-- What a rule for names finds is a maximal run of the line that the rule does not accept. -/
theorem exists_isRunAt_of_finding? (h : kind.finding? line = some finding) :
    ∃ start name, finding.span = ⟨start, name.length⟩ ∧ Line.IsRunAt kind.isPart line start name ∧
      ¬ kind.Accepts name := by
  obtain ⟨⟨span, name⟩, hfiltered, rfl⟩ := Option.map_eq_some_iff.mp h
  rw [Finding.span, Columns.span_columns]
  obtain ⟨hdeclared, hrejected⟩ := Option.filter_eq_some_iff.mp hfiltered
  -- The span that is found has the length of the name.
  obtain ⟨found, -, hfound⟩ := Option.map_eq_some_iff.mp hdeclared
  obtain ⟨hspan, rfl⟩ := Prod.mk.inj hfound
  subst hspan
  obtain ⟨column, hoccurs, -⟩ := declared?_eq_some_iff.mp hdeclared
  have hrun := hoccurs.isRunAt
  refine ⟨_, _, rfl, hrun, fun haccepts => ?_⟩
  obtain ⟨before, after, -, -, hword⟩ := hrun
  rw [(accepts_iff hword.nonempty hword.members).mpr haccepts] at hrejected
  cases hrejected

/-- A name of a function or a query that is not accepted is a digit-led word, if it has more than one
character. -/
theorem mem_digitLedWords_of_finding? (hkind : kind = .function ∨ kind = .query)
    (h : kind.finding? line = some finding) (hlong : 2 ≤ finding.span.length) :
    finding.span ∈ digitLedWords line := by
  obtain ⟨start, name, hspan, hrun, hrejected⟩ := exists_isRunAt_of_finding? h
  rw [hspan] at hlong ⊢
  -- Both kinds have names of word characters, and reject those that begin with a digit.
  have hword : Line.IsRunAt isWordChar line start name := by
    rcases hkind with rfl | rfl
    · exact hrun
    · exact hrun
  have hdigit : ¬ ∀ c, name.head? = some c → isDigit c = false := by
    rcases hkind with rfl | rfl
    · exact hrejected
    · exact hrejected
  push Not at hdigit
  obtain ⟨c, hc, hd⟩ := hdigit
  exact IsDigitLedAt.mem_digitLedWords ⟨hword, hlong, c, hc, Bool.not_eq_false _ ▸ hd⟩

end DeclarationKind

/-! ## The rules -/

/-- The rule for digit-led words reports the digit-led words of a line, all of them and nothing else,
from left to right. Where one of the rules for names of functions and variables reports a name of more
than one character, this rule reports the same range. -/
theorem run_leadingDigit (line : Line) (index : Nat) (document : Document) :
    ∃ words : List (Nat × List Char),
      (∀ column word, (column, word) ∈ words ↔ IsDigitLedAt line column word) ∧
      words.Pairwise (fun a b => a.1 < b.1) ∧
      ∃ ds, LineRule.leadingDigit.run line index document = .ok ds ∧
        (∀ d ∈ ds, d = Spec.leadingDigit.at d.range) ∧
        ds.map (fun d => (d.range.start, d.range.stop)) =
          words.map (fun found => (⟨index, found.1⟩, ⟨index, found.1 + found.2.length⟩)) ∧
        ∀ rule ∈ [LineRule.functionName, LineRule.queryVariable],
          ∃ named, rule.run line index document = .ok named ∧
            ∀ d ∈ named, d.range.start.column + 2 ≤ d.range.stop.column →
              ∃ e ∈ ds, e.range = d.range := by
  have hfindings : LineRule.leadingDigit.findings line index document =
      LineRule.spans (digitLedWords line) := rfl
  obtain ⟨ds, hrun, hspec, hranges⟩ := LineRule.run_of_spans hfindings
  refine ⟨_, fun column word => mem_findAll_digitLedWord_iff, ?_, ds, hrun, hspec, ?_, ?_⟩
  · exact Line.findAll_pairwise _ _ _
  · rw [hranges, digitLedWords, List.map_map]
    rfl
  · intro rule hrule
    obtain ⟨kind, rfl, hkind⟩ : ∃ kind : DeclarationKind, kind.rule = rule ∧
        (kind = .function ∨ kind = .query) := by
      rcases List.mem_cons.mp hrule with rfl | hrule
      · exact ⟨.function, rfl, Or.inl rfl⟩
      · exact ⟨.query, (List.mem_singleton.mp hrule).symm, Or.inr rfl⟩
    refine ⟨_, LineRule.run_of_findings (kind.findings_eq line index document), ?_⟩
    intro d hd hlong
    obtain ⟨finding, hfinding, rfl⟩ := List.mem_map.mp hd
    have hspan : finding.span ∈ digitLedWords line := by
      refine DeclarationKind.mem_digitLedWords_of_finding? hkind (Option.mem_toList.mp hfinding) ?_
      exact Nat.le_of_add_le_add_left hlong
    -- The diagnostics of the rule have the ends of the words that are found.
    obtain ⟨e, he, hends⟩ := List.mem_map.mp (hranges ▸ List.mem_map_of_mem hspan)
    obtain ⟨hstart, hstop⟩ := Prod.mk.inj hends
    exact ⟨e, he, Range.eq_of_ends hstart hstop⟩

/-- The name of the function is one of two digit-led words of the line. -/
theorem run_leadingDigit_function_name :
    let line := "function 9lives(10)".toList
    let name := Spec.functionName.at (.onLine 0 ⟨9, 6⟩)
    LineRule.functionName ∈ [LineRule.functionName, LineRule.queryVariable] ∧
    LineRule.functionName.run line 0 (.ofText "") = .ok [name] ∧
    name.range.start.column + 2 ≤ name.range.stop.column ∧
    ∃ ds, LineRule.leadingDigit.run line 0 (.ofText "") = .ok ds ∧ ds.length = 2 ∧
      ∃ e ∈ ds, e.range = name.range := by
  intro line name
  have hrule : LineRule.functionName ∈ [LineRule.functionName, LineRule.queryVariable] := by decide
  have hnamed : LineRule.functionName.run line 0 (.ofText "") = .ok [name] := rfl
  have hlong : name.range.start.column + 2 ≤ name.range.stop.column := by decide
  obtain ⟨words, -, -, ds, hrun, -, -, hnames⟩ := run_leadingDigit line 0 (.ofText "")
  obtain ⟨named, hnamed', hsame⟩ := hnames .functionName hrule
  cases Except.ok.inj (hnamed.symm.trans hnamed')
  refine ⟨hrule, hnamed, hlong, ds, hrun, ?_, hsame name (List.mem_singleton.mpr rfl) hlong⟩
  cases Except.ok.inj (hrun.symm.trans rfl)
  rfl

end ScriptLint
