import ScriptLint.Proofs.Scan.Report

/-!
# The rules about the edges of a line

Three rules look for a token at the end of a line, with only white space behind it, and in one case a
semicolon, too; two look at how the line begins. They decide on what is kept of the line without its
edge, while the columns that they report are those of the line itself. `EdgeKind.Spans` says which
columns are to be marked in terms of the line alone.

What joins the two is that a token ends what is kept exactly where the line ends in it
(`Line.exists_endsAt_iff`), and that the column at which it is then looked for in the line is that one.
The tail has no character of the token, so the token is the last of its kind (`Line.EndsAt.isLast`).
Together, what the rules find is what is to be marked (`columns?_eq_some_iff`), and they report just
this (`run_edge`).
-/

namespace ScriptLint

/-! ## The indentation -/

namespace Layout

/-- A character of an indentation: a tab or a space. -/
def isIndent (c : Char) : Bool := c == '\t' || c == ' '

variable {first second : Char} {line : Line}

/-- A text that begins with one of two characters and has both changes from the one to the other. -/
theorem changesFrom_append {indent rest : List Char} (hne : second ≠ first)
    (hindent : ∀ c ∈ indent, c = first ∨ c = second) (hhead : indent.head? = some first)
    (hsecond : second ∈ indent) : changesFrom first second (indent ++ rest) = true := by
  -- All in front of the first occurrence of the second character is the first character.
  obtain ⟨passed, more, rfl, hpassed⟩ := List.eq_append_cons_of_mem hsecond
  have hrun : ∀ c ∈ passed, (c == first) = true := by
    intro c hc
    rw [beq_iff_eq]
    refine (hindent c (List.mem_append_left _ hc)).resolve_right ?_
    rintro rfl
    exact hpassed hc
  have hstart : (passed ++ second :: more ++ rest).head? = some first := by
    rw [List.head?_append, hhead]
    rfl
  have hchange : ((passed ++ second :: more ++ rest).dropWhile (· == first)).head? =
      some second := by
    rw [Line.head?_dropWhile_eq_some_iff (by simpa using hne)]
    refine ⟨passed, more ++ rest, ?_, hrun⟩
    rw [List.append_assoc, List.cons_append]
  rw [changesFrom, hstart, hchange, beq_self_eq_true, beq_self_eq_true, Bool.and_self]

/-- A line that changes from one character of an indentation to another has both in front. -/
theorem exists_isRunAt_of_changesFrom (hfirst : isIndent first = true)
    (hsecond : isIndent second = true) (h : changesFrom first second line = true) :
    ∃ indent, Line.IsRunAt isIndent line 0 indent ∧ first ∈ indent ∧ second ∈ indent := by
  obtain ⟨n, rest, rfl⟩ := changesFrom_eq_true h
  have hindent := takeWhile_replicate_cons hfirst hsecond (n + 1) rest
  refine ⟨_, Line.isRunAt_takeWhile ?_, ?_, ?_⟩
  · simp [hindent]
  · simp [hindent]
  · simp [hindent]

/-- A line changes from tabs to spaces or the other way exactly when its indentation has both. -/
theorem exists_changesFrom_iff :
    (changesFrom '\t' ' ' line || changesFrom ' ' '\t' line) = true ↔
      ∃ indent, Line.IsRunAt isIndent line 0 indent ∧ '\t' ∈ indent ∧ ' ' ∈ indent := by
  rw [Bool.or_eq_true]
  constructor
  · rintro (h | h)
    · exact exists_isRunAt_of_changesFrom (by decide) (by decide) h
    · obtain ⟨indent, hrun, hspace, htab⟩ := exists_isRunAt_of_changesFrom (by decide) (by decide) h
      exact ⟨indent, hrun, htab, hspace⟩
  · rintro ⟨indent, ⟨before, rest, rfl, hbefore, hrun⟩, htab, hspace⟩
    rw [List.length_eq_zero_iff.mp hbefore, List.nil_append]
    have hmembers : ∀ c ∈ indent, c = '\t' ∨ c = ' ' := by
      intro c hc
      simpa [isIndent] using hrun.members c hc
    -- The first character of the indentation says which of the two comes first.
    obtain ⟨c, hhead⟩ : ∃ c, indent.head? = some c :=
      ⟨_, List.head?_eq_some_head hrun.nonempty⟩
    obtain rfl | rfl := hmembers c (List.mem_of_head? hhead)
    · exact Or.inl (changesFrom_append (by decide) hmembers hhead hspace)
    · exact Or.inr (changesFrom_append (by decide) (fun c hc => (hmembers c hc).symm) hhead htab)

end Layout

/-! ## What is to be marked -/

/-- The rules about the edges of a line. -/
inductive EdgeKind where
  | danglingPipe
  | redundantSemicolon
  | arrowWithoutBody
  | armWithoutPattern
  | mixedIndentation
  deriving DecidableEq, Repr

namespace EdgeKind

/-- The rule itself. -/
def rule : EdgeKind → LineRule
  | .danglingPipe => .danglingPipe
  | .redundantSemicolon => .redundantSemicolon
  | .arrowWithoutBody => .arrowWithoutBody
  | .armWithoutPattern => .armWithoutPattern
  | .mixedIndentation => .mixedIndentation

/-- The token that is looked for at the end of a line. -/
def token? : EdgeKind → Option (List Char)
  | .danglingPipe => some ['|', '>']
  | .redundantSemicolon => some [';']
  | .arrowWithoutBody => some ['=', '>']
  | .armWithoutPattern | .mixedIndentation => none

/-- The columns from `first` on and before `last` are to be marked in a line. -/
def Spans : EdgeKind → Line → (first last : Nat) → Prop
  | .danglingPipe, line, first, last =>
    Line.EndsAt ['|', '>'] Line.IsBlank line first ∧ last = line.length
  | .redundantSemicolon, line, first, last =>
    (':' ∈ line ∧ Line.EndsAt [';'] Line.IsBlank line first) ∧ last = line.length
  | .arrowWithoutBody, line, first, last =>
    Line.EndsAt ['=', '>'] Layout.IsLoose line first ∧ last = line.length
  | .armWithoutPattern, line, first, last =>
    (∃ blanks rest, line = blanks ++ (['=', '>'] ++ rest) ∧ Line.IsBlank blanks) ∧
      first = 0 ∧ last = line.length
  -- The indentation is of tabs and spaces, but all white space in front is marked.
  | .mixedIndentation, line, first, last =>
    (∃ indent, Line.IsRunAt Layout.isIndent line 0 indent ∧ '\t' ∈ indent ∧ ' ' ∈ indent) ∧
      first = 0 ∧ ∃ blanks rest, line = blanks ++ rest ∧ Line.IsBlank blanks ∧
        (∀ c, rest.head? = some c → isBlank c = false) ∧ last = blanks.length

variable {kind : EdgeKind} {line : Line} {first last : Nat}

/-- The columns that are to be marked are in order. -/
theorem Spans.le (h : kind.Spans line first last) : first ≤ last := by
  cases kind with
  | danglingPipe | arrowWithoutBody =>
    obtain ⟨hends, rfl⟩ := h
    exact hends.le_length
  | redundantSemicolon =>
    obtain ⟨⟨-, hends⟩, rfl⟩ := h
    exact hends.le_length
  | armWithoutPattern | mixedIndentation =>
    obtain ⟨-, rfl, -⟩ := h
    exact Nat.zero_le _

/-- The token that a line ends in has no other behind it. -/
theorem Spans.isLast {token : List Char} (h : kind.Spans line first last)
    (htoken : kind.token? = some token) :
    Line.StandsAt token line first ∧
      ∀ column, Line.StandsAt token line column → column ≤ first := by
  cases kind with
  | danglingPipe =>
    cases htoken
    refine h.1.isLast fun tail htail => ?_
    have hbar : '|' ∉ tail := htail.not_mem (by decide)
    simpa using hbar
  | redundantSemicolon =>
    cases htoken
    exact h.1.2.isLast fun tail htail => htail.not_mem (by decide)
  | arrowWithoutBody =>
    cases htoken
    refine h.1.isLast fun tail htail => ?_
    obtain ⟨blanks, hblanks, hloose⟩ := htail
    have hsign : '=' ∉ blanks := Line.IsBlank.not_mem hblanks (by decide)
    obtain rfl | ⟨more, hmore, rfl⟩ := hloose
    · simpa using hsign
    · have hsign' : '=' ∉ more := Line.IsBlank.not_mem hmore (by decide)
      simp [hsign, hsign']
  | armWithoutPattern => cases htoken
  | mixedIndentation => cases htoken

/-! ## What is found -/

/-- What a rule finds at the edge of a line. -/
def columns? : EdgeKind → Line → Option Columns
  | .danglingPipe, line => Pipeline.dangling? line
  | .redundantSemicolon, line => Layout.redundantSemicolon? line
  | .arrowWithoutBody, line => Layout.bodilessArrow? line
  | .armWithoutPattern, line =>
    if Match.startsWithArrow line then some (Span.wholeLine line.length).columns else none
  | .mixedIndentation, line => Layout.mixedIndent? line

/-- The rules find what is there for sure. -/
theorem findings_eq (kind : EdgeKind) (line : Line) (index : Int) (document : Document) :
    kind.rule.findings line index document = LineRule.certain (kind.columns? line).toList := by
  cases kind with
  | danglingPipe | redundantSemicolon | arrowWithoutBody | mixedIndentation => rfl
  | armWithoutPattern =>
    rw [rule, LineRule.findings, columns?]
    split
    · rfl
    · rfl

/-- Columns up to the end of a line have that end for their last one. -/
theorem exists_toEnd_iff {P : Nat → Prop} {columns : Columns} :
    (∃ column : Nat, P column ∧ columns = ⟨column, line.length⟩) ↔
      ∃ first last : Nat, (P first ∧ last = line.length) ∧ columns = ⟨first, last⟩ := by
  constructor
  · rintro ⟨column, hcolumn, rfl⟩
    exact ⟨column, line.length, ⟨hcolumn, rfl⟩, rfl⟩
  · rintro ⟨first, last, ⟨hfirst, rfl⟩, rfl⟩
    exact ⟨first, hfirst, rfl⟩

/-- What is found is what is to be marked. -/
theorem columns?_eq_some_iff {columns : Columns} :
    kind.columns? line = some columns ↔
      ∃ first last : Nat, kind.Spans line first last ∧ columns = ⟨first, last⟩ := by
  cases kind with
  | danglingPipe => exact Pipeline.dangling?_eq_some_iff.trans exists_toEnd_iff
  | redundantSemicolon => exact Layout.redundantSemicolon?_eq_some_iff.trans exists_toEnd_iff
  | arrowWithoutBody => exact Layout.bodilessArrow?_eq_some_iff.trans exists_toEnd_iff
  | armWithoutPattern =>
    have hwhole : (Span.wholeLine line.length).columns = ⟨(0 : Nat), line.length⟩ := by
      rw [Span.columns, Span.stop, Span.wholeLine, Nat.zero_add]
    rw [columns?, Option.ite_none_right_eq_some, Match.startsWithArrow_iff, hwhole]
    constructor
    · rintro ⟨harrow, hcolumns⟩
      exact ⟨0, line.length, ⟨harrow, rfl, rfl⟩, (Option.some.inj hcolumns).symm⟩
    · rintro ⟨first, last, ⟨harrow, rfl, rfl⟩, rfl⟩
      exact ⟨harrow, rfl⟩
  | mixedIndentation =>
    rw [columns?, Layout.mixedIndent?, Option.ite_none_right_eq_some, Layout.exists_changesFrom_iff,
      Layout.length_sub_length_trimStart]
    constructor
    · rintro ⟨hindent, hcolumns⟩
      refine ⟨0, _, ⟨hindent, rfl, line.takeWhile isBlank, line.dropWhile isBlank,
        List.takeWhile_append_dropWhile.symm, List.all_takeWhile,
        fun c => Line.not_of_head?_dropWhile, rfl⟩, (Option.some.inj hcolumns).symm⟩
    · rintro ⟨first, last, ⟨hindent, rfl, blanks, rest, rfl, hblanks, hrest, rfl⟩, rfl⟩
      rw [Line.takeWhile_append_eq (List.all_eq_true.mp hblanks) hrest]
      exact ⟨hindent, rfl⟩

/-- The columns that are to be marked are those of a span. -/
theorem Spans.span_eq (h : kind.Spans line first last) :
    (⟨first, last⟩ : Columns).span = ⟨first, last - first⟩ := by
  have hle := h.le
  rw [Columns.span, Span.mk.injEq]
  constructor
  · exact Int.toNat_natCast first
  · dsimp only
    omega

end EdgeKind

/-! ## The rules -/

/-- A rule about the edge of a line is silent if there is nothing to be marked, and otherwise makes one
report, about the columns that are to be marked. Where it looks for a token at the end of the line,
they begin at the last one in the line. -/
theorem run_edge (kind : EdgeKind) (line : Line) (index : Nat) (document : Document) :
    ((∀ first last, ¬ kind.Spans line first last) →
      kind.rule.run line index document = .ok []) ∧
    ∀ first last, kind.Spans line first last →
      (∃ d, kind.rule.run line index document = .ok [d] ∧ d = kind.rule.spec.at d.range ∧
        d.range.start = ⟨index, first⟩ ∧ d.range.stop = ⟨index, last⟩) ∧
      ∀ token, kind.token? = some token → Line.StandsAt token line first ∧
        ∀ column, Line.StandsAt token line column → column ≤ first := by
  obtain ⟨ds, hrun, hspec, hranges⟩ := LineRule.run_of_certain (kind.findings_eq line index document)
  constructor
  · intro hnone
    have hcolumns : kind.columns? line = none := by
      rw [Option.eq_none_iff_forall_ne_some]
      intro columns hcolumns
      obtain ⟨first, last, hspans, -⟩ := EdgeKind.columns?_eq_some_iff.mp hcolumns
      exact hnone first last hspans
    rw [hcolumns] at hranges
    rw [hrun, List.map_eq_nil_iff.mp hranges]
  · intro first last hspans
    refine ⟨?_, fun token htoken => hspans.isLast htoken⟩
    rw [EdgeKind.columns?_eq_some_iff.mpr ⟨first, last, hspans, rfl⟩] at hranges
    obtain ⟨d, rfl, hends⟩ := List.map_eq_singleton_iff.mp hranges
    obtain ⟨hstart, hstop⟩ := Prod.mk.inj hends
    rw [hspans.span_eq] at hstart hstop
    rw [Span.stop, Nat.add_sub_cancel' hspans.le] at hstop
    exact ⟨d, hrun, hspec d (List.mem_singleton.mpr rfl), hstart, hstop⟩

/-- The second arrow has no body, but white space of several kinds and a semicolon; the semicolon is
not redundant, since the line has no colon. -/
theorem run_edge_second_arrow :
    let line := "a => b => \u00a0;\t".toList
    EdgeKind.arrowWithoutBody.Spans line 7 13 ∧
    (∃ d, LineRule.arrowWithoutBody.run line 0 (.ofText "") = .ok [d] ∧
      d.range.start = ⟨0, 7⟩ ∧ d.range.stop = ⟨0, 13⟩) ∧
    (∀ column, Line.StandsAt ['=', '>'] line column → column ≤ 7) ∧
    (∀ first last, ¬ EdgeKind.redundantSemicolon.Spans line first last) ∧
    LineRule.redundantSemicolon.run line 0 (.ofText "") = .ok [] := by
  intro line
  have hloose : Layout.IsLoose " \u00a0;\t".toList :=
    ⟨[' ', '\u00a0'], by decide, Or.inr ⟨['\t'], by decide, rfl⟩⟩
  have hspans : EdgeKind.arrowWithoutBody.Spans line 7 13 :=
    ⟨⟨"a => b ".toList, " \u00a0;\t".toList, rfl, rfl, hloose⟩, rfl⟩
  have hcolon : ∀ first last, ¬ EdgeKind.redundantSemicolon.Spans line first last :=
    fun first last h => absurd h.1.1 (by decide)
  obtain ⟨⟨d, hrun, -, hstart, hstop⟩, htoken⟩ :=
    (run_edge .arrowWithoutBody line 0 (.ofText "")).2 7 13 hspans
  exact ⟨hspans, ⟨d, hrun, hstart, hstop⟩, (htoken _ rfl).2, hcolon,
    (run_edge .redundantSemicolon line 0 (.ofText "")).1 hcolon⟩

end ScriptLint
