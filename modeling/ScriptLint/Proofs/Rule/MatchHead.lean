import ScriptLint.Proofs.Scan.MatchClosure
import ScriptLint.Proofs.Text.Runs

/-!
# Where a match expression begins, and whether its block is closed

A head of a match expression is searched for from left to right, and its block is followed line by
line. Here both are told without a search. `Match.IsHead` says which texts stand around the keyword of
a head, and the head that is found is the leftmost one (`head?_eq_some`, `head?_eq_none_iff`).
`Document.ClosesAfter` says that the braces of some lines from the head's line on are balanced, which is
when the search for the end of the block finds one (`not_closesAfter_iff`). The rule for match blocks
reports the leftmost head of a line exactly where no such lines follow (`run_unclosedMatch`).
-/

namespace ScriptLint

namespace Match

/-- The keyword between the texts `before` and `after` of a line begins a match expression. -/
structure IsHead (before after : List Char) : Prop where
  /-- The keyword is not a member and not the end of a longer name. -/
  beginsWord : ∀ c, before.getLast? = some c → c ≠ '.' ∧ c ≠ '$' ∧ isWordChar c = false
  /-- The keyword is not the beginning of a longer name. -/
  endsWord : ∀ c, after.head? = some c → isWordChar c = false
  /-- The keyword is not called: spaces apart, no parenthesis follows. -/
  notCalled : ¬ ∃ spaces rest, after = spaces ++ '(' :: rest ∧ ∀ c ∈ spaces, isSpace c = true
  /-- The first brace or semicolon that follows opens a block. -/
  opensBlock : ∃ passed rest, after = passed ++ '{' :: rest ∧
    ∀ c ∈ passed, c ≠ '{' ∧ c ≠ '}' ∧ c ≠ ';'

/-- A match expression begins at a column of a line. -/
def IsHeadAt (line : Line) (column : Nat) : Prop :=
  ∃ before after, line = before ++ word ++ after ∧ before.length = column ∧ IsHead before after

/-- A name goes on up to the keyword exactly when the character before it is one of a name, or makes
a member of it. -/
theorem belongsToName_reverse_eq_false_iff {before : List Char} :
    belongsToName before.reverse = false ↔
      ∀ c, before.getLast? = some c → c ≠ '.' ∧ c ≠ '$' ∧ isWordChar c = false := by
  rw [belongsToName, List.head?_reverse]
  cases before.getLast? with
  | none => simp
  | some c => simp [and_assoc]

/-- A word ends where no character of a word follows. -/
theorem endsWord_eq_true_iff {after : List Char} :
    Line.endsWord after = true ↔ ∀ c, after.head? = some c → isWordChar c = false := by
  rw [Line.endsWord]
  cases after.head? with
  | none => simp
  | some c => simp

/-- A call is a parenthesis behind spaces. -/
theorem isCall_eq_true_iff {after : List Char} :
    isCall after = true ↔
      ∃ spaces rest, after = spaces ++ '(' :: rest ∧ ∀ c ∈ spaces, isSpace c = true := by
  rw [isCall, beq_iff_eq, Line.head?_dropWhile_eq_some_iff (by decide)]

/-- A block is opened by the first brace or semicolon. -/
theorem opensBlock_eq_true_iff {after : List Char} :
    opensBlock after = true ↔ ∃ passed rest, after = passed ++ '{' :: rest ∧
      ∀ c ∈ passed, c ≠ '{' ∧ c ≠ '}' ∧ c ≠ ';' := by
  rw [opensBlock, beq_iff_eq, Line.head?_dropWhile_eq_some_iff (by decide)]
  simp only [Bool.and_eq_true, bne_iff_ne, and_assoc]

/-- The texts around the keyword make it a head exactly when they pass the four tests. -/
theorem isHead_iff {before after : List Char} :
    IsHead before after ↔ belongsToName before.reverse = false ∧ Line.endsWord after = true ∧
      isCall after = false ∧ opensBlock after = true := by
  rw [belongsToName_reverse_eq_false_iff, endsWord_eq_true_iff, ← Bool.not_eq_true (isCall after),
    isCall_eq_true_iff, opensBlock_eq_true_iff]
  constructor
  · rintro ⟨hbegins, hends, hcalled, hopens⟩
    exact ⟨hbegins, hends, hcalled, hopens⟩
  · rintro ⟨hbegins, hends, hcalled, hopens⟩
    exact ⟨hbegins, hends, hcalled, hopens⟩

/-- A head is read exactly where the keyword stands between texts that make it one. -/
theorem head_eq_some_iff {before text : List Char} :
    head before.reverse text = some () ↔ ∃ after, text = word ++ after ∧ IsHead before after := by
  simp only [head, Option.ite_none_right_eq_some, Bool.and_eq_true, Bool.not_eq_true', and_true,
    List.isPrefixOf_iff_prefix]
  constructor
  · rintro ⟨⟨⟨⟨hname, after, rfl⟩, hends⟩, hcall⟩, hopens⟩
    rw [List.drop_left] at hends hcall hopens
    exact ⟨after, rfl, isHead_iff.mpr ⟨hname, hends, hcall, hopens⟩⟩
  · rintro ⟨after, rfl, hhead⟩
    obtain ⟨hname, hends, hcall, hopens⟩ := isHead_iff.mp hhead
    rw [List.drop_left]
    exact ⟨⟨⟨⟨hname, after, rfl⟩, hends⟩, hcall⟩, hopens⟩

/-- Where a line splits, a head is read exactly when a match expression begins at that column. -/
theorem head_eq_some_iff_isHeadAt {passed rest : List Char} :
    head passed.reverse rest = some () ↔ IsHeadAt (passed ++ rest) passed.length := by
  rw [head_eq_some_iff]
  constructor
  · rintro ⟨after, rfl, hhead⟩
    exact ⟨passed, after, (List.append_assoc _ _ _).symm, rfl, hhead⟩
  · rintro ⟨before, after, hline, hlength, hhead⟩
    rw [List.append_assoc] at hline
    obtain ⟨rfl, rfl⟩ := List.append_inj hline hlength.symm
    exact ⟨after, rfl, hhead⟩

variable {line : Line}

/-- No head is found exactly when no match expression begins in the line. -/
theorem head?_eq_none_iff : head? line = none ↔ ∀ column, ¬ IsHeadAt line column := by
  rw [head?, Option.map_eq_none_iff, Line.findFirst?_eq_none_iff]
  constructor
  · rintro hnone column ⟨before, after, rfl, rfl, hhead⟩
    -- The search looks at every column with something behind it, and the keyword is there.
    have hread := hnone before (word ++ after) (List.append_assoc _ _ _) (by simp [word])
    rw [head_eq_some_iff.mpr ⟨after, rfl, hhead⟩] at hread
    cases hread
  · rintro hnone passed rest rfl -
    cases hread : head passed.reverse rest with
    | none => rfl
    | some found => exact absurd (head_eq_some_iff_isHeadAt.mp hread) (hnone _)

/-- The head that is found is the keyword of the first match expression in the line. -/
theorem head?_eq_some {span : Span} (h : head? line = some span) :
    span.length = 5 ∧ IsHeadAt line span.column ∧
      ∀ column < span.column, ¬ IsHeadAt line column := by
  obtain ⟨found, hfound, rfl⟩ := Option.map_eq_some_iff.mp h
  obtain ⟨passed, rest, rfl, hcolumn, hread, hleft⟩ := Line.findFirst?_eq_some hfound
  refine ⟨rfl, hcolumn ▸ head_eq_some_iff_isHeadAt.mp hread, ?_⟩
  intro column hlt hhead
  have hpassed : column < passed.length := by rwa [← hcolumn]
  -- At an earlier column the search passed the line, and took nothing.
  have hbehind : passed.drop column ≠ [] := by
    rw [Ne, List.drop_eq_nil_iff]
    omega
  have hnone := hleft _ _ (List.take_append_drop column passed).symm hbehind
  have htaken : head (passed.take column).reverse (passed.drop column ++ rest) = some () := by
    rw [head_eq_some_iff_isHeadAt, ← List.append_assoc, List.take_append_drop,
      List.length_take_of_le (Nat.le_of_lt hpassed)]
    exact hhead
  rw [htaken] at hnone
  cases hnone

end Match

/-- Some lines from the one at `index` on, and not it alone, have as many opening braces as closing
ones. -/
def Document.ClosesAfter (document : Document) (index : Nat) : Prop :=
  ∃ last, index < last ∧ last < document.lines.length ∧
    (((document.lines.take (last + 1)).drop index).map fun line =>
      (line.count '{' : Int) - line.count '}').sum = 0

variable {document : Document} {before after : List Line} {line : Line}

/-- A block is closed by later lines exactly when there is a line at which it can be. -/
theorem closesAfter_iff {index : Nat} :
    document.ClosesAfter index ↔ ∃ last, document.ClosesAt .braces index last := by
  simp only [Document.ClosesAfter, Document.ClosesAt, Document.netBetween, Delimiters.total,
    Document.lineCount, funext Delimiters.net_braces]

/-- No lines close a block exactly when the search for the line that does finds none. -/
theorem not_closesAfter_iff (hlines : document.lines = before ++ line :: after) :
    ¬ document.ClosesAfter before.length ↔
      Delimiters.braces.closeFrom (Delimiters.braces.net line) 0 after = none := by
  have hline : document.lines[before.length]? = some line := by simp [hlines]
  rw [closesAfter_iff, not_exists, ← Document.blockClose_eq_none_iff hline,
    Document.blockClose_of_append hlines, Except.ok.injEq]
  exact Delimiters.closeFrom_eq_none_congr rfl

/-- The rule for match blocks reports the leftmost head of a line where its block is left open. -/
theorem run_unclosedMatch_eq (hlines : document.lines = before ++ line :: after) :
    LineRule.unclosedMatch.run line before.length document =
      .ok ((Match.openBefore? line after).toList.map fun span =>
        Spec.unclosedMatch.at (.onLine before.length span)) := by
  have hfindings : LineRule.unclosedMatch.findings line before.length document =
      ((Match.openBefore? line after).toList.map fun span => ⟨span.columns, none⟩).map .ok := by
    rw [LineRule.findings, LineRule.openMatch_eq hlines, List.map_map]
    rfl
  rw [LineRule.run_of_findings hfindings, List.map_map]
  congr 1
  exact List.map_congr_left fun span _ => Finding.on_columns span none _ _

/-- The rule for match blocks reports nothing on a line in which no match expression begins, and nothing
if some lines from it on are balanced. Otherwise it reports the keyword of the first match expression
that begins in the line, and nothing else. -/
theorem run_unclosedMatch {index : Nat} (hline : document.lines[index]? = some line) :
    ((∀ column, ¬ Match.IsHeadAt line column) ∨ document.ClosesAfter index →
      LineRule.unclosedMatch.run line index document = .ok []) ∧
    ((∃ column, Match.IsHeadAt line column) → ¬ document.ClosesAfter index →
      ∃ column range, Match.IsHeadAt line column ∧
        (∀ earlier < column, ¬ Match.IsHeadAt line earlier) ∧
        range.start = ⟨index, column⟩ ∧ range.stop = ⟨index, column + 5⟩ ∧
        LineRule.unclosedMatch.run line index document = .ok [Spec.unclosedMatch.at range]) := by
  obtain ⟨before, after, hlines, rfl⟩ :
      ∃ before after, document.lines = before ++ line :: after ∧ before.length = index := by
    obtain ⟨hlt, rfl⟩ := List.getElem?_eq_some_iff.mp hline
    refine ⟨document.lines.take index, document.lines.drop (index + 1), ?_, ?_⟩
    · rw [List.getElem_cons_drop, List.take_append_drop]
    · exact List.length_take_of_le (Nat.le_of_lt hlt)
  rw [run_unclosedMatch_eq hlines]
  constructor
  · intro hquiet
    -- An open block would have a head, and no balanced lines from there on.
    have hnone : Match.openBefore? line after = none := by
      rw [Option.eq_none_iff_forall_ne_some]
      intro span hopen
      obtain ⟨hclose, hhead⟩ := Match.openBefore?_eq_some_iff.mp hopen
      obtain hno | hcloses := hquiet
      · exact hno _ (Match.head?_eq_some hhead).2.1
      · exact (not_closesAfter_iff hlines).mpr hclose hcloses
    rw [hnone]
    rfl
  · rintro ⟨column, hcolumn⟩ hopen
    -- The search finds a head since there is one, though it may be one further left.
    obtain ⟨span, hhead⟩ : ∃ span, Match.head? line = some span := by
      rw [← Option.ne_none_iff_exists']
      exact fun hnone => Match.head?_eq_none_iff.mp hnone column hcolumn
    obtain ⟨hlength, hfirst, hleast⟩ := Match.head?_eq_some hhead
    have hfound : Match.openBefore? line after = some span :=
      Match.openBefore?_eq_some_iff.mpr ⟨(not_closesAfter_iff hlines).mp hopen, hhead⟩
    refine ⟨span.column, .onLine before.length span, hfirst, hleast, rfl, ?_, ?_⟩
    · show Position.mk before.length (span.column + span.length) = _
      rw [hlength]
    · rw [hfound]
      rfl

/-- The block of the first line is closed by the second, on which a member and a call stand before a
match expression whose block is never closed. -/
theorem run_unclosedMatch_third_keyword :
    let first := "match a \x7b".toList
    let second := "\x7d\x7d x.match match (b) match c \x7b".toList
    let document := Document.ofText "match a \x7b\n\x7d\x7d x.match match (b) match c \x7b\n\x7d"
    document.ClosesAfter 0 ∧ LineRule.unclosedMatch.run first 0 document = .ok [] ∧
      Match.IsHeadAt second 21 ∧ ¬ document.ClosesAfter 1 ∧
      ∃ column range, Match.IsHeadAt second column ∧
        (∀ earlier < column, ¬ Match.IsHeadAt second earlier) ∧
        range.start = ⟨1, column⟩ ∧ range.stop = ⟨1, column + 5⟩ ∧
        LineRule.unclosedMatch.run second 1 document = .ok [Spec.unclosedMatch.at range] := by
  intro first second document
  have hfirst : document.lines[0]? = some first := rfl
  have hsecond : document.lines[1]? = some second := rfl
  have hcloses : document.ClosesAfter 0 := ⟨1, by decide, by decide, rfl⟩
  have hhead : Match.IsHeadAt second 21 :=
    @Match.head_eq_some_iff_isHeadAt (second.take 21) (second.drop 21) |>.mp rfl
  have hlines : document.lines = [first] ++ second :: ["\x7d".toList] := rfl
  have hopen : ¬ document.ClosesAfter 1 := (not_closesAfter_iff hlines).mpr rfl
  exact ⟨hcloses, (run_unclosedMatch hfirst).1 (Or.inr hcloses), hhead, hopen,
    (run_unclosedMatch hsecond).2 ⟨21, hhead⟩ hopen⟩

end ScriptLint
