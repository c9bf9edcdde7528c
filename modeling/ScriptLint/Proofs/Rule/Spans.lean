import ScriptLint.Proofs.Text.LineEnd
import ScriptLint.Rule.OnLine

/-!
# What line rules mark

Every rule computes its columns in its own way: from where a reader took something, from the length
of a trimmed line, or from the whole line. `LineRule.Marks` says, without columns, what is to be marked
for each kind of finding, and `findings_marks` that whatever a rule finds covers such a part of the
line. In particular the columns are those of a span of the line that is not empty (`findings_within`,
`columns_span`), so that they are never refused.

The rules that search with a reader need only what the reader spells, which is shown first for each
reader. The others are about the edges of a line, and split off the blanks that trimming takes away.
-/

namespace ScriptLint

/-! ## Readers -/

/-- A bar that is no operator is read with the character after it. -/
theorem Pipeline.loneBar_spells :
    Reader.Spells (fun _ => 2) (fun _ taken => ∃ c, c ≠ '>' ∧ taken = ['|', c])
      Pipeline.loneBar := by
  intro before after found h
  unfold Pipeline.loneBar at h
  split at h
  · next c rest =>
    split at h
    · cases h
    · next hc => exact ⟨['|', c], rest, rfl, List.cons_ne_nil _ _, rfl, c, hc, rfl⟩
  · cases h

/-- The head of a match expression is read by its keyword. -/
theorem Match.head_spells :
    Reader.Spells (fun _ => Match.word.length) (fun _ taken => taken = Match.word) Match.head := by
  apply Reader.spells_of_prefix (List.cons_ne_nil _ _)
  intro before after found h
  simp only [Match.head] at h
  split at h
  · next hc =>
    simp only [Bool.and_eq_true] at hc
    exact List.isPrefixOf_iff_prefix.mp hc.1.1.1.2
  · cases h

/-- A `with` expression is read by its keyword. -/
theorem Clause.withBlock_spells :
    Reader.Spells (fun _ => Clause.withWord.length) (fun _ taken => taken = Clause.withWord)
      Clause.withBlock := by
  apply Reader.spells_of_prefix (List.cons_ne_nil _ _)
  intro before after found h
  unfold Clause.withBlock at h
  split at h
  · next hc =>
    simp only [Bool.and_eq_true] at hc
    exact List.isPrefixOf_iff_prefix.mp hc.1.2
  · cases h

/-- A declaration is the keyword, a gap and a name that is not empty, and the name is at its offset. -/
theorem Form.declaration_eq_some {form : Form} {before after : List Char} {found : Declared}
    (h : form.declaration before after = some found) :
    ∃ gap rest, after = form.keyword ++ gap ++ (found.name ++ rest) ∧
      found.offset = (form.keyword ++ gap).length ∧ found.name ≠ [] ∧
      found.name.all form.isNamePart = true := by
  simp only [Form.declaration] at h
  split at h
  · next hkeyword =>
    simp only [Bool.and_eq_true] at hkeyword
    obtain ⟨rest, rfl⟩ := List.isPrefixOf_iff_prefix.mp hkeyword.2
    rw [List.drop_left] at h
    split at h
    · cases h
    · next hname =>
      cases h
      simp only [Bool.or_eq_true, not_or, List.isEmpty_iff] at hname
      refine ⟨rest.takeWhile isSpace, (rest.dropWhile isSpace).dropWhile form.isNamePart, ?_, ?_,
        hname.1.2, List.all_takeWhile⟩
      · rw [List.takeWhile_append_dropWhile, List.append_assoc, List.takeWhile_append_dropWhile]
      · rw [List.length_append]
  · cases h

/-- A block is read with its two braces. Between them it has a semicolon, only words, white space and
semicolons, and neither a getter nor a setter. -/
theorem Property.emptyBlock_spells :
    Reader.Spells (fun body => body.length + 2)
      (fun body taken => taken = '{' :: (body ++ ['}']) ∧ body.all Property.isBlockChar = true ∧
        ';' ∈ body ∧ Property.hasAccessor body = false)
      Property.emptyBlock := by
  intro before after found h
  unfold Property.emptyBlock at h
  split at h
  · next rest =>
    dsimp only at h
    split at h
    · next hc =>
      cases h
      simp only [Bool.and_eq_true, beq_iff_eq, Bool.not_eq_true', List.contains_iff_mem] at hc
      obtain ⟨⟨⟨hclose, hsemicolon⟩, -⟩, haccessor⟩ := hc
      -- The closing brace stands behind the inside.
      obtain ⟨tail, htail⟩ := List.head?_eq_some_iff.mp hclose
      refine ⟨_, tail, ?_, List.cons_ne_nil _ _, ?_, rfl, List.all_takeWhile, hsemicolon, haccessor⟩
      · rw [List.cons_append, List.append_assoc, List.singleton_append, ← htail,
          List.takeWhile_append_dropWhile]
      · simp only [List.length_cons, List.length_append, List.length_nil]
    · cases h
  · cases h

/-- The range as it is written: an open one has an underscore for its upper bound. -/
def RangeToken.text (token : RangeToken) : List Char :=
  token.lower ++ '.' :: '.' :: token.upper.getD ['_']

/-- The bounds of a range are numerals. -/
def RangeToken.HasNumerals (token : RangeToken) : Prop :=
  (token.lower ≠ [] ∧ token.lower.all isDigit = true) ∧
    ∀ upper, token.upper = some upper → upper ≠ [] ∧ upper.all isDigit = true

/-- An upper bound is a numeral or an underscore. -/
theorem RangeToken.readUpper_eq_some {before after : List Char} {upper : Option (List Char)}
    (h : RangeToken.readUpper before after = some upper) :
    (∃ rest, after = upper.getD ['_'] ++ rest) ∧
      ∀ digits, upper = some digits → digits ≠ [] ∧ digits.all isDigit = true := by
  unfold RangeToken.readUpper at h
  split at h
  · next digits htake =>
    cases h
    obtain ⟨word, rest, rfl, hne, hword, hdigits⟩ := Line.takeSome_eq_some htake
    rw [List.append_nil, List.reverse_reverse, Option.some.injEq] at hdigits
    subst hdigits
    refine ⟨⟨rest, rfl⟩, ?_⟩
    rintro digits ⟨⟩
    exact ⟨hne, List.all_eq_true.mpr hword⟩
  · obtain ⟨hhead, hupper⟩ := Option.ite_none_right_eq_some.mp h
    cases hupper
    obtain ⟨rest, rfl⟩ := List.head?_eq_some_iff.mp hhead
    refine ⟨⟨rest, rfl⟩, ?_⟩
    rintro digits ⟨⟩

/-- The columns of a token are those of its text. -/
theorem RangeToken.length_text (token : RangeToken) : token.text.length = token.width := by
  obtain ⟨lower, upper⟩ := token
  cases upper with
  | none => simp [text, width]
  | some upper =>
    simp only [text, width, Option.getD_some, List.length_append, List.length_cons]
    omega

/-- A range is read with both its bounds and the two dots, and its bounds are numerals. -/
theorem RangeToken.read_spells :
    Reader.Spells RangeToken.width (fun token taken => taken = token.text ∧ token.HasNumerals)
      RangeToken.read := by
  intro before after found h
  obtain ⟨lower, tail, rfl, hne, hlower, hread⟩ := Line.takeSome_eq_some h
  split at hread
  · next rest =>
    obtain ⟨upper, hupper, rfl⟩ := Option.map_eq_some_iff.mp hread
    obtain ⟨⟨rest, rfl⟩, hnumeral⟩ := RangeToken.readUpper_eq_some hupper
    rw [List.append_nil, List.reverse_reverse]
    refine ⟨_, rest, ?_, ?_, RangeToken.length_text _, rfl, ⟨hne, List.all_eq_true.mpr hlower⟩,
      hnumeral⟩
    · simp only [RangeToken.text, List.append_assoc, List.cons_append]
    · exact List.append_ne_nil_of_left_ne_nil hne _
  · cases hread

/-- A digit is a character of a word. -/
theorem isWordChar_of_isDigit {c : Char} (h : isDigit c = true) : isWordChar c = true := by
  rw [isWordChar, h, Bool.or_true, Bool.true_or]

/-- What is read as a digit-led word is a run of the characters of words, of which the first is a digit
and is not the only one. -/
theorem digitLedWord_eq_some {before text word : List Char}
    (h : digitLedWord before.reverse text = some word) :
    ∃ after, text = word ++ after ∧ Line.IsRun isWordChar before word after ∧ 2 ≤ word.length ∧
      ∃ c, word.head? = some c ∧ isDigit c = true := by
  obtain ⟨hstarts, h⟩ := Option.ite_none_right_eq_some.mp h
  obtain ⟨digits, tail, rfl, hdigits, hmembers, h⟩ := Line.takeSome_eq_some h
  obtain ⟨more, after, rfl, hmore, hwords, h⟩ := Line.takeSome_eq_some h
  obtain ⟨hends, hfound⟩ := Option.ite_none_right_eq_some.mp h
  have hword : word = digits ++ more := by
    rw [← Option.some.inj hfound]
    simp
  subst hword
  refine ⟨after, (List.append_assoc _ _ _).symm, ⟨?_, ?_, ?_, ?_⟩, ?_, ?_⟩
  · exact List.append_ne_nil_of_left_ne_nil hdigits _
  · intro c hc
    rcases List.mem_append.mp hc with hc | hc
    · exact isWordChar_of_isDigit (hmembers c hc)
    · exact hwords c hc
  · rw [Line.startsWord, Bool.not_eq_true'] at hstarts
    exact Line.any_head?_reverse_eq_false_iff.mp hstarts
  · intro c hc
    rw [Line.endsWord, hc, Bool.not_eq_true'] at hends
    exact hends
  · have hfirst := List.length_pos_iff.mpr hdigits
    have hsecond := List.length_pos_iff.mpr hmore
    rw [List.length_append]
    omega
  · obtain ⟨c, digits, rfl⟩ := List.exists_cons_of_ne_nil hdigits
    exact ⟨c, rfl, hmembers c List.mem_cons_self⟩

/-- Something is read where such a run begins: its first digit and the rest of it can be. -/
theorem digitLedWord_ne_none {before more after : List Char} {c : Char}
    (hrun : Line.IsRun isWordChar before (c :: more) after) (hc : isDigit c = true)
    (hmore : more ≠ []) : digitLedWord before.reverse (c :: more ++ after) ≠ none := by
  intro hnone
  have hstarts : Line.startsWord before.reverse = true := by
    rw [Line.startsWord, Line.any_head?_reverse_eq_false_iff.mpr hrun.begins, Bool.not_false]
  have hends : Line.endsWord after = true := by
    rw [Line.endsWord, Bool.not_eq_true', Option.any_eq_false]
    simpa using hrun.ends
  rw [digitLedWord, if_pos hstarts, Line.takeSome_eq_none_iff] at hnone
  have hrest := hnone [c] (more ++ after) rfl (List.cons_ne_nil _ _) (by simpa using hc)
  rw [Line.takeSome_eq_none_iff] at hrest
  have hread := hrest more after rfl hmore fun d hd => hrun.members d (List.mem_cons_of_mem _ hd)
  rw [if_pos hends] at hread
  cases hread

/-- A digit-led word is read where it is a whole word. -/
theorem digitLedWord_eq_some_iff {before text word : List Char} :
    digitLedWord before.reverse text = some word ↔
      ∃ after, text = word ++ after ∧ Line.IsRun isWordChar before word after ∧ 2 ≤ word.length ∧
        ∃ c, word.head? = some c ∧ isDigit c = true := by
  refine ⟨digitLedWord_eq_some, ?_⟩
  rintro ⟨after, rfl, hrun, hlong, c, hhead, hc⟩
  obtain ⟨more, rfl⟩ := List.head?_eq_some_iff.mp hhead
  have hmore : more ≠ [] := by
    rintro rfl
    exact absurd hlong (Nat.not_succ_le_self 1)
  -- What is read is a run that begins here, and there is only one.
  obtain ⟨found, hfound⟩ := Option.ne_none_iff_exists'.mp (digitLedWord_ne_none hrun hc hmore)
  obtain ⟨tail, htext, hother, -⟩ := digitLedWord_eq_some hfound
  have hsame := Line.run_eq_some_iff.mpr ⟨after, rfl, hrun⟩
  rw [Line.run_eq_some_iff.mpr ⟨tail, htext, hother⟩] at hsame
  rw [hfound, hsame]

/-! ## What a reader finds -/

/-- A bar that is no operator is marked with the character after it. -/
theorem Pipeline.loneBars_covers {line : Line} {span : Span} (h : span ∈ Pipeline.loneBars line) :
    ∃ c, c ≠ '>' ∧ span.Covers line ['|', c] := by
  obtain ⟨found, hfound, rfl⟩ := List.mem_map.mp h
  obtain ⟨taken, hcovers, c, hc, rfl⟩ := Pipeline.loneBar_spells.findAll_covers hfound
  exact ⟨c, hc, hcovers⟩

/-- Of a match head the keyword is marked. -/
theorem Match.head?_covers {line : Line} {span : Span} (h : Match.head? line = some span) :
    span.Covers line Match.word := by
  obtain ⟨found, hfound, rfl⟩ := Option.map_eq_some_iff.mp h
  obtain ⟨taken, hcovers, rfl⟩ := Match.head_spells.findFirst?_covers hfound
  exact hcovers

/-- Of a declaration the name is marked. -/
theorem Form.declared?_covers {form : Form} {line : Line} {span : Span} {name : List Char}
    (h : form.declared? line = some (span, name)) :
    span.Covers line name ∧ name.all form.isNamePart = true := by
  obtain ⟨found, hfound, hspan⟩ := Option.map_eq_some_iff.mp h
  cases hspan
  -- The span begins with the name and not with the keyword, at which the reader took it.
  obtain ⟨passed, after, rfl, hcolumn, hread, -⟩ := Line.findFirst?_eq_some hfound
  obtain ⟨gap, rest, rfl, hoffset, hne, hname⟩ := Form.declaration_eq_some hread
  refine ⟨⟨hne, passed ++ (form.keyword ++ gap), rest, ?_, ?_⟩, hname⟩
  · simp only [List.append_assoc]
  · rw [hcolumn, hoffset, ← List.length_append]

/-- Of a query without its select clause the keyword is marked. -/
theorem Clause.unselected?_covers {line : Line} {span : Span}
    (h : Clause.unselected? line = some span) : span.Covers line Form.query.keyword := by
  unfold Clause.unselected? at h
  split at h
  · next column u hfound =>
    split at h
    · cases h
    · cases h
      obtain ⟨taken, hcovers, rfl⟩ :=
        (Line.keyword_spells (List.cons_ne_nil _ _)).findFirst?_covers hfound
      exact hcovers
  · cases h

/-- Of a `with` expression the keyword is marked. -/
theorem Clause.unusedWith?_covers {line : Line} {span : Span}
    (h : Clause.unusedWith? line = some span) : span.Covers line Clause.withWord := by
  unfold Clause.unusedWith? at h
  split at h
  · next column u hfound =>
    split at h
    · cases h
    · cases h
      obtain ⟨taken, hcovers, rfl⟩ := Clause.withBlock_spells.findFirst?_covers hfound
      exact hcovers
  · cases h

/-- A digit-led word is marked whole. -/
theorem digitLedWords_covers {line : Line} {span : Span} (h : span ∈ digitLedWords line) :
    ∃ word, span.Covers line word ∧ word.all isWordChar = true ∧ 2 ≤ word.length ∧
      ∃ c rest, word = c :: rest ∧ isDigit c = true := by
  obtain ⟨⟨column, word⟩, hfound, rfl⟩ := List.mem_map.mp h
  obtain ⟨passed, text, rfl, rfl, hread⟩ := Line.mem_findAll hfound
  obtain ⟨after, rfl, hrun, hlong, c, hhead, hdigit⟩ := digitLedWord_eq_some_iff.mp hread
  obtain ⟨rest, hword⟩ := List.head?_eq_some_iff.mp hhead
  refine ⟨word, ⟨hrun.nonempty, passed, after, (List.append_assoc _ _ _).symm, rfl⟩, ?_, hlong, c,
    rest, hword, hdigit⟩
  exact List.all_eq_true.mpr hrun.members

/-- A block of accessors is marked from brace to brace. -/
theorem Property.emptyBlocks_covers {line : Line} {span : Span}
    (h : span ∈ Property.emptyBlocks line) :
    ∃ body, span.Covers line ('{' :: (body ++ ['}'])) ∧ body.all Property.isBlockChar = true ∧
      ';' ∈ body ∧ Property.hasAccessor body = false := by
  obtain ⟨found, hfound, rfl⟩ := List.mem_map.mp h
  obtain ⟨taken, hcovers, rfl, hbody⟩ := Property.emptyBlock_spells.findAll_covers hfound
  exact ⟨found.2, hcovers, hbody⟩

/-! ## The edges of a line -/

/-- The pipeline operator is compact. -/
theorem Pipeline.isCompact_operator : Line.IsCompact '|' ['>'] := by
  refine ⟨by decide, ?_, by decide⟩
  rintro d ⟨⟩
  decide

/-- A semicolon is compact. -/
theorem Layout.isCompact_semicolon : Line.IsCompact ';' [] := by
  refine ⟨by decide, ?_, by decide⟩
  rintro d ⟨⟩
  decide

/-- An operator dangles where a line ends in it. -/
theorem Pipeline.dangling?_eq_some_iff {line : Line} {columns : Columns} :
    Pipeline.dangling? line = some columns ↔ ∃ column : Nat,
      Line.EndsAt ['|', '>'] Line.IsBlank line column ∧ columns = ⟨column, line.length⟩ :=
  Pipeline.isCompact_operator.ite_lastColumn_eq_some_iff

/-- A semicolon is redundant where a line with a colon ends in it. -/
theorem Layout.redundantSemicolon?_eq_some_iff {line : Line} {columns : Columns} :
    Layout.redundantSemicolon? line = some columns ↔ ∃ column : Nat,
      (':' ∈ line ∧ Line.EndsAt [';'] Line.IsBlank line column) ∧
        columns = ⟨column, line.length⟩ := by
  simp only [and_assoc, exists_and_left]
  rw [← Layout.isCompact_semicolon.ite_lastColumn_eq_some_iff, Layout.redundantSemicolon?,
    Option.ite_none_right_eq_some, Option.ite_none_right_eq_some, Bool.and_eq_true,
    List.contains_iff_mem, and_assoc]

/-- Blanks with at most one semicolon among them. -/
def Layout.IsLoose (text : List Char) : Prop :=
  ∃ blanks, blanks.all isBlank = true ∧
    (text = blanks ∨ ∃ more, more.all isBlank = true ∧ text = blanks ++ ';' :: more)

/-- A line is what is left of it without a semicolon at its end, and what was taken off. -/
theorem Layout.exists_isLoose_dropSemicolon (line : Line) :
    ∃ loose, Layout.IsLoose loose ∧ line = Layout.dropSemicolon line ++ loose := by
  obtain ⟨more, hmore, hline⟩ := Line.exists_blanks_trimEnd line
  simp only [Layout.dropSemicolon]
  split
  · next hlast =>
    -- The semicolon stands between the blanks before it, trimmed second, and those after it.
    obtain ⟨kept, hkept⟩ := List.getLast?_eq_some_iff.mp hlast
    obtain ⟨blanks, hblanks, hsplit⟩ := Line.exists_blanks_trimEnd kept
    refine ⟨blanks ++ ';' :: more, ⟨blanks, hblanks, Or.inr ⟨more, hmore, rfl⟩⟩, ?_⟩
    calc line = kept ++ [';'] ++ more := by rw [← hkept]; exact hline
      _ = Line.trimEnd kept ++ blanks ++ [';'] ++ more := by rw [← hsplit]
      _ = Line.trimEnd (Line.trimEnd line).dropLast ++ (blanks ++ ';' :: more) := by
        rw [hkept, List.dropLast_concat]
        simp only [List.append_assoc, List.singleton_append]
  · exact ⟨more, ⟨more, hmore, Or.inl rfl⟩, hline⟩

/-- An arrow keeps its place if only white space and a semicolon are behind it. -/
theorem Layout.dropSemicolon_append (before loose : List Char) (h : IsLoose loose) :
    dropSemicolon (before ++ (Match.arrow ++ loose)) = before ++ Match.arrow := by
  obtain ⟨blanks, hblanks, hloose⟩ := h
  have harrow : ∀ c, (before ++ Match.arrow).getLast? = some c → c = '>' := by
    intro c hc
    rw [List.getLast?_append] at hc
    cases hc
    rfl
  have hend : ∀ c, (before ++ Match.arrow).getLast? = some c → isBlank c = false := by
    intro c hc
    rw [harrow c hc]
    decide
  unfold dropSemicolon
  dsimp only
  obtain rfl | ⟨more, hmore, rfl⟩ := hloose
  · -- The white space is taken off, and then there is no semicolon.
    have hkept : Line.trimEnd (before ++ (Match.arrow ++ loose)) = before ++ Match.arrow := by
      rw [← List.append_assoc]
      exact Line.trimEnd_append hblanks hend
    rw [hkept, if_neg]
    intro hsemicolon
    exact absurd (harrow _ hsemicolon) (by decide)
  · -- White space is taken off on both sides of the semicolon.
    have hline : before ++ (Match.arrow ++ (blanks ++ ';' :: more)) =
        before ++ Match.arrow ++ blanks ++ [';'] ++ more := by
      simp only [List.append_assoc, List.singleton_append]
    have hkept : Line.trimEnd (before ++ (Match.arrow ++ (blanks ++ ';' :: more))) =
        before ++ Match.arrow ++ blanks ++ [';'] := by
      rw [hline]
      refine Line.trimEnd_append hmore fun c hc => ?_
      rw [List.getLast?_concat, Option.some.injEq] at hc
      subst hc
      decide
    rw [hkept, if_pos List.getLast?_concat, List.dropLast_concat]
    exact Line.trimEnd_append hblanks hend

/-- An arrow has no body where a line ends in it, blanks and a semicolon apart. -/
theorem Layout.bodilessArrow?_eq_some_iff {line : Line} {columns : Columns} :
    Layout.bodilessArrow? line = some columns ↔ ∃ column : Nat,
      Line.EndsAt ['=', '>'] Layout.IsLoose line column ∧ columns = ⟨column, line.length⟩ := by
  rw [Layout.bodilessArrow?, Option.ite_none_right_eq_some, List.isSuffixOf_iff_suffix,
    ← Line.exists_endsAt_iff Layout.dropSemicolon_append Layout.exists_isLoose_dropSemicolon]
  -- The arrow ends what is kept, and two columns are its own.
  have hcolumn : ∀ {column}, Line.EndsAt Match.arrow Layout.IsLoose line column →
      ((Layout.dropSemicolon line).length : Int) - 2 = column := by
    intro column hends
    rw [hends.length_keep Layout.dropSemicolon_append, Int.natCast_add]
    exact Int.add_sub_cancel _ 2
  constructor
  · rintro ⟨⟨column, hends⟩, hcolumns⟩
    rw [hcolumn hends] at hcolumns
    exact ⟨column, hends, (Option.some.inj hcolumns).symm⟩
  · rintro ⟨column, hends, rfl⟩
    exact ⟨⟨column, hends⟩, by rw [hcolumn hends]⟩

/-- A line that changes from one character to another begins with some of the first and then one of
the second. -/
theorem Layout.changesFrom_eq_true {first second : Char} {line : Line}
    (h : Layout.changesFrom first second line = true) :
    ∃ n rest, line = List.replicate (n + 1) first ++ second :: rest := by
  simp only [Layout.changesFrom, Bool.and_eq_true, beq_iff_eq] at h
  obtain ⟨hfirst, hsecond⟩ := h
  obtain ⟨tail, rfl⟩ := List.head?_eq_some_iff.mp hfirst
  obtain ⟨rest, hrest⟩ := List.head?_eq_some_iff.mp hsecond
  rw [List.dropWhile_cons_of_pos (p := (· == first)) (beq_self_eq_true first)] at hrest
  refine ⟨(tail.takeWhile (· == first)).length, rest, ?_⟩
  have hrun : tail.takeWhile (· == first) =
      List.replicate (tail.takeWhile (· == first)).length first := by
    rw [List.eq_replicate_iff]
    refine ⟨rfl, fun c hc => ?_⟩
    exact beq_iff_eq.mp (List.all_eq_true.mp List.all_takeWhile c hc)
  rw [List.replicate_succ, ← hrun, ← hrest, List.cons_append, List.takeWhile_append_dropWhile]

/-- Of a class to which two characters belong, all is taken that begins with a run of the one and then
the other. -/
theorem Layout.takeWhile_replicate_cons {p : Char → Bool} {first second : Char}
    (hfirst : p first = true) (hsecond : p second = true) (n : Nat) (rest : List Char) :
    (List.replicate n first ++ second :: rest).takeWhile p =
      List.replicate n first ++ second :: rest.takeWhile p := by
  rw [List.takeWhile_append_of_pos, List.takeWhile_cons_of_pos hsecond]
  intro c hc
  rw [List.eq_of_mem_replicate hc]
  exact hfirst

/-- What trimming the start of a line takes off are the blanks in front. -/
theorem Layout.length_sub_length_trimStart (line : Line) :
    (line.length : Int) - (Line.trimStart line).length = (line.takeWhile isBlank).length := by
  have hlength := congrArg List.length (List.takeWhile_append_dropWhile (p := isBlank) (l := line))
  rw [List.length_append] at hlength
  rw [Line.trimStart]
  omega

/-- A mixed indentation is marked whole: it is made of blanks, tabs first and then a space or the
other way round. -/
theorem Layout.mixedIndent?_covers {line : Line} {columns : Columns}
    (h : Layout.mixedIndent? line = some columns) :
    ∃ indent, columns.Covers line indent ∧ indent.all isBlank = true ∧
      ∃ n rest, indent = List.replicate (n + 1) '\t' ++ ' ' :: rest ∨
        indent = List.replicate (n + 1) ' ' ++ '\t' :: rest := by
  unfold Layout.mixedIndent? at h
  split at h
  · next hchange =>
    cases h
    have hindent : ∃ n rest, line.takeWhile isBlank = List.replicate (n + 1) '\t' ++ ' ' :: rest ∨
        line.takeWhile isBlank = List.replicate (n + 1) ' ' ++ '\t' :: rest := by
      rw [Bool.or_eq_true] at hchange
      rcases hchange with hchange | hchange
      · obtain ⟨n, rest, rfl⟩ := Layout.changesFrom_eq_true hchange
        exact ⟨n, _, Or.inl (Layout.takeWhile_replicate_cons (by decide) (by decide) _ _)⟩
      · obtain ⟨n, rest, rfl⟩ := Layout.changesFrom_eq_true hchange
        exact ⟨n, _, Or.inr (Layout.takeWhile_replicate_cons (by decide) (by decide) _ _)⟩
    refine ⟨line.takeWhile isBlank, ⟨⟨0, (line.takeWhile isBlank).length⟩, ?_, ?_, [],
      line.dropWhile isBlank, ?_, rfl⟩, List.all_takeWhile, hindent⟩
    · rw [Layout.length_sub_length_trimStart, Span.columns, Span.stop, Nat.zero_add]
      rfl
    · obtain ⟨n, rest, hrest | hrest⟩ := hindent
      · simp [hrest]
      · simp [hrest]
    · rw [List.nil_append, List.takeWhile_append_dropWhile]
  · cases h

/-- A line starts with an arrow exactly when only white space is in front of one. -/
theorem Match.startsWithArrow_iff {line : Line} : Match.startsWithArrow line = true ↔
    ∃ blanks rest, line = blanks ++ (['=', '>'] ++ rest) ∧ Line.IsBlank blanks := by
  rw [Match.startsWithArrow, Bool.and_eq_true, decide_eq_true_eq, List.isEmpty_iff,
    Line.trim_eq_nil_iff]
  constructor
  · rintro ⟨hfound, hblank⟩
    obtain ⟨column, hcolumn⟩ := Int.eq_ofNat_of_zero_le hfound
    obtain ⟨⟨before, rest, rfl, rfl⟩, -⟩ :=
      (Line.firstColumn_eq_iff (List.cons_ne_nil _ _)).mp hcolumn
    rw [hcolumn, Int.toNat_natCast, List.take_left] at hblank
    exact ⟨before, rest, rfl, hblank⟩
  · rintro ⟨blanks, rest, rfl, hblanks⟩
    -- There is no sign within the white space, so that the arrow behind it is the first.
    have hfirst : ∀ earlier < blanks.length,
        ¬ Line.StandsAt Match.arrow (blanks ++ (['=', '>'] ++ rest)) earlier := by
      rintro earlier hlt ⟨before, after, hline, rfl⟩
      obtain ⟨more, rfl, hmore⟩ | ⟨more, rfl, -⟩ := List.append_eq_append_iff.mp hline.symm
      · cases more with
        | nil => simp at hlt
        | cons c more =>
          obtain ⟨rfl, -⟩ := List.cons.inj hmore
          have hsign : '=' ∉ before ++ '=' :: more := hblanks.not_mem (by decide)
          simp at hsign
      · rw [List.length_append] at hlt
        omega
    have hcolumn : Line.firstColumn Match.arrow (blanks ++ (['=', '>'] ++ rest)) = blanks.length :=
      (Line.firstColumn_eq_iff (List.cons_ne_nil _ _)).mpr ⟨⟨blanks, rest, rfl, rfl⟩, hfirst⟩
    rw [hcolumn, Int.toNat_natCast, List.take_left]
    exact ⟨Int.natCast_nonneg _, hblanks⟩

/-- The kind of quote that a character is has that character. -/
theorem Quote.toChar_of_ofChar? {c : Char} {quote : Quote} (h : Quote.ofChar? c = some quote) :
    c = quote.toChar := by
  unfold Quote.ofChar? at h
  split at h
  · next hc => cases h; exact hc
  · split at h
    · next hc => cases h; exact hc
    · split at h
      · next hc => cases h; exact hc
      · cases h

/-- A quote that is open after a text was open before it or stands in it. -/
theorem Quote.mem_of_openAfter {opened : Option Quote} {text : List Char} {quote : Quote}
    (h : Quote.openAfter opened text = some quote) : opened = some quote ∨ quote.toChar ∈ text := by
  fun_induction Quote.openAfter opened text with
  | case1 opened => exact Or.inl h
  | case2 opened => exact Or.inl h
  | case3 opened c rest ih =>
    refine (ih h).imp_right fun hmem => ?_
    exact List.mem_cons_of_mem _ (List.mem_cons_of_mem _ hmem)
  | case4 c rest _ _ ih =>
    -- The character opened the literal, or the quote stands behind it.
    refine Or.inr ?_
    obtain hopened | hmem := ih h
    · rw [← Quote.toChar_of_ofChar? hopened]
      exact List.mem_cons_self
    · exact List.mem_cons_of_mem _ hmem
  | case5 c rest _ _ q ih =>
    obtain hopened | hmem := ih h
    · split at hopened
      · cases hopened
      · exact Or.inl hopened
    · exact Or.inr (List.mem_cons_of_mem _ hmem)

/-- A line that leaves a literal open has the quote that opens it. -/
theorem Quote.mem_of_unclosed? {line : Line} {quote : Quote}
    (h : Quote.unclosed? line = some quote) : quote.toChar ∈ line :=
  (Quote.mem_of_openAfter h).resolve_left (by simp)

/-! ## Every rule -/

namespace LineRule

/-- What a rule marks in a line, under the message of the finding. -/
def Marks (rule : LineRule) (line : Line) (message : String) (marked : Line) : Prop :=
  match rule with
  | .loneBar => ∃ c, c ≠ '>' ∧ marked = ['|', c]
  | .danglingPipe => ∃ blanks, blanks.all isBlank = true ∧ marked = '|' :: '>' :: blanks
  | .unclosedMatch => marked = "match".toList
  | .armWithoutPattern =>
    marked = line ∧ ∃ blanks rest, blanks.all isBlank = true ∧ line = blanks ++ '=' :: '>' :: rest
  | .queryVariable | .functionName =>
    marked.all isWordChar = true ∧ ∃ c rest, marked = c :: rest ∧ isDigit c = true
  | .queryWithoutSelect => marked = "from".toList
  | .operatorOverload =>
    marked ≠ [] ∧ marked.all Form.isOperatorSymbol = true ∧
      String.ofList marked ∉ overloadable ∧
      message = "Invalid operator \"" ++ String.ofList marked ++
        "\" for overloading. Valid operators: " ++
        "+, -, *, /, %, ==, !=, <, >, <=, >=, &&, ||, &, |, ^, ~, <<, >>, +=, -=, *=, /=, %="
  | .arrowWithoutBody =>
    ∃ blanks, blanks.all isBlank = true ∧ (marked = '=' :: '>' :: blanks ∨
      ∃ more, more.all isBlank = true ∧ marked = '=' :: '>' :: (blanks ++ ';' :: more))
  | .mixedIndentation =>
    marked.all isBlank = true ∧ ∃ n rest,
      marked = List.replicate (n + 1) '\t' ++ ' ' :: rest ∨
        marked = List.replicate (n + 1) ' ' ++ '\t' :: rest
  | .unclosedString => marked = line ∧ ∃ quote : Quote, quote.toChar ∈ line
  | .leadingDigit =>
    marked.all isWordChar = true ∧ 2 ≤ marked.length ∧
      ∃ c rest, marked = c :: rest ∧ isDigit c = true
  | .redundantSemicolon => ∃ blanks, blanks.all isBlank = true ∧ marked = ';' :: blanks
  | .structName => marked.all isWordChar = true ∧ ∃ c rest, marked = c :: rest ∧ isUpper c = false
  | .emptyProperty =>
    ∃ body, marked = '{' :: (body ++ ['}']) ∧ body.all Property.isBlockChar = true ∧
      ';' ∈ body ∧ Property.hasAccessor body = false
  | .backwardRange =>
    ∃ lower upper, marked = lower ++ '.' :: '.' :: upper ∧
      (lower ≠ [] ∧ lower.all isDigit = true) ∧ (upper ≠ [] ∧ upper.all isDigit = true) ∧
      Numeral.ofDigits upper ≤ Numeral.ofDigits lower
  | .withContext => marked = "with".toList

variable {line : Line} {finding : Finding}

/-- The columns of a finding that is certain were found. -/
theorem ok_mem_certain {found : List Columns} (h : .ok finding ∈ certain found) :
    finding.columns ∈ found := by
  obtain ⟨columns, hcolumns, heq⟩ := List.mem_map.mp h
  cases heq
  exact hcolumns

/-- The only finding of a search that is certain is what it found. -/
theorem ok_mem_certain_toList {found : Option Columns} (h : .ok finding ∈ certain found.toList) :
    found = some finding.columns :=
  Option.mem_toList.mp (ok_mem_certain h)

/-- The columns of a finding among spans are those of one of the spans. -/
theorem ok_mem_spans {found : List Span} (h : .ok finding ∈ spans found) :
    ∃ span ∈ found, span.columns = finding.columns :=
  List.mem_map.mp (ok_mem_certain h)

/-- The only finding of a search for a span is what it found. -/
theorem ok_mem_spans_toList {found : Option Span} (h : .ok finding ∈ spans found.toList) :
    ∃ span, found = some span ∧ span.columns = finding.columns := by
  obtain ⟨span, hspan, hcolumns⟩ := ok_mem_spans h
  exact ⟨span, Option.mem_toList.mp hspan, hcolumns⟩

/-- Of a declaration whose name is not acceptable the name is marked. -/
theorem badName?_covers {form : Form} {acceptable : List Char → Bool} {span : Span}
    (h : badName? form acceptable line = some span) :
    ∃ name, span.Covers line name ∧ name.all form.isNamePart = true ∧ acceptable name = false := by
  unfold badName? at h
  split at h
  · next found name hdeclared =>
    split at h
    · cases h
    · next hname =>
      cases h
      obtain ⟨hcovers, hparts⟩ := Form.declared?_covers hdeclared
      exact ⟨name, hcovers, hparts, Bool.eq_false_iff.mpr hname⟩
  · cases h

/-- A word is an identifier unless its first character is a digit. -/
theorem isIdentifier_cons {c : Char} {rest : List Char}
    (hword : (c :: rest).all isWordChar = true) : isIdentifier (c :: rest) = !isDigit c := by
  rw [List.all_cons, Bool.and_eq_true] at hword
  -- All but the first character are fine, since they belong to a word.
  have hrest : (rest.all fun c => isWordChar c || c == '$') = true := by
    rw [List.all_eq_true] at hword ⊢
    intro d hd
    rw [hword.2 d hd, Bool.true_or]
  have hdollar : (c == '$') = false := by
    rw [beq_eq_false_iff_ne]
    rintro rfl
    exact absurd hword.1 (by decide)
  rw [isIdentifier, hrest, hword.1, hdollar, Bool.true_and, Bool.or_false, Bool.and_true]

/-- A word that is no identifier begins with a digit. -/
theorem digit_of_isIdentifier_eq_false {word : List Char} (hne : word ≠ [])
    (hword : word.all isWordChar = true) (h : isIdentifier word = false) :
    ∃ c rest, word = c :: rest ∧ isDigit c = true := by
  obtain ⟨c, rest, rfl⟩ := List.exists_cons_of_ne_nil hne
  rw [isIdentifier_cons hword, Bool.not_eq_false'] at h
  exact ⟨c, rest, rfl, h⟩

/-- A word is in the case of types if its first character is a capital letter. -/
theorem isPascalCase_cons {c : Char} {rest : List Char}
    (hword : (c :: rest).all isWordChar = true) : isPascalCase (c :: rest) = isUpper c := by
  rw [List.all_cons, Bool.and_eq_true] at hword
  rw [isPascalCase, hword.2, Bool.and_true]

/-- A word that is not in the case of types does not begin with a capital letter. -/
theorem not_isUpper_of_isPascalCase_eq_false {word : List Char} (hne : word ≠ [])
    (hword : word.all isWordChar = true) (h : isPascalCase word = false) :
    ∃ c rest, word = c :: rest ∧ isUpper c = false := by
  obtain ⟨c, rest, rfl⟩ := List.exists_cons_of_ne_nil hne
  rw [isPascalCase_cons hword] at h
  exact ⟨c, rest, rfl, h⟩

/-- The message about an operator quotes its symbols, and then has all that can be overloaded. -/
theorem overloadMessage_eq (symbol : List Char) :
    overloadMessage symbol = "Invalid operator \"" ++ String.ofList symbol ++
      "\" for overloading. Valid operators: " ++
      "+, -, *, /, %, ==, !=, <, >, <=, >=, &&, ||, &, |, ^, ~, <<, >>, +=, -=, *=, /=, %=" := by
  have hlist : ", ".intercalate overloadable =
      "+, -, *, /, %, ==, !=, <, >, <=, >=, &&, ||, &, |, ^, ~, <<, >>, +=, -=, *=, /=, %=" := by
    cbv
  unfold overloadMessage
  exact congrArg _ hlist

/-- Of an operator that cannot be overloaded the symbols are marked, and the message quotes them. -/
theorem badOperator?_covers (h : badOperator? line = some finding) :
    ∃ symbols, finding.columns.Covers line symbols ∧
      symbols.all Form.isOperatorSymbol = true ∧ String.ofList symbols ∉ overloadable ∧
      finding.message = some (overloadMessage symbols) := by
  unfold badOperator? at h
  split at h
  · next span symbols hdeclared =>
    split at h
    · cases h
    · next hsymbols =>
      cases h
      obtain ⟨hcovers, hparts⟩ := Form.declared?_covers hdeclared
      refine ⟨symbols, ⟨span, rfl, hcovers⟩, hparts, fun hmem => ?_, rfl⟩
      exact hsymbols (List.contains_iff_mem.mpr hmem)
  · cases h

/-- A line with an open literal is marked whole. -/
theorem unclosedLiteral?_covers (h : unclosedLiteral? line = some finding) :
    finding.columns.Covers line line ∧ ∃ quote : Quote, quote.toChar ∈ line := by
  obtain ⟨quote, hquote, rfl⟩ := Option.map_eq_some_iff.mp h
  have hmem := Quote.mem_of_unclosed? hquote
  exact ⟨⟨_, rfl, Span.wholeLine_covers (List.ne_nil_of_mem hmem)⟩, quote, hmem⟩

/-- Of an open match expression the keyword is marked. -/
theorem openMatch_covers {index : Int} {document : Document}
    (h : .ok finding ∈ openMatch line index document) :
    finding.columns.Covers line Match.word := by
  unfold openMatch at h
  split at h
  · cases h
  · next span hhead =>
    split at h
    · simp at h
    · cases h
    · simp only [List.mem_singleton, Except.ok.injEq] at h
      subst h
      exact ⟨span, rfl, Match.head?_covers hhead⟩

/-- A range that is backward has two bounds, and the upper one is not above the lower. -/
theorem isBackward_eq_ok_true {token : RangeToken} (h : token.isBackward = .ok true) :
    ∃ upper, token.upper = some upper ∧ Numeral.ofDigits upper ≤ Numeral.ofDigits token.lower := by
  unfold RangeToken.isBackward at h
  split at h
  · cases h
  · next upper hupper =>
    refine ⟨upper, hupper, ?_⟩
    unfold Numeral.value at h
    split at h
    · cases h
    · split at h
      · cases h
      · exact of_decide_eq_true (Except.ok.inj h)

/-- A range that does not ascend is marked with both its bounds. -/
theorem judgeRange_covers (h : .ok finding ∈ (RangeToken.tokens line).filterMap judgeRange) :
    ∃ lower upper, finding.columns.Covers line (lower ++ '.' :: '.' :: upper) ∧
      (lower ≠ [] ∧ lower.all isDigit = true) ∧ (upper ≠ [] ∧ upper.all isDigit = true) ∧
      Numeral.ofDigits upper ≤ Numeral.ofDigits lower := by
  obtain ⟨found, hfound, hjudge⟩ := List.mem_filterMap.mp h
  unfold judgeRange at hjudge
  split at hjudge
  · cases hjudge
  · cases hjudge
  · next hbackward =>
    cases hjudge
    obtain ⟨upper, hupper, hle⟩ := isBackward_eq_ok_true hbackward
    obtain ⟨taken, hcovers, rfl, hlower, hnumerals⟩ :=
      RangeToken.read_spells.findAll_covers hfound
    rw [RangeToken.text, hupper, Option.getD_some] at hcovers
    exact ⟨found.2.lower, upper, ⟨_, rfl, hcovers⟩, hlower, hnumerals upper hupper, hle⟩

/-- Whatever a rule finds in a line covers what the rule marks. -/
theorem findings_marks {rule : LineRule} {index : Int} {document : Document}
    (h : .ok finding ∈ rule.findings line index document) :
    ∃ marked, finding.columns.Covers line marked ∧
      rule.Marks line (finding.message.getD rule.spec.message) marked := by
  cases rule with
  | loneBar =>
    obtain ⟨span, hspan, hcolumns⟩ := ok_mem_spans h
    obtain ⟨c, hc, hcovers⟩ := Pipeline.loneBars_covers hspan
    exact ⟨_, ⟨span, hcolumns, hcovers⟩, c, hc, rfl⟩
  | danglingPipe =>
    obtain ⟨column, hends, hcolumns⟩ := Pipeline.dangling?_eq_some_iff.mp (ok_mem_certain_toList h)
    obtain ⟨blanks, hblanks, hcovers⟩ := hends.covers (List.cons_ne_nil _ _)
    exact ⟨_, hcolumns ▸ hcovers, blanks, hblanks, rfl⟩
  | unclosedMatch => exact ⟨_, openMatch_covers h, rfl⟩
  | armWithoutPattern =>
    obtain ⟨span, hspan, hcolumns⟩ := ok_mem_spans h
    split at hspan
    · next harrow =>
      obtain ⟨blanks, rest, hline, hblanks⟩ := Match.startsWithArrow_iff.mp harrow
      have hne : line ≠ [] := by simp [hline]
      cases List.mem_singleton.mp hspan
      exact ⟨line, ⟨_, hcolumns, Span.wholeLine_covers hne⟩, rfl, blanks, rest, hblanks, hline⟩
    · cases hspan
  | queryVariable =>
    obtain ⟨span, hspan, hcolumns⟩ := ok_mem_spans_toList h
    obtain ⟨name, hcovers, hword, hname⟩ := badName?_covers hspan
    exact ⟨name, ⟨span, hcolumns, hcovers⟩, hword,
      digit_of_isIdentifier_eq_false hcovers.1 hword hname⟩
  | queryWithoutSelect =>
    obtain ⟨span, hspan, hcolumns⟩ := ok_mem_spans_toList h
    exact ⟨_, ⟨span, hcolumns, Clause.unselected?_covers hspan⟩, rfl⟩
  | operatorOverload =>
    obtain ⟨found, hfound, heq⟩ := List.mem_map.mp h
    cases heq
    obtain ⟨symbols, hcovers, hparts, hsymbols, hmessage⟩ :=
      badOperator?_covers (Option.mem_toList.mp hfound)
    refine ⟨symbols, hcovers, hcovers.span.1, hparts, hsymbols, ?_⟩
    rw [hmessage, Option.getD_some, overloadMessage_eq]
  | functionName =>
    obtain ⟨span, hspan, hcolumns⟩ := ok_mem_spans_toList h
    obtain ⟨name, hcovers, hword, hname⟩ := badName?_covers hspan
    exact ⟨name, ⟨span, hcolumns, hcovers⟩, hword,
      digit_of_isIdentifier_eq_false hcovers.1 hword hname⟩
  | arrowWithoutBody =>
    obtain ⟨column, hends, hcolumns⟩ :=
      Layout.bodilessArrow?_eq_some_iff.mp (ok_mem_certain_toList h)
    obtain ⟨loose, ⟨blanks, hblanks, hloose⟩, hcovers⟩ := hends.covers (List.cons_ne_nil _ _)
    refine ⟨_, hcolumns ▸ hcovers, blanks, hblanks, ?_⟩
    obtain rfl | ⟨more, hmore, rfl⟩ := hloose
    · exact Or.inl rfl
    · exact Or.inr ⟨more, hmore, rfl⟩
  | mixedIndentation => exact Layout.mixedIndent?_covers (ok_mem_certain_toList h)
  | unclosedString =>
    obtain ⟨found, hfound, heq⟩ := List.mem_map.mp h
    cases heq
    obtain ⟨hcovers, hquote⟩ := unclosedLiteral?_covers (Option.mem_toList.mp hfound)
    exact ⟨line, hcovers, rfl, hquote⟩
  | leadingDigit =>
    obtain ⟨span, hspan, hcolumns⟩ := ok_mem_spans h
    obtain ⟨word, hcovers, hword⟩ := digitLedWords_covers hspan
    exact ⟨_, ⟨span, hcolumns, hcovers⟩, hword⟩
  | redundantSemicolon =>
    obtain ⟨column, ⟨-, hends⟩, hcolumns⟩ :=
      Layout.redundantSemicolon?_eq_some_iff.mp (ok_mem_certain_toList h)
    obtain ⟨blanks, hblanks, hcovers⟩ := hends.covers (List.cons_ne_nil _ _)
    exact ⟨_, hcolumns ▸ hcovers, blanks, hblanks, rfl⟩
  | structName =>
    obtain ⟨span, hspan, hcolumns⟩ := ok_mem_spans_toList h
    obtain ⟨name, hcovers, hword, hname⟩ := badName?_covers hspan
    exact ⟨name, ⟨span, hcolumns, hcovers⟩, hword,
      not_isUpper_of_isPascalCase_eq_false hcovers.1 hword hname⟩
  | emptyProperty =>
    obtain ⟨span, hspan, hcolumns⟩ := ok_mem_spans h
    obtain ⟨body, hcovers, hbody⟩ := Property.emptyBlocks_covers hspan
    exact ⟨_, ⟨span, hcolumns, hcovers⟩, body, rfl, hbody⟩
  | backwardRange =>
    obtain ⟨lower, upper, hcovers, hnumerals⟩ := judgeRange_covers h
    exact ⟨_, hcovers, lower, upper, rfl, hnumerals⟩
  | withContext =>
    obtain ⟨span, hspan, hcolumns⟩ := ok_mem_spans_toList h
    exact ⟨_, ⟨span, hcolumns, Clause.unusedWith?_covers hspan⟩, rfl⟩

end LineRule

/-- The span of a finding, whose columns are in order if a rule found it. -/
def Finding.span (finding : Finding) : Span := finding.columns.span

namespace LineRule

variable {line : Line} {finding : Finding}

/-- The columns of whatever a rule finds are those of a span. -/
theorem columns_span {rule : LineRule} {index : Int} {document : Document}
    (h : .ok finding ∈ rule.findings line index document) :
    finding.span.columns = finding.columns := by
  obtain ⟨marked, hcovers, -⟩ := findings_marks h
  exact hcovers.columns_span

/-- Whatever a rule finds in a line is a span of the line that is not empty. -/
theorem findings_within {rule : LineRule} {index : Int} {document : Document}
    (h : .ok finding ∈ rule.findings line index document) : finding.span.Within line := by
  obtain ⟨marked, hcovers, -⟩ := findings_marks h
  exact hcovers.span.within

end LineRule

end ScriptLint
